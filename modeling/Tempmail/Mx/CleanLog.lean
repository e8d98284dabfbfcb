import Mathlib.Algebra.Ring.Nat
import Tempmail.Mx.Logging

set_option autoImplicit false

namespace Tempmail.Mx

open Utf8 (Item)

-- The controls from U+0080 on, and with those below U+0020 and DEL all of Unicode's.
def HighControl (c : Char) : Prop := 0x80 ≤ c.val.toNat ∧ c.val.toNat ≤ 0x9f

def Control (c : Char) : Prop := c.val.toNat < 0x20 ∨ c.val.toNat = 0x7f ∨ HighControl c

instance (c : Char) : Decidable (HighControl c) := inferInstanceAs (Decidable (_ ∧ _))

instance (c : Char) : Decidable (Control c) := inferInstanceAs (Decidable (_ ∨ _))

def Uncontrolled (text : Bytes) : Prop := ∀ c, Item.rune (String.utf8EncodeChar c) ∈ Utf8.items text → ¬ Control c

structure CleanLog (s : Bytes) : Prop where
  valid : Utf8.Valid (sanitizeForLog s)
  short : (sanitizeForLog s).length ≤ 203
  quiet : Uncontrolled (sanitizeForLog s)
  same : s.length ≤ 200 → Utf8.Valid s → Uncontrolled s → sanitizeForLog s = s

def room : Item → Nat
  | .stray _ => 3
  | .rune [b] => if b = 0x09 then 1 else if b.toNat < 0x20 ∨ b = 0x7f then 0 else 1
  | .rune bytes => bytes.length

-- What is kept in the first bytes of the log is kept whole, and is no control from U+0080 on.
def Fits (limit : Nat) (items : List Item) : Prop :=
  ∀ before item after, items = before ++ item :: after → (before.map room).sum < limit →
    (before.map room).sum + room item ≤ limit ∧ ∀ c, item = .rune (String.utf8EncodeChar c) → ¬ HighControl c

theorem fits_nil (limit : Nat) : Fits limit [] := by
  intro before item after split
  simp at split

theorem fits_zero (items : List Item) : Fits 0 items := fun _ _ _ _ below => absurd below (Nat.not_lt_zero _)

theorem fits_cons (limit : Nat) (item : Item) (rest : List Item) :
    Fits limit (item :: rest) ↔
      (0 < limit → room item ≤ limit ∧ ∀ c, item = .rune (String.utf8EncodeChar c) → ¬ HighControl c) ∧
        Fits (limit - room item) rest := by
  refine ⟨fun fits => ⟨fun positive => ?_, fun before next after split below => ?_⟩,
    fun both before next after split below => ?_⟩
  · have here := fits [] item rest rfl (by simpa using positive)
    simpa using here
  · have here := fits (item :: before) next after (by rw [split]; rfl)
    rw [List.map_cons, List.sum_cons] at here
    have kept := here (by omega)
    exact ⟨by omega, kept.2⟩
  · cases before with
    | nil =>
        rw [List.nil_append, List.cons.injEq] at split
        rw [← split.1]
        simpa using both.1 (by simpa using below)
    | cons first before =>
        rw [List.cons_append, List.cons.injEq] at split
        rw [← split.1, List.map_cons, List.sum_cons] at below ⊢
        have kept := both.2 before next after split.2 (by omega)
        exact ⟨by omega, kept.2⟩

theorem control_items (chars : List Char) : Uncontrolled (Utf8.encode chars) ↔ ∀ c ∈ chars, ¬ Control c := by
  rw [Uncontrolled, Utf8.items_encode]
  refine ⟨fun quiet c member => quiet c (List.mem_map_of_mem member), fun quiet c member => ?_⟩
  obtain ⟨d, inside, same⟩ := List.mem_map.mp member
  rw [← Utf8.encoded_injective d c (Item.rune.inj same)]
  exact quiet d inside

theorem clean_iff_encodes (text : Bytes) :
    Utf8.Valid text ∧ Uncontrolled text ↔ Utf8.Encodes (fun c => ¬ Control c) text := by
  refine ⟨fun both => ?_, fun encoded => ?_⟩
  · obtain ⟨⟨chars, rfl⟩, quiet⟩ := both
    exact ⟨chars, rfl, (control_items chars).mp quiet⟩
  · obtain ⟨chars, rfl, quiet⟩ := encoded
    exact ⟨⟨chars, rfl⟩, (control_items chars).mpr quiet⟩

-- What the loop writes for a rune: nothing for a control below U+0080 other than
-- a tab, else one character, which is a control where the rune is a higher one.
theorem written_rune (c : Char) :
    (written (.rune (String.utf8EncodeChar c)) = [] ∧ room (.rune (String.utf8EncodeChar c)) = 0 ∧ Control c ∧
        ¬ HighControl c) ∨
      ∃ d, written (.rune (String.utf8EncodeChar c)) = String.utf8EncodeChar d ∧
        room (.rune (String.utf8EncodeChar c)) = d.utf8Size ∧ (Control d ↔ HighControl c) ∧ (¬ Control c → d = c) := by
  by_cases low : c.val.toNat < 0x80
  · have below : ¬ HighControl c := fun control => by
      have bound := control.1
      omega
    have value := Utf8.byte_of_nat c.val.toNat (by omega)
    have size : c.utf8Size = 1 := by rw [← String.length_utf8EncodeChar, Utf8.encoded_low c low, List.length_singleton]
    have deleted : UInt8.ofNat c.val.toNat = 0x7f ↔ c.val.toNat = 0x7f := by
      rw [← UInt8.toNat_inj, value]
      rfl
    have tabbed : UInt8.ofNat c.val.toNat = 0x09 ↔ c.val.toNat = 0x09 := by
      rw [← UInt8.toNat_inj, value]
      rfl
    rw [Utf8.encoded_low c low]
    simp only [written, room, value, deleted, tabbed]
    by_cases tab : c.val.toNat = 0x09
    · rw [if_pos tab, if_pos tab]
      refine Or.inr ⟨' ', by decide, by decide, iff_of_false (by decide) below, fun kept => ?_⟩
      exact absurd (Or.inl (by omega)) kept
    · rw [if_neg tab, if_neg tab]
      by_cases gone : c.val.toNat < 0x20 ∨ c.val.toNat = 0x7f
      · rw [if_pos gone, if_pos gone]
        exact Or.inl ⟨rfl, rfl, gone.imp id Or.inl, below⟩
      · rw [if_neg gone, if_neg gone]
        have kept : ¬ Control c := fun control => gone (control.imp id (fun later => later.resolve_right below))
        exact Or.inr ⟨c, (Utf8.encoded_low c low).symm, size.symm, iff_of_false kept below, fun _ => rfl⟩
  · have high : Control c ↔ HighControl c := by
      refine ⟨fun control => ?_, fun second => Or.inr (Or.inr second)⟩
      rcases control with under | deleted | second
      · omega
      · omega
      · exact second
    obtain ⟨first, others, encoded⟩ := Utf8.encoded_cons c
    have long : ¬ first.toNat < 0x80 := fun short =>
      low (Utf8.encoded_ascii c first (by simp [encoded]) short ▸ short)
    have tab : first ≠ 0x09 := fun same => long (by rw [same]; decide)
    have kept : ¬ (first.toNat < 0x20 ∨ first = 0x7f) := by
      rintro (under | deleted)
      · omega
      · exact long (by rw [deleted]; decide)
    refine Or.inr ⟨c, ?_, ?_, high, fun _ => rfl⟩
    · simp only [encoded, written, if_neg tab, if_neg kept]
    · rw [← String.length_utf8EncodeChar, encoded]
      cases others with
      | nil => simp only [room, if_neg tab, if_neg kept, List.length_singleton]
      | cons second others => rfl

theorem kept_clean (chars : List Char) (quiet : ∀ c ∈ chars, ¬ Control c) :
    (Utf8.items (Utf8.encode chars)).flatMap written = Utf8.encode chars := by
  rw [Utf8.items_encode]
  induction chars with
  | nil => rfl
  | cons c rest ih =>
      rw [List.forall_mem_cons] at quiet
      rw [List.map_cons, List.flatMap_cons, ih quiet.2, Utf8.encode_cons]
      rcases written_rune c with ⟨_, _, control, _⟩ | ⟨d, written_eq, _, _, same⟩
      · exact absurd control quiet.1
      · rw [written_eq, same quiet.1]

theorem cut_step (item : Item) (d : Char) (rest : List Item) (limit : Nat) (written_eq : written item = String.utf8EncodeChar d)
    (room_eq : room item = d.utf8Size) (control : Control d ↔ ∃ c, item = .rune (String.utf8EncodeChar c) ∧ HighControl c)
    (later : ∀ fewer, Utf8.Encodes (fun c => ¬ Control c) ((rest.flatMap written).take fewer) ↔ Fits fewer rest) :
    Utf8.Encodes (fun c => ¬ Control c) (((item :: rest).flatMap written).take limit) ↔ Fits limit (item :: rest) := by
  have first : ¬ Control d ↔ ∀ c, item = .rune (String.utf8EncodeChar c) → ¬ HighControl c := by
    rw [control, not_exists]
    exact forall_congr' (fun _ => not_and)
  cases limit with
  | zero => exact iff_of_true (Utf8.encodes_nil _) (fits_zero _)
  | succ limit =>
      rw [List.flatMap_cons, written_eq, Utf8.encodes_take _ d _ _ (Nat.succ_pos limit), later, fits_cons, room_eq, first,
        ← and_assoc]
      exact and_congr_left' ⟨fun kept _ => kept, fun kept => kept (Nat.succ_pos limit)⟩

theorem cut_iff (s : Bytes) (limit : Nat) :
    Utf8.Encodes (fun c => ¬ Control c) (((Utf8.items s).flatMap written).take limit) ↔ Fits limit (Utf8.items s) := by
  induction s using Utf8.rune_induction generalizing limit with
  | nil => simpa [Utf8.items, Utf8.itemsWithin] using iff_of_true (Utf8.encodes_nil _) (fits_nil limit)
  | stray b rest stray ih =>
      rw [Utf8.items_stray b rest stray]
      refine cut_step _ (Char.ofNat 0xfffd) _ limit (show [0xef, 0xbf, 0xbd] = _ by decide) (show 3 = _ by decide)
         (iff_of_false (by decide) ?_) ih
      intro rune
      obtain ⟨c, same, _⟩ := rune
      cases same
  | rune c rest ih =>
      rw [Utf8.items_encoded]
      have named : (∃ other, Item.rune (String.utf8EncodeChar c) = .rune (String.utf8EncodeChar other) ∧ HighControl other) ↔
          HighControl c := by
        refine ⟨fun found => ?_, fun high => ⟨c, rfl, high⟩⟩
        obtain ⟨other, same, _⟩ := found
        rwa [Utf8.encoded_injective c other (Item.rune.inj same)]
      rcases written_rune c with ⟨dropped, none, _, below⟩ | ⟨d, written_eq, room_eq, control, _⟩
      · rw [List.flatMap_cons, dropped, List.nil_append, ih, fits_cons, none, Nat.sub_zero]
        refine (and_iff_right ?_).symm
        intro _
        refine ⟨Nat.zero_le _, fun other same second => below (named.mp ⟨other, same, second⟩)⟩
      · exact cut_step _ d _ limit written_eq room_eq (control.trans named.symm) ih

theorem dots_iff (text : Bytes) :
    Utf8.Encodes (fun c => ¬ Control c) (text ++ ellipsis) ↔ Utf8.Encodes (fun c => ¬ Control c) text := by
  refine ⟨fun encoded => ?_, fun encoded => ?_⟩
  · have shape : text ++ ellipsis = text ++ [0x2e] ++ [0x2e] ++ [0x2e] := by simp [ellipsis]
    rw [shape] at encoded
    have two := Utf8.encodes_snoc _ _ _ (by decide) encoded
    have one := Utf8.encodes_snoc _ _ _ (by decide) two
    exact Utf8.encodes_snoc _ _ _ (by decide) one
  · obtain ⟨chars, rfl, quiet⟩ := encoded
    refine ⟨chars ++ ['.', '.', '.'], by rw [Utf8.encode_append]; rfl, ?_⟩
    intro c member
    rcases List.mem_append.mp member with inside | dot
    · exact quiet c inside
    · simp only [List.mem_cons, List.not_mem_nil, or_false, or_self] at dot
      rw [dot]
      decide

theorem sanitized_iff (s : Bytes) :
    Utf8.Valid (sanitizeForLog s) ∧ Uncontrolled (sanitizeForLog s) ↔ Fits 200 (Utf8.items s) := by
  rw [clean_iff_encodes, ← cut_iff, sanitizeForLog]
  split
  · exact dots_iff _
  · rename_i short
    rw [List.take_of_length_le (Nat.le_of_not_gt short)]

theorem sanitized_short (s : Bytes) : (sanitizeForLog s).length ≤ 203 := by
  rw [sanitizeForLog]
  split
  · rw [List.length_append, List.length_take, show ellipsis.length = 3 from rfl]
    omega
  · omega

theorem sanitized_same (s : Bytes) (short : s.length ≤ 200) (valid : Utf8.Valid s) (quiet : Uncontrolled s) :
    sanitizeForLog s = s := by
  obtain ⟨chars, rfl⟩ := valid
  rw [sanitizeForLog, kept_clean chars ((control_items chars).mp quiet)]
  exact if_neg (Nat.not_lt.mpr short)

theorem clean_log_iff (s : Bytes) : CleanLog s ↔ Fits 200 (Utf8.items s) := by
  rw [← sanitized_iff]
  exact ⟨fun clean => ⟨clean.valid, clean.quiet⟩,
    fun both => ⟨both.1, sanitized_short s, both.2, fun short valid quiet => sanitized_same s short valid quiet⟩⟩

-- NEL in a Subject comes out as it went in.
theorem next_line_kept : ¬ ∀ s, CleanLog s := by
  intro clean
  have quiet := (clean [0xc2, 0x85]).quiet
  exact quiet (Char.ofNat 0x85) (by decide +kernel) (by decide)

end Tempmail.Mx
