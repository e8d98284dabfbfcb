import Mathlib.Data.List.Basic

set_option autoImplicit false

-- UTF-8 byte by byte: the decoder of unicode/utf8 over byte lists, measured
-- against the encodings of characters.
namespace Utf8

abbrev Bytes := List UInt8

def encode (chars : List Char) : Bytes := chars.flatMap String.utf8EncodeChar

def Valid (bytes : Bytes) : Prop := ∃ chars, bytes = encode chars

def trails (b : UInt8) : Bool := decide (0x80 ≤ b.toNat) && decide (b.toNat ≤ 0xbf)

def announced (a : UInt8) : Nat :=
  if a.toNat < 0x80 then 1
  else if a.toNat < 0xc2 then 0
  else if a.toNat < 0xe0 then 2
  else if a.toNat < 0xf0 then 3
  else if a.toNat < 0xf5 then 4
  else 0

-- The second bytes a first byte accepts: no overlong forms, no surrogates,
-- nothing beyond U+10FFFF.
def accepts (a b : UInt8) : Bool :=
  if a.toNat = 0xe0 then decide (0xa0 ≤ b.toNat) && decide (b.toNat ≤ 0xbf)
  else if a.toNat = 0xed then decide (0x80 ≤ b.toNat) && decide (b.toNat ≤ 0x9f)
  else if a.toNat = 0xf0 then decide (0x90 ≤ b.toNat) && decide (b.toNat ≤ 0xbf)
  else if a.toNat = 0xf4 then decide (0x80 ≤ b.toNat) && decide (b.toNat ≤ 0x8f)
  else trails b

-- The width of the rune at the head of the bytes. Zero stands for RuneError of
-- width one, and for the end.
def runeWidth : Bytes → Nat
  | [] => 0
  | a :: rest =>
      match announced a, rest with
      | 1, _ => 1
      | 2, b :: _ => if accepts a b then 2 else 0
      | 3, b :: c :: _ => if accepts a b && trails c then 3 else 0
      | 4, b :: c :: d :: _ => if accepts a b && trails c && trails d then 4 else 0
      | _, _ => 0

def runeStart (b : UInt8) : Bool := b &&& 0xc0 != 0x80

inductive Item where
  | rune (bytes : Bytes)
  | stray (b : UInt8)
deriving DecidableEq

def itemsWithin : Nat → Bytes → List Item
  | _, [] => []
  | 0, _ => []
  | fuel + 1, b :: rest =>
      match runeWidth (b :: rest) with
      | 0 => .stray b :: itemsWithin fuel rest
      | more + 1 => .rune (b :: rest.take more) :: itemsWithin fuel (rest.drop more)

-- for _, r := range text. Each item takes a byte at least.
def items (text : Bytes) : List Item := itemsWithin text.length text

def Item.valid : Item → Bool
  | .rune _ => true
  | .stray _ => false

def validString (text : Bytes) : Bool := (items text).all Item.valid

def mended (replacement : Bytes) : Bool → List Item → Bytes
  | _, [] => []
  | invalid, .stray _ :: rest => (if invalid then [] else replacement) ++ mended replacement true rest
  | _, .rune bytes :: rest => bytes ++ mended replacement false rest

def toValidUTF8 (text replacement : Bytes) : Bytes := mended replacement false (items text)

theorem encode_append (first second : List Char) : encode (first ++ second) = encode first ++ encode second :=
  List.flatMap_append

theorem encode_cons (c : Char) (rest : List Char) : encode (c :: rest) = String.utf8EncodeChar c ++ encode rest :=
  List.flatMap_cons

theorem byte_of_nat (n : Nat) (small : n < 256) : (UInt8.ofNat n).toNat = n := by
  rw [UInt8.toNat_ofNat']
  exact Nat.mod_eq_of_lt small

theorem width_one (a : UInt8) (rest : Bytes) (first : a.toNat < 0x80) : runeWidth (a :: rest) = 1 := by
  have width : announced a = 1 := by rw [announced, if_pos first]
  simp only [runeWidth, width]

theorem width_two (a b : UInt8) (rest : Bytes) (first : 0xc2 ≤ a.toNat ∧ a.toNat < 0xe0) (second : trails b = true) :
    runeWidth (a :: b :: rest) = 2 := by
  have width : announced a = 2 := by
    rw [announced, if_neg (by omega), if_neg (by omega), if_pos first.2]
  have accepted : accepts a b = true := by
    rw [accepts, if_neg (by omega), if_neg (by omega), if_neg (by omega), if_neg (by omega), second]
  simp only [runeWidth, width, accepted, if_true]

theorem width_three (a b c : UInt8) (rest : Bytes) (first : 0xe0 ≤ a.toNat ∧ a.toNat < 0xf0) (second : accepts a b = true)
    (third : trails c = true) : runeWidth (a :: b :: c :: rest) = 3 := by
  have width : announced a = 3 := by
    rw [announced, if_neg (by omega), if_neg (by omega), if_neg (by omega), if_pos first.2]
  simp only [runeWidth, width, second, third, Bool.and_self, if_true]

theorem width_four (a b c d : UInt8) (rest : Bytes) (first : 0xf0 ≤ a.toNat ∧ a.toNat < 0xf5) (second : accepts a b = true)
    (third : trails c = true) (fourth : trails d = true) : runeWidth (a :: b :: c :: d :: rest) = 4 := by
  have width : announced a = 4 := by
    rw [announced, if_neg (by omega), if_neg (by omega), if_neg (by omega), if_neg (by omega), if_pos first.2]
  simp only [runeWidth, width, second, third, fourth, Bool.and_self, if_true]

theorem trails_of_nat (n : Nat) : trails (UInt8.ofNat (n % 0x40 + 0x80)) = true := by
  rw [trails, byte_of_nat _ (by omega), decide_eq_true (by omega), decide_eq_true (by omega)]
  rfl

theorem accepts_of_nat (v : Nat) (wide : 0x7ff < v) (bounded : v < 0xd800 ∨ 0xdfff < v ∧ v < 0x110000) :
    (v ≤ 0xffff → accepts (UInt8.ofNat (v / 4096 % 0x10 + 0xe0)) (UInt8.ofNat (v / 64 % 0x40 + 0x80)) = true) ∧
      (0xffff < v → accepts (UInt8.ofNat (v / 262144 % 0x08 + 0xf0)) (UInt8.ofNat (v / 4096 % 0x40 + 0x80)) = true) := by
  constructor
  · intro short
    rw [accepts, trails, byte_of_nat _ (by omega), byte_of_nat _ (by omega)]
    split
    · rw [decide_eq_true (by omega), decide_eq_true (by omega)]
      rfl
    · split
      · rw [decide_eq_true (by omega), decide_eq_true (by omega)]
        rfl
      · rw [if_neg (by omega), if_neg (by omega), decide_eq_true (by omega), decide_eq_true (by omega)]
        rfl
  · intro long
    rw [accepts, trails, byte_of_nat _ (by omega), byte_of_nat _ (by omega), if_neg (by omega), if_neg (by omega)]
    split
    · rw [decide_eq_true (by omega), decide_eq_true (by omega)]
      rfl
    · split
      · rw [decide_eq_true (by omega), decide_eq_true (by omega)]
        rfl
      · rw [decide_eq_true (by omega), decide_eq_true (by omega)]
        rfl

theorem width_encoded (c : Char) (rest : Bytes) :
    runeWidth (String.utf8EncodeChar c ++ rest) = (String.utf8EncodeChar c).length := by
  have bounded : c.val.toNat < 0xd800 ∨ 0xdfff < c.val.toNat ∧ c.val.toNat < 0x110000 := c.valid
  unfold String.utf8EncodeChar
  simp only
  split
  · exact width_one _ _ (by rw [byte_of_nat _ (by omega)]; omega)
  · split
    · refine width_two _ _ _ ?_ (trails_of_nat _)
      rw [byte_of_nat _ (by omega)]
      omega
    · have accepted := accepts_of_nat c.val.toNat (by omega) bounded
      split
      · refine width_three _ _ _ _ ?_ (accepted.1 (by omega)) (trails_of_nat _)
        rw [byte_of_nat _ (by omega)]
        omega
      · refine width_four _ _ _ _ _ ?_ (accepted.2 (by omega)) (trails_of_nat _) (trails_of_nat _)
        rw [byte_of_nat _ (by omega)]
        omega

theorem char_of_value (v : Nat) (bounded : v < 0xd800 ∨ 0xdfff < v ∧ v < 0x110000) : ∃ c : Char, c.val.toNat = v := by
  have whole : (UInt32.ofNat v).toNat = v := by
    rw [UInt32.toNat_ofNat']
    exact Nat.mod_eq_of_lt (by omega)
  exact ⟨⟨UInt32.ofNat v, by rw [UInt32.isValidChar, whole]; exact bounded⟩, whole⟩

theorem byte_eq (n : Nat) (b : UInt8) (same : n = b.toNat) : UInt8.ofNat n = b := by
  rw [same, UInt8.ofNat_toNat]

theorem trails_bounds (b : UInt8) (trailing : trails b = true) : 0x80 ≤ b.toNat ∧ b.toNat ≤ 0xbf := by
  simpa [trails] using trailing

theorem accepts_bounds (a b : UInt8) (accepted : accepts a b = true) : 0x80 ≤ b.toNat ∧ b.toNat ≤ 0xbf ∧
    (a.toNat = 0xe0 → 0xa0 ≤ b.toNat) ∧ (a.toNat = 0xed → b.toNat ≤ 0x9f) ∧ (a.toNat = 0xf0 → 0x90 ≤ b.toNat) ∧
      (a.toNat = 0xf4 → b.toNat ≤ 0x8f) := by
  rw [accepts, trails] at accepted
  split at accepted
  · simp only [Bool.and_eq_true, decide_eq_true_eq] at accepted
    omega
  · split at accepted
    · simp only [Bool.and_eq_true, decide_eq_true_eq] at accepted
      omega
    · split at accepted
      · simp only [Bool.and_eq_true, decide_eq_true_eq] at accepted
        omega
      · split at accepted
        · simp only [Bool.and_eq_true, decide_eq_true_eq] at accepted
          omega
        · simp only [Bool.and_eq_true, decide_eq_true_eq] at accepted
          omega

theorem sound_one (a : UInt8) (first : a.toNat < 0x80) : ∃ c, String.utf8EncodeChar c = [a] := by
  obtain ⟨c, value⟩ := char_of_value a.toNat (by omega)
  refine ⟨c, ?_⟩
  simp only [String.utf8EncodeChar, value]
  rw [if_pos (by omega), byte_eq _ a rfl]

theorem sound_two (a b : UInt8) (first : 0xc2 ≤ a.toNat ∧ a.toNat < 0xe0) (second : 0x80 ≤ b.toNat ∧ b.toNat ≤ 0xbf) :
    ∃ c, String.utf8EncodeChar c = [a, b] := by
  obtain ⟨c, value⟩ := char_of_value ((a.toNat - 0xc0) * 64 + (b.toNat - 0x80)) (by omega)
  refine ⟨c, ?_⟩
  simp only [String.utf8EncodeChar, value]
  rw [if_neg (by omega), if_pos (by omega), byte_eq _ a (by omega), byte_eq _ b (by omega)]

theorem sound_three (a b c : UInt8) (first : 0xe0 ≤ a.toNat ∧ a.toNat < 0xf0) (second : accepts a b = true)
    (third : trails c = true) : ∃ rune, String.utf8EncodeChar rune = [a, b, c] := by
  have bounds := accepts_bounds a b second
  have last := trails_bounds c third
  obtain ⟨rune, value⟩ := char_of_value ((a.toNat - 0xe0) * 4096 + (b.toNat - 0x80) * 64 + (c.toNat - 0x80)) (by omega)
  refine ⟨rune, ?_⟩
  simp only [String.utf8EncodeChar, value]
  rw [if_neg (by omega), if_neg (by omega), if_pos (by omega), byte_eq _ a (by omega), byte_eq _ b (by omega),
    byte_eq _ c (by omega)]

theorem sound_four (a b c d : UInt8) (first : 0xf0 ≤ a.toNat ∧ a.toNat < 0xf5) (second : accepts a b = true)
    (third : trails c = true) (fourth : trails d = true) : ∃ rune, String.utf8EncodeChar rune = [a, b, c, d] := by
  have bounds := accepts_bounds a b second
  have middle := trails_bounds c third
  have last := trails_bounds d fourth
  obtain ⟨rune, value⟩ := char_of_value
    ((a.toNat - 0xf0) * 262144 + (b.toNat - 0x80) * 4096 + (c.toNat - 0x80) * 64 + (d.toNat - 0x80)) (by omega)
  refine ⟨rune, ?_⟩
  simp only [String.utf8EncodeChar, value]
  rw [if_neg (by omega), if_neg (by omega), if_neg (by omega), byte_eq _ a (by omega), byte_eq _ b (by omega),
    byte_eq _ c (by omega), byte_eq _ d (by omega)]

theorem announced_bounds (a : UInt8) : (announced a = 1 → a.toNat < 0x80) ∧ (announced a = 2 → 0xc2 ≤ a.toNat ∧ a.toNat < 0xe0) ∧
    (announced a = 3 → 0xe0 ≤ a.toNat ∧ a.toNat < 0xf0) ∧ (announced a = 4 → 0xf0 ≤ a.toNat ∧ a.toNat < 0xf5) := by
  unfold announced
  grind

theorem width_sound (bytes : Bytes) (found : runeWidth bytes ≠ 0) :
    ∃ c rest, bytes = String.utf8EncodeChar c ++ rest := by
  revert found
  fun_cases runeWidth bytes with
  | case2 a rest width =>
      intro _
      obtain ⟨c, encoded⟩ := sound_one a ((announced_bounds a).1 width)
      exact ⟨c, rest, by rw [encoded]; rfl⟩
  | case3 a b rest width second =>
      intro _
      have bounds := accepts_bounds a b second
      obtain ⟨c, encoded⟩ := sound_two a b ((announced_bounds a).2.1 width) ⟨bounds.1, bounds.2.1⟩
      exact ⟨c, rest, by rw [encoded]; rfl⟩
  | case5 a b c rest width tested =>
      intro _
      obtain ⟨second, third⟩ := Bool.and_eq_true_iff.mp tested
      obtain ⟨rune, encoded⟩ := sound_three a b c ((announced_bounds a).2.2.1 width) second third
      exact ⟨rune, rest, by rw [encoded]; rfl⟩
  | case7 a b c d rest width tested =>
      intro _
      obtain ⟨front, fourth⟩ := Bool.and_eq_true_iff.mp tested
      obtain ⟨second, third⟩ := Bool.and_eq_true_iff.mp front
      obtain ⟨rune, encoded⟩ := sound_four a b c d ((announced_bounds a).2.2.2 width) second third fourth
      exact ⟨rune, rest, by rw [encoded]; rfl⟩
  | _ => exact fun nonzero => absurd rfl nonzero

theorem encoded_cons (c : Char) : ∃ first others, String.utf8EncodeChar c = first :: others :=
  List.exists_cons_of_ne_nil (List.ne_nil_of_length_pos (by rw [String.length_utf8EncodeChar]; exact c.utf8Size_pos))

theorem rune_induction (motive : Bytes → Prop) (nil : motive [])
    (rune : ∀ c rest, motive rest → motive (String.utf8EncodeChar c ++ rest))
    (stray : ∀ b rest, runeWidth (b :: rest) = 0 → motive rest → motive (b :: rest)) (bytes : Bytes) : motive bytes := by
  induction size : bytes.length using Nat.strongRecOn generalizing bytes with
  | ind size ih =>
      cases bytes with
      | nil => exact nil
      | cons b rest =>
          by_cases found : runeWidth (b :: rest) = 0
          · exact stray b rest found (ih rest.length (by simp at size; omega) rest rfl)
          · obtain ⟨c, more, split⟩ := width_sound (b :: rest) found
            rw [split] at size ⊢
            refine rune c more (ih more.length ?_ more rfl)
            have positive := c.utf8Size_pos
            rw [List.length_append, String.length_utf8EncodeChar] at size
            omega

theorem items_within (first second : Nat) (text : Bytes) (enough : text.length ≤ first) (also : text.length ≤ second) :
    itemsWithin first text = itemsWithin second text := by
  induction first generalizing second text with
  | zero =>
      rw [List.length_eq_zero_iff.mp (Nat.le_zero.mp enough)]
      cases second <;> rfl
  | succ first ih =>
      cases text with
      | nil => cases second <;> rfl
      | cons b rest =>
          rw [List.length_cons] at enough also
          cases second with
          | zero => omega
          | succ second =>
              have shorter : ∀ more, (rest.drop more).length ≤ rest.length := by
                intro more
                rw [List.length_drop]
                omega
              rw [itemsWithin, itemsWithin]
              split
              · rw [ih second rest (by omega) (by omega)]
              · rename_i more _
                have left := shorter more
                rw [ih second (rest.drop more) (by omega) (by omega)]

theorem items_encoded (c : Char) (rest : Bytes) :
    items (String.utf8EncodeChar c ++ rest) = .rune (String.utf8EncodeChar c) :: items rest := by
  have width := width_encoded c rest
  obtain ⟨first, others, encoded⟩ := encoded_cons c
  rw [encoded, List.cons_append] at width ⊢
  rw [List.length_cons] at width
  rw [items, List.length_cons, itemsWithin, width]
  simp only [List.drop_left, List.take_left]
  rw [items_within _ rest.length rest (by rw [List.length_append]; omega) (Nat.le_refl _), ← items]

theorem items_stray (b : UInt8) (rest : Bytes) (stray : runeWidth (b :: rest) = 0) :
    items (b :: rest) = .stray b :: items rest := by
  rw [items, List.length_cons, itemsWithin, stray, ← items]

theorem items_encode (chars : List Char) : items (encode chars) = chars.map (fun c => .rune (String.utf8EncodeChar c)) := by
  induction chars with
  | nil => rfl
  | cons c rest ih => rw [encode_cons, items_encoded, ih, List.map_cons]

theorem valid_string_encode (chars : List Char) : validString (encode chars) = true := by
  rw [validString, items_encode, List.all_map]
  exact List.all_eq_true.mpr (fun _ _ => rfl)

theorem valid_string_iff (text : Bytes) : validString text = true ↔ Valid text := by
  constructor
  · unfold validString
    induction text using rune_induction with
    | nil => exact fun _ => ⟨[], rfl⟩
    | rune c rest ih =>
        intro checked
        rw [items_encoded, List.all_cons] at checked
        obtain ⟨chars, encoded⟩ := ih (Bool.and_eq_true_iff.mp checked).2
        exact ⟨c :: chars, by rw [encode_cons, encoded]⟩
    | stray b rest stray _ =>
        intro checked
        rw [items_stray b rest stray] at checked
        cases checked
  · rintro ⟨chars, rfl⟩
    exact valid_string_encode chars

theorem valid_append (first second : Bytes) (left : Valid first) (right : Valid second) : Valid (first ++ second) := by
  obtain ⟨before, rfl⟩ := left
  obtain ⟨after, rfl⟩ := right
  exact ⟨before ++ after, (encode_append before after).symm⟩

theorem mended_valid (replacement : Bytes) (good : Valid replacement) (invalid : Bool) (text : Bytes) :
    Valid (mended replacement invalid (items text)) := by
  induction text using rune_induction generalizing invalid with
  | nil => exact ⟨[], rfl⟩
  | rune c rest ih =>
      rw [items_encoded, mended]
      exact valid_append _ _ ⟨[c], (List.append_nil _).symm⟩ (ih false)
  | stray b rest stray ih =>
      rw [items_stray b rest stray, mended]
      refine valid_append _ _ ?_ (ih true)
      split
      · exact ⟨[], rfl⟩
      · exact good

theorem to_valid_valid (text replacement : Bytes) (good : Valid replacement) : Valid (toValidUTF8 text replacement) :=
  mended_valid replacement good false text

theorem mended_member (replacement : Bytes) (invalid : Bool) (text : Bytes) (b : UInt8)
    (member : b ∈ mended replacement invalid (items text)) : b ∈ replacement ∨ b ∈ text := by
  induction text using rune_induction generalizing invalid with
  | nil => cases member
  | rune c rest ih =>
      rw [items_encoded, mended] at member
      rcases List.mem_append.mp member with here | there
      · exact Or.inr (List.mem_append_left _ here)
      · exact (ih false there).imp id (List.mem_append_right _)
  | stray head rest stray ih =>
      rw [items_stray head rest stray, mended] at member
      rcases List.mem_append.mp member with here | there
      · split at here
        · cases here
        · exact Or.inl here
      · exact (ih true there).imp id (List.mem_cons_of_mem _)

theorem to_valid_member (text replacement : Bytes) (b : UInt8) (member : b ∈ toValidUTF8 text replacement) :
    b ∈ replacement ∨ b ∈ text :=
  mended_member replacement false text b member

theorem rune_start_eq (b : UInt8) : runeStart b = !trails b := by
  have all : ∀ n : Fin 256, runeStart (UInt8.ofNat n) = !trails (UInt8.ofNat n) := by decide +kernel
  have here := all ⟨b.toNat, b.toNat_lt⟩
  rwa [UInt8.ofNat_toNat] at here

theorem encoded_starts (c : Char) : ∃ first others, String.utf8EncodeChar c = first :: others ∧ runeStart first = true ∧
    ∀ b ∈ others, runeStart b = false := by
  have starts : ∀ n, n < 0x80 ∨ 0xc0 ≤ n → n < 256 → runeStart (UInt8.ofNat n) = true := by
    intro n outside small
    rw [rune_start_eq, trails, byte_of_nat n small]
    rcases outside with low | high
    · rw [decide_eq_false (by omega)]
      rfl
    · rw [decide_eq_false (p := n ≤ 0xbf) (by omega), Bool.and_false]
      rfl
  have follows : ∀ n, runeStart (UInt8.ofNat (n % 0x40 + 0x80)) = false := by
    intro n
    rw [rune_start_eq, trails_of_nat]
    rfl
  unfold String.utf8EncodeChar
  simp only
  split
  · exact ⟨_, _, rfl, starts _ (by omega) (by omega), nofun⟩
  · split
    · exact ⟨_, _, rfl, starts _ (by omega) (by omega), by simpa only [List.mem_singleton, forall_eq] using follows _⟩
    · split
      · exact ⟨_, _, rfl, starts _ (by omega) (by omega), by
          simp only [List.mem_cons, List.not_mem_nil, or_false, forall_eq_or_imp, forall_eq]
          exact ⟨follows _, follows _⟩⟩
      · exact ⟨_, _, rfl, starts _ (by omega) (by omega), by
          simp only [List.mem_cons, List.not_mem_nil, or_false, forall_eq_or_imp, forall_eq]
          exact ⟨follows _, follows _, follows _⟩⟩

-- Only the NUL character has a zero byte, and it is that byte.
theorem encoded_zero (c : Char) : (c = '\x00' → String.utf8EncodeChar c = [0]) ∧
    (c ≠ '\x00' → ∀ b ∈ String.utf8EncodeChar c, b ≠ 0) := by
  constructor
  · rintro rfl
    decide
  · intro other
    have value : c.val.toNat ≠ 0 := by
      intro zero
      exact other (Char.ext (UInt32.toNat_inj.mp zero))
    have bounded : c.val.toNat < 0xd800 ∨ 0xdfff < c.val.toNat ∧ c.val.toNat < 0x110000 := c.valid
    have nonzero : ∀ n, n ≠ 0 → n < 256 → UInt8.ofNat n ≠ 0 := by
      intro n positive small same
      have zero := congrArg UInt8.toNat same
      rw [byte_of_nat n small] at zero
      exact positive zero
    unfold String.utf8EncodeChar
    simp only
    split
    · simpa using nonzero _ value (by omega)
    · split
      · simp only [List.mem_cons, List.not_mem_nil, or_false, forall_eq_or_imp, forall_eq]
        exact ⟨nonzero _ (by omega) (by omega), nonzero _ (by omega) (by omega)⟩
      · split
        · simp only [List.mem_cons, List.not_mem_nil, or_false, forall_eq_or_imp, forall_eq]
          exact ⟨nonzero _ (by omega) (by omega), nonzero _ (by omega) (by omega), nonzero _ (by omega) (by omega)⟩
        · simp only [List.mem_cons, List.not_mem_nil, or_false, forall_eq_or_imp, forall_eq]
          exact ⟨nonzero _ (by omega) (by omega), nonzero _ (by omega) (by omega), nonzero _ (by omega) (by omega),
            nonzero _ (by omega) (by omega)⟩

theorem encoded_ascii (c : Char) (b : UInt8) (member : b ∈ String.utf8EncodeChar c) (low : b.toNat < 0x80) :
    c.val.toNat = b.toNat := by
  have high : ∀ n, 0x80 ≤ n → n < 256 → b ≠ UInt8.ofNat n := by
    intro n large small same
    rw [same, byte_of_nat n small] at low
    omega
  have bounded : c.val.toNat < 0xd800 ∨ 0xdfff < c.val.toNat ∧ c.val.toNat < 0x110000 := c.valid
  unfold String.utf8EncodeChar at member
  simp only at member
  split at member
  · rw [List.mem_singleton.mp member, byte_of_nat _ (by omega)]
  · split at member
    · simp only [List.mem_cons, List.not_mem_nil, or_false] at member
      rcases member with first | second
      · exact absurd first (high _ (by omega) (by omega))
      · exact absurd second (high _ (by omega) (by omega))
    · split at member
      · simp only [List.mem_cons, List.not_mem_nil, or_false] at member
        rcases member with first | second | third
        · exact absurd first (high _ (by omega) (by omega))
        · exact absurd second (high _ (by omega) (by omega))
        · exact absurd third (high _ (by omega) (by omega))
      · simp only [List.mem_cons, List.not_mem_nil, or_false] at member
        rcases member with first | second | third | fourth
        · exact absurd first (high _ (by omega) (by omega))
        · exact absurd second (high _ (by omega) (by omega))
        · exact absurd third (high _ (by omega) (by omega))
        · exact absurd fourth (high _ (by omega) (by omega))

theorem encoded_low (c : Char) (low : c.val.toNat < 0x80) : String.utf8EncodeChar c = [UInt8.ofNat c.val.toNat] := by
  simp only [String.utf8EncodeChar]
  rw [if_pos (by omega)]

theorem encoded_alone (c : Char) (b : UInt8) (member : b ∈ String.utf8EncodeChar c) (low : b.toNat < 0x80) :
    String.utf8EncodeChar c = [b] := by
  have value := encoded_ascii c b member low
  rw [encoded_low c (by omega), value, UInt8.ofNat_toNat]

theorem encode_ascii (chars : List Char) (b : UInt8) (low : b.toNat < 0x80) :
    b ∈ encode chars ↔ ∃ c ∈ chars, c.val.toNat = b.toNat := by
  rw [encode, List.mem_flatMap]
  constructor
  · rintro ⟨c, inside, member⟩
    exact ⟨c, inside, encoded_ascii c b member low⟩
  · rintro ⟨c, inside, value⟩
    refine ⟨c, inside, ?_⟩
    rw [encoded_low c (by omega), value, UInt8.ofNat_toNat]
    exact List.mem_singleton.mpr rfl

theorem encode_without_nul (chars : List Char) :
    (encode chars).filter (· ≠ 0) = encode (chars.filter (· ≠ '\x00')) := by
  induction chars with
  | nil => rfl
  | cons c rest ih =>
      rw [encode_cons, List.filter_append, ih]
      by_cases nul : c = '\x00'
      · rw [(encoded_zero c).1 nul, List.filter_cons_of_neg (l := rest) (by simpa using nul)]
        rfl
      · rw [List.filter_eq_self.mpr (by simpa using (encoded_zero c).2 nul),
          List.filter_cons_of_pos (by simpa using nul), encode_cons]

theorem length_encode (chars : List Char) : chars.length ≤ (encode chars).length := by
  induction chars with
  | nil => exact Nat.le_refl 0
  | cons c rest ih =>
      have positive := c.utf8Size_pos
      rw [encode_cons, List.length_append, String.length_utf8EncodeChar, List.length_cons]
      omega

theorem encoded_first (c d : Char) (first second : Bytes)
    (same : String.utf8EncodeChar c ++ first = String.utf8EncodeChar d ++ second) :
    String.utf8EncodeChar c = String.utf8EncodeChar d ∧ first = second := by
  have widths := congrArg runeWidth same
  rw [width_encoded, width_encoded] at widths
  exact List.append_inj same widths

theorem to_list_loop (bytes : ByteArray) (i : Nat) (done : Bytes) :
    ByteArray.toList.loop bytes i done = done.reverse ++ bytes.data.toList.drop i := by
  fun_induction ByteArray.toList.loop bytes i done with
  | case1 i done inside ih =>
      have here : i < bytes.data.toList.length := inside
      have head : bytes.get! i = bytes.data.toList[i] := getElem!_pos bytes.data i inside
      rw [ih, head, List.drop_eq_getElem_cons here, List.reverse_cons, List.append_assoc]
      rfl
  | case2 i done outside =>
      rw [List.drop_eq_nil_of_le (by simpa using outside), List.append_nil]

theorem to_utf8_list (text : String) : text.toUTF8.toList = encode text.toList := by
  rw [ByteArray.toList, to_list_loop, String.toUTF8_eq_toByteArray, ← String.utf8Encode_toList, List.utf8Encode,
    List.toList_data_toByteArray]
  rfl

theorem encode_injective (first second : List Char) (same : encode first = encode second) : first = second := by
  have bytes : (String.ofList first).toByteArray = (String.ofList second).toByteArray := by
    rw [String.toByteArray_ofList, String.toByteArray_ofList, List.utf8Encode, List.utf8Encode]
    exact congrArg List.toByteArray same
  exact String.ofList_injective (String.toByteArray_inj.mp bytes)

theorem encoded_injective (c d : Char) (same : String.utf8EncodeChar c = String.utf8EncodeChar d) : c = d := by
  have chars : [c] = [d] := encode_injective [c] [d] (by simpa [encode] using same)
  exact (List.cons.inj chars).1

def Encodes (allowed : Char → Prop) (bytes : Bytes) : Prop := ∃ chars, bytes = encode chars ∧ ∀ c ∈ chars, allowed c

section Encodes

variable (allowed : Char → Prop)

theorem encodes_nil : Encodes allowed [] := ⟨[], rfl, by simp⟩

theorem encodes_cons (c : Char) (rest : Bytes) :
    Encodes allowed (String.utf8EncodeChar c ++ rest) ↔ allowed c ∧ Encodes allowed rest := by
  refine ⟨fun encoded => ?_, fun parts => ?_⟩
  · obtain ⟨chars, same, all⟩ := encoded
    cases chars with
    | nil =>
        have length := congrArg List.length same
        have positive := c.utf8Size_pos
        rw [List.length_append, String.length_utf8EncodeChar, encode, List.flatMap_nil, List.length_nil] at length
        omega
    | cons d chars =>
        rw [encode_cons] at same
        obtain ⟨first, others⟩ := encoded_first c d rest (encode chars) same
        rw [List.forall_mem_cons, ← encoded_injective c d first] at all
        exact ⟨all.1, chars, others, all.2⟩
  · obtain ⟨here, chars, rfl, all⟩ := parts
    exact ⟨c :: chars, (encode_cons c chars).symm, List.forall_mem_cons.mpr ⟨here, all⟩⟩

theorem encodes_part (c : Char) (n : Nat) (positive : 0 < n) (short : n < c.utf8Size) :
    ¬ Encodes allowed ((String.utf8EncodeChar c).take n) := by
  intro encoded
  obtain ⟨chars, same, _⟩ := encoded
  have length := congrArg List.length same
  rw [List.length_take, String.length_utf8EncodeChar] at length
  cases chars with
  | nil =>
      rw [encode, List.flatMap_nil, List.length_nil] at length
      omega
  | cons d chars =>
      have whole :
          String.utf8EncodeChar d ++ (encode chars ++ (String.utf8EncodeChar c).drop n) = String.utf8EncodeChar c ++ [] := by
        rw [← List.append_assoc, ← encode_cons, ← same, List.take_append_drop, List.append_nil]
      have widths := congrArg List.length (encoded_first d c _ _ whole).1
      rw [String.length_utf8EncodeChar, String.length_utf8EncodeChar] at widths
      rw [encode_cons, List.length_append, String.length_utf8EncodeChar] at length
      omega

theorem encodes_take (c : Char) (rest : Bytes) (n : Nat) (positive : 0 < n) :
    Encodes allowed ((String.utf8EncodeChar c ++ rest).take n) ↔
      c.utf8Size ≤ n ∧ allowed c ∧ Encodes allowed (rest.take (n - c.utf8Size)) := by
  rw [List.take_append, String.length_utf8EncodeChar]
  by_cases fits : c.utf8Size ≤ n
  · rw [List.take_of_length_le (by rw [String.length_utf8EncodeChar]; exact fits), encodes_cons]
    exact ⟨fun parts => ⟨fits, parts⟩, fun parts => parts.2⟩
  · rw [Nat.sub_eq_zero_of_le (Nat.le_of_not_le fits), List.take_zero, List.append_nil]
    exact ⟨fun encoded => absurd encoded (encodes_part allowed c n positive (Nat.lt_of_not_le fits)),
      fun parts => absurd parts.1 fits⟩

theorem encodes_snoc (text : Bytes) (b : UInt8) (low : b.toNat < 0x80) (encoded : Encodes allowed (text ++ [b])) :
    Encodes allowed text := by
  obtain ⟨chars, same, all⟩ := encoded
  rcases List.eq_nil_or_concat chars with rfl | ⟨front, last, rfl⟩
  · simp [encode] at same
  · rw [List.concat_eq_append, encode_append] at same
    have single : encode [last] = String.utf8EncodeChar last := by simp [encode]
    have member : b ∈ String.utf8EncodeChar last := by
      have ends := congrArg List.getLast? same
      rw [List.getLast?_append_of_ne_nil _ (by simp), single, List.getLast?_append_of_ne_nil _ ?_] at ends
      · exact List.mem_of_getLast? ends.symm
      · obtain ⟨first, others, shape⟩ := encoded_cons last
        simp [shape]
    rw [single, encoded_alone last b member low] at same
    refine ⟨front, List.append_cancel_right same, fun c inside => all c ?_⟩
    simp [inside]

end Encodes

end Utf8
