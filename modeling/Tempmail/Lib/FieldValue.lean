import Tempmail.Lib.Utf8

set_option autoImplicit false

-- How a text travels as the value of an HTTP header.
namespace FieldValue

-- What a client writes the characters of a header in.
inductive Charset where
  | utf8
  | latin1
deriving DecidableEq

namespace Charset

def holds : Charset → Char → Bool
  | .utf8, _ => true
  | .latin1, c => decide (c.toNat < 256)

def code : Charset → Char → List UInt8
  | .utf8, c => String.utf8EncodeChar c
  | .latin1, c => [UInt8.ofNat c.toNat]

def encode (charset : Charset) (chars : List Char) : Option (List UInt8) :=
  if chars.all charset.holds then some (chars.flatMap charset.code) else none

def kept : Charset → Char → Bool
  | .utf8, c => decide (c.toNat < 128)
  | .latin1, c => decide (c.toNat < 256)

end Charset

def decode (value : List UInt8) : List Char := value.map (fun b => Char.ofNat b.toNat)

def isBlank (b : UInt8) : Bool := b == 0x20 || b == 0x09

def trim (value : List UInt8) : List UInt8 := ((value.dropWhile isBlank).reverse.dropWhile isBlank).reverse

theorem trim_last (value : List UInt8) (b : UInt8) (last : (trim value).getLast? = some b) : isBlank b = false := by
  rw [trim, List.getLast?_reverse] at last
  have first := List.head?_dropWhile_not isBlank (value.dropWhile isBlank).reverse
  rw [last] at first
  simpa using first

theorem trim_settled (value : List UInt8) (first : ∀ b, value.head? = some b → isBlank b = false)
    (last : ∀ b, value.getLast? = some b → isBlank b = false) : trim value = value := by
  have settled : ∀ bytes : List UInt8, (∀ b, bytes.head? = some b → isBlank b = false) → bytes.dropWhile isBlank = bytes := by
    intro bytes solid
    cases bytes with
    | nil => rfl
    | cons b rest => rw [List.dropWhile_cons_of_neg (by simp [solid b rfl])]
  rw [trim, settled value first,
    settled value.reverse (fun b here => last b (by rwa [← List.head?_reverse])), List.reverse_reverse]

theorem char_of_byte (c : Char) (small : c.toNat < 256) : Char.ofNat (UInt8.ofNat c.toNat).toNat = c := by
  rw [Utf8.byte_of_nat c.toNat small]
  exact Char.ofNat_toNat c

theorem blank_values (b : UInt8) (blank : isBlank b = true) : b.toNat = 32 ∨ b.toNat = 9 := by
  rw [isBlank, Bool.or_eq_true, beq_iff_eq, beq_iff_eq] at blank
  exact blank.imp (congrArg UInt8.toNat) (congrArg UInt8.toNat)

theorem decoded_solid (b : UInt8) (solid : isBlank b = false) : Char.ofNat b.toNat ≠ ' ' ∧ Char.ofNat b.toNat ≠ '\t' := by
  have small := b.toNat_lt
  have value : (Char.ofNat b.toNat).toNat = b.toNat := by
    have valid : b.toNat.isValidChar := Or.inl (by omega)
    rw [Char.ofNat, dif_pos valid]
    rfl
  rw [isBlank, Bool.or_eq_false_iff, beq_eq_false_iff_ne, beq_eq_false_iff_ne] at solid
  refine ⟨fun space => solid.1 ?_, fun tab => solid.2 ?_⟩
  · rw [space] at value
    exact UInt8.toNat_inj.mp value.symm
  · rw [tab] at value
    exact UInt8.toNat_inj.mp value.symm

theorem char_value (c d : Char) (same : c.toNat = d.toNat) : c = d := Char.ext (UInt32.toNat_inj.mp same)

section Encoding

variable (charset : Charset)

theorem code_positive (c : Char) : 1 ≤ (charset.code c).length := by
  cases charset with
  | utf8 => exact (String.length_utf8EncodeChar c).symm ▸ c.utf8Size_pos
  | latin1 => exact Nat.le_refl 1

theorem code_single_iff (c : Char) (holds : charset.holds c = true) : (charset.code c).length = 1 ↔ charset.kept c = true := by
  cases charset with
  | utf8 =>
      show (String.utf8EncodeChar c).length = 1 ↔ decide (c.toNat < 128) = true
      rw [String.length_utf8EncodeChar, decide_eq_true_eq, Char.utf8Size_eq_one_iff]
      exact Nat.lt_succ_iff.symm
  | latin1 => exact ⟨fun _ => holds, fun _ => rfl⟩

theorem decode_code (c : Char) (kept : charset.kept c = true) : decode (charset.code c) = [c] := by
  cases charset with
  | latin1 => exact congrArg (fun d => [d]) (char_of_byte c (of_decide_eq_true kept))
  | utf8 =>
      have small : c.toNat < 128 := of_decide_eq_true kept
      have single : String.utf8EncodeChar c = [UInt8.ofNat c.toNat] := by
        have low : c.val.toNat ≤ 127 := Nat.lt_succ_iff.mp small
        rw [String.utf8EncodeChar, if_pos low]
        rfl
      show decode (String.utf8EncodeChar c) = [c]
      rw [single]
      exact congrArg (fun d => [d]) (char_of_byte c (by omega))

theorem code_blank (c : Char) (holds : charset.holds c = true) (b : UInt8) (member : b ∈ charset.code c)
    (blank : isBlank b = true) :
    c = ' ' ∨ c = '\t' := by
  have value : c.toNat = b.toNat := by
    cases charset with
    | utf8 => exact Utf8.encoded_ascii c b member (by have := blank_values b blank; omega)
    | latin1 =>
        rw [List.mem_singleton.mp member]
        exact (Utf8.byte_of_nat c.toNat (of_decide_eq_true holds)).symm
  rcases blank_values b blank with space | tab
  · exact Or.inl (char_value c ' ' (value.trans space))
  · exact Or.inr (char_value c '\t' (value.trans tab))

theorem codes_length (chars : List Char) : chars.length ≤ (chars.flatMap charset.code).length := by
  induction chars with
  | nil => exact Nat.le_refl 0
  | cons c rest ih =>
      have positive := code_positive charset c
      rw [List.flatMap_cons, List.length_append, List.length_cons]
      omega

theorem decoded_iff (chars : List Char) (holds : ∀ c ∈ chars, charset.holds c = true) :
    decode (chars.flatMap charset.code) = chars ↔ ∀ c ∈ chars, charset.kept c = true := by
  constructor
  · intro same
    have lengths : (chars.flatMap charset.code).length = chars.length := by
      rw [← List.length_map (fun b : UInt8 => Char.ofNat b.toNat)]
      exact congrArg List.length same
    clear same
    induction chars with
    | nil => exact nofun
    | cons c rest ih =>
        have positive := code_positive charset c
        have others := codes_length charset rest
        rw [List.flatMap_cons, List.length_append, List.length_cons] at lengths
        refine List.forall_mem_cons.mpr ⟨?_, ih (fun d member => holds d (List.mem_cons_of_mem _ member)) (by omega)⟩
        exact (code_single_iff charset c (holds c List.mem_cons_self)).mp (by omega)
  · intro kept
    induction chars with
    | nil => rfl
    | cons c rest ih =>
        rw [List.flatMap_cons, decode, List.map_append]
        have first := decode_code charset c (kept c List.mem_cons_self)
        have later := ih (fun d member => holds d (List.mem_cons_of_mem _ member))
          (fun d member => kept d (List.mem_cons_of_mem _ member))
        rw [decode] at first later
        rw [first, later]
        rfl

theorem codes_head (c : Char) (rest : List Char) (b : UInt8) (first : ((c :: rest).flatMap charset.code).head? = some b) :
    b ∈ charset.code c := by
  rw [List.flatMap_cons] at first
  cases code : charset.code c with
  | nil => exact absurd (code_positive charset c) (by rw [code]; decide)
  | cons lead others =>
      rw [code] at first
      cases first
      exact List.mem_cons_self

theorem codes_last (rest : List Char) (c : Char) (b : UInt8) (last : ((rest ++ [c]).flatMap charset.code).getLast? = some b) :
    b ∈ charset.code c := by
  have nonempty : charset.code c ≠ [] := fun empty => absurd (code_positive charset c) (by rw [empty]; decide)
  rw [List.flatMap_append, List.flatMap_singleton, List.getLast?_append_of_ne_nil _ nonempty] at last
  exact List.mem_of_getLast? last

-- A text that starts with no blank arrives as it was sent exactly when the
-- charset keeps it and it ends in no blank.
theorem arrives_iff (first : Char) (rest : List Char) (last : Char) (solid : first ≠ ' ' ∧ first ≠ '\t')
    (ending : (first :: rest).getLast? = some last) (value : List UInt8) (sent : charset.encode (first :: rest) = some value) :
    decode (trim value) = first :: rest ↔ (∀ c ∈ first :: rest, charset.kept c = true) ∧ last ≠ ' ' ∧ last ≠ '\t' := by
  rw [Charset.encode, Option.ite_none_right_eq_some] at sent
  obtain ⟨all, sent⟩ := sent
  have holds := List.all_eq_true.mp all
  obtain ⟨before, split⟩ := List.getLast?_eq_some_iff.mp ending
  have start : ∀ b, value.head? = some b → isBlank b = false := by
    intro b here
    by_contra blank
    rw [← Option.some.inj sent] at here
    rcases code_blank charset first (holds first List.mem_cons_self) b (codes_head charset first rest b here)
      (by simpa using blank) with space | tab
    · exact solid.1 space
    · exact solid.2 tab
  have lastHolds : charset.holds last = true := holds last (by rw [split]; simp)
  have settled : last ≠ ' ' ∧ last ≠ '\t' → trim value = value := by
    intro dense
    refine trim_settled value start fun b here => ?_
    by_contra blank
    rw [← Option.some.inj sent, split] at here
    rcases code_blank charset last lastHolds b (codes_last charset before last b here) (by simpa using blank) with space | tab
    · exact dense.1 space
    · exact dense.2 tab
  constructor
  · intro same
    have dense : last ≠ ' ' ∧ last ≠ '\t' := by
      rw [← same, decode, List.getLast?_map, Option.map_eq_some_iff] at ending
      obtain ⟨b, here, written⟩ := ending
      rw [← written]
      exact decoded_solid b (trim_last value b here)
    rw [settled dense, ← Option.some.inj sent] at same
    exact ⟨(decoded_iff charset _ holds).mp same, dense⟩
  · rintro ⟨kept, dense⟩
    rw [settled dense, ← Option.some.inj sent]
    exact (decoded_iff charset _ holds).mpr kept

end Encoding

end FieldValue
