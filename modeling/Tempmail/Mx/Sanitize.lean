import Mathlib.Algebra.Order.Group.Int
import Mathlib.Data.List.GetD
import Tempmail.Lib.Utf8
import Tempmail.Mx.Database

set_option autoImplicit false

-- sanitizeText over the bytes a Go string is made of.
namespace Tempmail.Mx.Sanitize

open Utf8

def backToStart (value : Bytes) : Nat → Nat
  | 0 => 0
  | cut + 1 => if runeStart (value.getD (cut + 1) 0) then cut + 1 else backToStart value cut

def truncateRunes (value : Bytes) (maxBytes : Nat) : Bytes :=
  if value.length ≤ maxBytes then value else value.take (backToStart value maxBytes)

def questionMark : Bytes := [0x3f]

def cleanText (value : Bytes) : Bytes :=
  let value := value.filter (· ≠ 0)
  if !validString value then toValidUTF8 value questionMark else value

def sanitizeText (value : Bytes) (maxLen : Int) : Bytes :=
  let value := cleanText value
  if maxLen > 0 then truncateRunes value maxLen.toNat else value

structure Storable (maxLen : Int) (text : Bytes) : Prop where
  valid : Valid text
  noNul : 0 ∉ text
  fits : (text.length : Int) ≤ maxLen

structure CutWhole (maxLen : Int) (cleaned result : Bytes) : Prop where
  front : result <+: cleaned
  longest : ∀ front rest, cleaned = front ++ rest → Valid front → (front.length : Int) ≤ maxLen → front.length ≤ result.length
  lost : maxLen < cleaned.length → maxLen - result.length < 4

theorem truncate_split (chars : List Char) (maxBytes : Nat) : Mx.truncateRunes chars maxBytes = chars ∨
    ∃ c rest, chars = Mx.truncateRunes chars maxBytes ++ c :: rest ∧
      maxBytes < (encode (Mx.truncateRunes chars maxBytes)).length + c.utf8Size := by
  induction chars generalizing maxBytes with
  | nil => exact Or.inl rfl
  | cons c rest ih =>
      by_cases fits : c.utf8Size ≤ maxBytes
      · rw [Mx.truncateRunes, if_pos fits]
        rcases ih (maxBytes - c.utf8Size) with whole | ⟨next, more, split, beyond⟩
        · exact Or.inl (by rw [whole])
        · refine Or.inr ⟨next, more, by rw [List.cons_append, ← split], ?_⟩
          rw [encode_cons, List.length_append, String.length_utf8EncodeChar]
          omega
      · rw [Mx.truncateRunes, if_neg fits]
        exact Or.inr ⟨c, rest, rfl, by simp only [encode, List.flatMap_nil, List.length_nil]; omega⟩

theorem truncate_fits (chars : List Char) (maxBytes : Nat) : (encode (Mx.truncateRunes chars maxBytes)).length ≤ maxBytes := by
  induction chars generalizing maxBytes with
  | nil => exact Nat.zero_le _
  | cons c rest ih =>
      by_cases fits : c.utf8Size ≤ maxBytes
      · have bound := ih (maxBytes - c.utf8Size)
        rw [Mx.truncateRunes, if_pos fits, encode_cons, List.length_append, String.length_utf8EncodeChar]
        omega
      · rw [Mx.truncateRunes, if_neg fits]
        exact Nat.zero_le _

theorem truncate_longest (chars : List Char) (maxBytes : Nat) (inFront : List Char) (rest : Bytes)
    (split : encode chars = encode inFront ++ rest) (fits : (encode inFront).length ≤ maxBytes) :
    (encode inFront).length ≤ (encode (Mx.truncateRunes chars maxBytes)).length := by
  induction inFront generalizing chars maxBytes with
  | nil => exact Nat.zero_le _
  | cons d others ih =>
      rw [encode_cons, List.append_assoc] at split
      rw [encode_cons, List.length_append, String.length_utf8EncodeChar] at fits ⊢
      cases chars with
      | nil =>
          have empty := congrArg List.length split
          have positive := d.utf8Size_pos
          rw [List.length_append, String.length_utf8EncodeChar, encode, List.flatMap_nil, List.length_nil] at empty
          omega
      | cons c more =>
          rw [encode_cons] at split
          obtain ⟨same, left⟩ := encoded_first c d _ _ split
          have width := congrArg List.length same
          rw [String.length_utf8EncodeChar, String.length_utf8EncodeChar] at width
          have shorter := ih more (maxBytes - c.utf8Size) left (by omega)
          rw [Mx.truncateRunes, if_pos (by omega), encode_cons, List.length_append, String.length_utf8EncodeChar]
          omega

theorem back_to_start (value : Bytes) (cut start : Nat) (order : start ≤ cut)
    (starts : start = 0 ∨ runeStart (value.getD start 0) = true)
    (between : ∀ place, start < place → place ≤ cut → runeStart (value.getD place 0) = false) :
    backToStart value cut = start := by
  induction cut with
  | zero => rw [backToStart, Nat.le_zero.mp order]
  | succ cut ih =>
      rw [backToStart]
      by_cases here : start = cut + 1
      · rw [if_pos (by rw [← here]; exact starts.resolve_left (by omega)), here]
      · rw [if_neg (by rw [between (cut + 1) (by omega) (Nat.le_refl _)]; decide)]
        exact ih (by omega) (fun place after until_cut => between place after (by omega))

-- The backward scan stops where the last rune that does not fit starts.
theorem truncate_encode (chars : List Char) (maxBytes : Nat) :
    truncateRunes (encode chars) maxBytes = encode (Mx.truncateRunes chars maxBytes) := by
  have fits := truncate_fits chars maxBytes
  rcases truncate_split chars maxBytes with whole | ⟨c, rest, split, beyond⟩
  · rw [whole] at fits ⊢
    rw [truncateRunes, if_pos fits]
  · obtain ⟨first, others, encoded, starts, follow⟩ := encoded_starts c
    generalize Mx.truncateRunes chars maxBytes = kept at *
    have width := congrArg List.length encoded
    rw [String.length_utf8EncodeChar, List.length_cons] at width
    have bytes : encode chars = encode kept ++ (first :: others) ++ encode rest := by
      rw [split, encode_append, encode_cons, encoded, List.append_assoc]
    have longer : ¬ (encode chars).length ≤ maxBytes := by
      rw [bytes, List.length_append, List.length_append, List.length_cons]
      omega
    have within : ∀ place, place < (first :: others).length →
        (encode chars).getD ((encode kept).length + place) 0 = (first :: others).getD place 0 := by
      intro place inside
      rw [bytes, List.append_assoc, List.getD_append_right _ _ _ _ (by omega), Nat.add_sub_cancel_left,
        List.getD_append _ _ _ _ inside]
    have scanned : backToStart (encode chars) maxBytes = (encode kept).length := by
      apply back_to_start _ _ _ fits
      · have here := within 0 (by simp)
        rw [Nat.add_zero] at here
        rw [here]
        exact Or.inr starts
      · intro place after inside
        obtain ⟨beyond_first, rfl⟩ : ∃ more, place = (encode kept).length + (more + 1) :=
          ⟨place - (encode kept).length - 1, by omega⟩
        rw [within _ (by rw [List.length_cons]; omega), List.getD_cons_succ, List.getD_eq_getElem _ _ (by omega)]
        exact follow _ (List.getElem_mem _)
    rw [truncateRunes, if_neg longer, scanned, bytes, List.append_assoc, List.take_left]

theorem clean_text_storable (value : Bytes) : Valid (cleanText value) ∧ 0 ∉ cleanText value := by
  have noNul : (0 : UInt8) ∉ value.filter (· ≠ 0) := by simp
  unfold cleanText
  by_cases checked : validString (value.filter (· ≠ 0)) = true
  · simp only [checked, Bool.not_true, Bool.false_eq_true, if_false]
    exact ⟨(valid_string_iff _).mp checked, noNul⟩
  · simp only [checked, Bool.not_false, if_true]
    refine ⟨to_valid_valid _ questionMark ⟨['?'], by decide⟩, fun member => ?_⟩
    rcases to_valid_member _ questionMark 0 member with mark | kept
    · exact absurd mark (by decide)
    · exact noNul kept

theorem clean_text_settled (value : Bytes) (valid : Valid value) (noNul : 0 ∉ value) : cleanText value = value := by
  have kept : value.filter (· ≠ 0) = value := by
    apply List.filter_eq_self.mpr
    intro b member
    exact decide_eq_true (fun zero => noNul (zero ▸ member))
  rw [cleanText, kept, (valid_string_iff value).mpr valid]
  rfl

theorem sanitize_cut (value : Bytes) (maxLen : Int) (positive : 0 < maxLen) (chars : List Char)
    (cleaned : cleanText value = encode chars) :
    sanitizeText value maxLen = encode (Mx.truncateRunes chars maxLen.toNat) := by
  rw [sanitizeText, cleaned, if_pos positive, truncate_encode]

theorem sanitize_settled (value : Bytes) (maxLen : Int) (storable : Storable maxLen value) :
    sanitizeText value maxLen = value := by
  have fits := storable.fits
  rw [sanitizeText, clean_text_settled value storable.valid storable.noNul, truncateRunes,
    if_pos (c := value.length ≤ maxLen.toNat) (by omega), ite_self]

theorem sanitize_whole (value : Bytes) (maxLen : Int) (positive : 0 < maxLen) :
    CutWhole maxLen (cleanText value) (sanitizeText value maxLen) := by
  obtain ⟨chars, cleaned⟩ := (clean_text_storable value).1
  rw [sanitize_cut value maxLen positive chars cleaned, cleaned]
  have front : encode (Mx.truncateRunes chars maxLen.toNat) <+: encode chars ∧
      (maxLen < (encode chars).length → maxLen - (encode (Mx.truncateRunes chars maxLen.toNat)).length < 4) := by
    rcases truncate_split chars maxLen.toNat with whole | ⟨c, rest, split, beyond⟩
    · rw [whole]
      exact ⟨List.prefix_rfl, fun _ => by omega⟩
    · have width := c.utf8Size_le_four
      refine ⟨?_, fun _ => by omega⟩
      nth_rewrite 2 [split]
      rw [encode_append]
      exact List.prefix_append _ _
  refine ⟨front.1, ?_, front.2⟩
  intro taken rest split valid fits
  obtain ⟨inFront, rfl⟩ := valid
  exact truncate_longest chars maxLen.toNat inFront rest split (by omega)

theorem sanitize_text (value : Bytes) (maxLen : Int) (positive : 0 < maxLen) :
    Storable maxLen (sanitizeText value maxLen) ∧
      (∃ chars : List Char, sanitizeText value maxLen = encode chars ∧ (chars.length : Int) ≤ maxLen) ∧
      (Storable maxLen value → sanitizeText value maxLen = value) ∧
      sanitizeText (sanitizeText value maxLen) maxLen = sanitizeText value maxLen ∧
      CutWhole maxLen (cleanText value) (sanitizeText value maxLen) := by
  have cut := sanitize_whole value maxLen positive
  obtain ⟨chars, cleaned⟩ := (clean_text_storable value).1
  have result := sanitize_cut value maxLen positive chars cleaned
  have fits := truncate_fits chars maxLen.toNat
  have storable : Storable maxLen (sanitizeText value maxLen) := by
    refine ⟨⟨_, result⟩, fun member => (clean_text_storable value).2 (cut.front.subset member), ?_⟩
    rw [result]
    omega
  have count := length_encode (Mx.truncateRunes chars maxLen.toNat)
  exact ⟨storable, ⟨_, result, by omega⟩, sanitize_settled value maxLen, sanitize_settled _ maxLen storable, cut⟩

theorem sanitize_text_cafe : Storable 4 (sanitizeText [0x63, 0x00, 0xe9, 0xe9, 0x61, 0xc3, 0xa9] 4) ∧
    sanitizeText [0x63, 0x00, 0xe9, 0xe9, 0x61, 0xc3, 0xa9] 4 = [0x63, 0x3f, 0x61] := by
  refine ⟨(sanitize_text _ 4 (by decide)).1, ?_⟩
  decide +kernel

-- On text that is UTF-8 already the bytes are those of the character model.
theorem sanitize_text_encoded (value : String) (maxLen : Nat) :
    sanitizeText (encode value.toList) maxLen = encode (Mx.sanitizeText value maxLen).toList := by
  have cleaned : cleanText (encode value.toList) = encode (value.toList.filter (· ≠ '\x00')) := by
    rw [cleanText, encode_without_nul, valid_string_encode]
    rfl
  rw [sanitizeText, cleaned, Mx.sanitizeText, String.toList_ofList]
  by_cases limited : 0 < maxLen
  · rw [if_pos (by omega), if_pos limited, Int.toNat_natCast, truncate_encode]
  · rw [if_neg (by omega), if_neg limited]

end Tempmail.Mx.Sanitize
