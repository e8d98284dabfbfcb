import Mathlib.Data.List.Basic

set_option autoImplicit false

-- Strings seen as lists of characters, for operations that act on each
-- character or strip the ends.
namespace Text

def mapChars (change : Char → Char) (text : String) : String := String.ofList (text.toList.map change)

def trim (blank : Char → Bool) (text : String) : String :=
  String.ofList ((text.toList.dropWhile blank).reverse.dropWhile blank).reverse

def hasPrefix (lead text : String) : Bool := lead.toList.isPrefixOf text.toList

def trimPrefix (lead text : String) : String :=
  if hasPrefix lead text then String.ofList (text.toList.drop lead.toList.length) else text

def fields (blank : Char → Bool) (text : String) : List String :=
  ((text.toList.splitOnP blank).filter (· ≠ [])).map String.ofList

def isAtext (c : Char) : Bool :=
  c.isAlpha || c.isDigit ||
    [0x21, 0x23, 0x24, 0x25, 0x26, 0x27, 0x2a, 0x2b, 0x2d, 0x2f, 0x3d, 0x3f, 0x5e, 0x5f, 0x60, 0x7b, 0x7c, 0x7d,
      0x7e].contains c.toNat

def dotAtom (chars : List Char) : Bool :=
  chars.all (fun c => isAtext c || c == '.') && (chars.splitOn '.').all (fun atom => !atom.isEmpty)

theorem chars_ext (a b : String) (same : a.toList = b.toList) : a = b := by
  rw [← String.ofList_toList (s := a), same, String.ofList_toList]

@[simp] theorem map_chars_list (change : Char → Char) (text : String) :
    (mapChars change text).toList = text.toList.map change := by
  simp [mapChars]

theorem map_chars_append (change : Char → Char) (a b : String) :
    mapChars change (a ++ b) = mapChars change a ++ mapChars change b := by
  apply chars_ext
  simp

theorem map_chars_id (change : Char → Char) (text : String) (fixed : ∀ c ∈ text.toList, change c = c) :
    mapChars change text = text := by
  apply chars_ext
  rw [map_chars_list, List.map_congr_left fixed, List.map_id']

theorem drop_while_none (blank : Char → Bool) (chars : List Char) (solid : ∀ c ∈ chars, blank c = false) :
    chars.dropWhile blank = chars := by
  cases chars with
  | nil => rfl
  | cons head tail => simp [solid head (by simp)]

theorem trim_solid (blank : Char → Bool) (text : String) (solid : ∀ c ∈ text.toList, blank c = false) :
    trim blank text = text := by
  apply chars_ext
  rw [trim, String.toList_ofList, drop_while_none blank _ solid, drop_while_none blank _ (by simpa using solid),
    List.reverse_reverse]

theorem trim_last (blank : Char → Bool) (text : String) (c : Char) (last : (trim blank text).toList.getLast? = some c) :
    blank c = false := by
  rw [trim, String.toList_ofList, List.getLast?_reverse] at last
  have first := List.head?_dropWhile_not blank (text.toList.dropWhile blank).reverse
  rw [last] at first
  exact first

theorem split_pair (sep : Char) (a b : List Char) (plainA : sep ∉ a) (plainB : sep ∉ b) :
    (a ++ sep :: b).splitOn sep = [a, b] := by
  rw [List.splitOn_append_cons_self_of_not_mem plainA, List.splitOn_eq_singleton plainB]

theorem split_plain (sep : Char) (chars part : List Char) (member : part ∈ chars.splitOn sep) : sep ∉ part := by
  induction chars generalizing part with
  | nil =>
      rw [List.splitOn_nil, List.mem_singleton] at member
      simp [member]
  | cons first rest ih =>
      rw [List.splitOn_cons_eq_if_modifyHead] at member
      by_cases here : (first == sep) = true
      · rw [if_pos here] at member
        rcases List.mem_cons.mp member with empty | later
        · simp [empty]
        · exact ih part later
      · rw [if_neg here] at member
        cases parts : rest.splitOn sep with
        | nil => exact absurd parts (List.splitOn_ne_nil sep rest)
        | cons head tail =>
            rw [parts, List.modifyHead_cons] at member
            rw [parts] at ih
            rcases List.mem_cons.mp member with front | behind
            · rw [front]
              intro inside
              rcases List.mem_cons.mp inside with same | later
              · exact here (by simp [same])
              · exact ih head List.mem_cons_self later
            · exact ih part (List.mem_cons_of_mem _ behind)

theorem split_map (sep : Char) (change : Char → Char) (fixed : ∀ c, change c = sep ↔ c = sep) (chars : List Char) :
    (chars.map change).splitOn sep = (chars.splitOn sep).map (List.map change) := by
  induction chars with
  | nil => rfl
  | cons first rest ih =>
      rw [List.map_cons, List.splitOn_cons_eq_if_modifyHead, List.splitOn_cons_eq_if_modifyHead, ih]
      by_cases here : first = sep
      · rw [if_pos (by simpa using (fixed first).mpr here), if_pos (by simpa using here)]
        rfl
      · rw [if_neg (by simpa using fun same => here ((fixed first).mp same)), if_neg (by simpa using here)]
        cases parts : rest.splitOn sep with
        | nil => exact absurd parts (List.splitOn_ne_nil sep rest)
        | cons head tail => rfl

theorem split_pair_iff (sep : Char) (chars a b : List Char) :
    chars.splitOn sep = [a, b] ↔ chars = a ++ sep :: b ∧ sep ∉ a ∧ sep ∉ b := by
  constructor
  · intro split
    have whole : [sep].intercalate (chars.splitOn sep) = chars := List.intercalate_splitOn sep
    rw [split] at whole
    exact ⟨by rw [← whole]; simp [List.intercalate], split_plain sep chars a (by simp [split]),
      split_plain sep chars b (by simp [split])⟩
  · rintro ⟨whole, plainA, plainB⟩
    rw [whole, split_pair sep a b plainA plainB]

theorem split_member (sep c : Char) (chars : List Char) (member : c ∈ chars) :
    c = sep ∨ ∃ part ∈ chars.splitOn sep, c ∈ part := by
  induction chars with
  | nil => cases member
  | cons first rest ih =>
      rw [List.splitOn_cons_eq_if_modifyHead]
      by_cases here : (first == sep) = true
      · rw [if_pos here]
        rcases List.mem_cons.mp member with same | later
        · exact Or.inl (same.trans (eq_of_beq here))
        · rcases ih later with separator | ⟨part, known, inside⟩
          · exact Or.inl separator
          · exact Or.inr ⟨part, List.mem_cons_of_mem _ known, inside⟩
      · rw [if_neg here]
        cases parts : rest.splitOn sep with
        | nil => exact absurd parts (List.splitOn_ne_nil sep rest)
        | cons head tail =>
            rw [parts] at ih
            rw [List.modifyHead_cons]
            rcases List.mem_cons.mp member with same | later
            · exact Or.inr ⟨first :: head, List.mem_cons_self, same ▸ List.mem_cons_self⟩
            · rcases ih later with separator | ⟨part, known, inside⟩
              · exact Or.inl separator
              · rcases List.mem_cons.mp known with front | behind
                · exact Or.inr ⟨first :: head, List.mem_cons_self, List.mem_cons_of_mem _ (front ▸ inside)⟩
                · exact Or.inr ⟨part, List.mem_cons_of_mem _ behind, inside⟩

theorem upper_inside (c : Char) : c.isUpper = decide (c.val ≥ 'A'.val ∧ c.val ≤ 'Z'.val) := rfl

theorem lower_inside (c : Char) : c.isLower = (decide (c.val ≥ 'a'.val) && decide (c.val ≤ 'z'.val)) := rfl

theorem alpha_cases (c : Char) : c.isAlpha = (c.isUpper || c.isLower) := rfl

theorem upper_iff (c : Char) : c.isUpper = true ↔ 65 ≤ c.toNat ∧ c.toNat ≤ 90 := by
  simp only [upper_inside, ge_iff_le, decide_eq_true_eq, UInt32.le_iff_toNat_le]
  exact Iff.rfl

theorem lower_iff (c : Char) : c.isLower = true ↔ 97 ≤ c.toNat ∧ c.toNat ≤ 122 := by
  simp only [lower_inside, ge_iff_le, Bool.and_eq_true, decide_eq_true_eq, UInt32.le_iff_toNat_le]
  exact Iff.rfl

theorem letter_iff (c : Char) : c.isAlpha = true ↔ (65 ≤ c.toNat ∧ c.toNat ≤ 90) ∨ (97 ≤ c.toNat ∧ c.toNat ≤ 122) := by
  rw [alpha_cases, Bool.or_eq_true, upper_iff, lower_iff]

theorem digit_iff (c : Char) : c.isDigit = true ↔ 48 ≤ c.toNat ∧ c.toNat ≤ 57 := by
  simp only [Char.isDigit, ge_iff_le, Bool.and_eq_true, decide_eq_true_eq, UInt32.le_iff_toNat_le]
  exact Iff.rfl

theorem atext_code (c : Char) (allowed : isAtext c = true) : 0x21 ≤ c.toNat ∧ c.toNat ≤ 0x7e := by
  simp only [isAtext, Bool.or_eq_true, letter_iff, digit_iff, List.contains_eq_mem, decide_eq_true_eq, List.mem_cons,
    List.not_mem_nil, or_false] at allowed
  omega

theorem dot_atom_code (chars : List Char) (plain : dotAtom chars = true) (c : Char) (member : c ∈ chars) :
    0x21 ≤ c.toNat ∧ c.toNat ≤ 0x7e := by
  simp only [dotAtom, Bool.and_eq_true, List.all_eq_true, Bool.or_eq_true, beq_iff_eq] at plain
  rcases plain.1 c member with atext | dot
  · exact atext_code c atext
  · subst dot
    decide

theorem dot_atom_named (chars : List Char) (plain : dotAtom chars = true) : chars ≠ [] := by
  intro empty
  subst empty
  exact absurd plain (by decide)

theorem lower_same (c : Char) (lower : ¬ c.isUpper = true) : c.toLower = c := by
  have outside : ¬ (c.val ≥ 'A'.val ∧ c.val ≤ 'Z'.val) := by simpa [upper_inside] using lower
  unfold Char.toLower
  exact dif_neg outside

theorem lower_code (c : Char) (upper : c.isUpper = true) : c.toLower.toNat = c.toNat + 32 := by
  have bounds := (upper_iff c).mp upper
  have inside : c.val ≥ 'A'.val ∧ c.val ≤ 'Z'.val := by simpa [upper_inside] using upper
  have small : c.val.toNat ≤ 90 := bounds.2
  have shift : (32 : UInt32).toNat = 32 := rfl
  unfold Char.toLower
  rw [dif_pos inside]
  change (c.val + 32).toNat = c.val.toNat + 32
  rw [UInt32.toNat_add]
  omega

theorem lower_newline (c : Char) (same : c.toLower = '\n') : c = '\n' := by
  by_cases upper : c.isUpper = true
  · have code := lower_code c upper
    rw [same] at code
    have value : ('\n').toNat = 10 := rfl
    have bounds := (upper_iff c).mp upper
    omega
  · rwa [lower_same c upper] at same

theorem lower_not_upper (c : Char) : c.toLower.isUpper = false := by
  by_cases upper : c.isUpper = true
  · have code := lower_code c upper
    have bounds := (upper_iff c).mp upper
    have above : ¬ c.toLower.isUpper = true := fun again => by
      have inside := (upper_iff c.toLower).mp again
      omega
    exact Bool.eq_false_iff.mpr above
  · rw [lower_same c upper]
    exact Bool.eq_false_iff.mpr upper

theorem lower_letter (c : Char) (upper : c.isUpper = true) : c.toLower.isAlpha = true := by
  have code := lower_code c upper
  have bounds := (upper_iff c).mp upper
  exact (letter_iff c.toLower).mpr (by omega)

end Text
