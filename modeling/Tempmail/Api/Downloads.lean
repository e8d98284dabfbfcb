import Tempmail.Api.TokenRoutes
import Tempmail.Lib.Percent

set_option autoImplicit false

namespace Tempmail.Api

def isPrintable (c : Char) : Bool := decide (0x20 ≤ c.toNat) && decide (c.toNat ≤ 0x7e)

def isControl (c : Char) : Bool := decide (c.toNat < 0x20) || c.toNat == 0x7f

def cleaned (filename : String) : String :=
  Text.mapChars (fun c => if c ∈ ['/', '\\', '\r', '\n'] then '_' else c) (if filename = "" then "attachment" else filename)

def fallbackName (filename : String) : String :=
  Text.mapChars (fun c => if c = '"' then '_' else if c.toNat < 128 then c else '?') (cleaned filename)

def extendedLead : List Char := "; filename*=UTF-8''".toList

-- What a client reads after the quoted-string: filename* of RFC 5987.
def extendedName (header : String) : Option Utf8.Bytes :=
  match header.toList.splitOn '"' with
  | [_, _, tail] => if extendedLead.isPrefixOf tail then Percent.unquote (tail.drop extendedLead.length) else none
  | _ => none

structure SafeHeader (filename header : String) : Prop where
  printable : ∀ c ∈ header.toList, isPrintable c = true
  quotes : header.toList.count '"' = 2
  decoded : ∀ text : String, extendedName header = some (Utf8.encode text.toList) ↔ text = cleaned filename

theorem quote_byte_list (b : UInt8) : (quoteByte b).toList =
    if isAlnum (Char.ofNat b.toNat) || Char.ofNat b.toNat == '_' || Char.ofNat b.toNat == '.' || Char.ofNat b.toNat == '-' ||
        Char.ofNat b.toNat == '~' then [Char.ofNat b.toNat]
      else ['%', hexDigit (b.toNat / 16), hexDigit (b.toNat % 16)] := by
  unfold quoteByte
  dsimp only
  split
  · rw [String.toList_singleton]
  · rw [String.toList_ofList]

theorem quote_byte_plain (b : UInt8) : Percent.encodes b (quoteByte b).toList = true ∧
    ∀ c ∈ (quoteByte b).toList, isPrintable c = true ∧ c ≠ '"' := by
  have table : ∀ n : Fin 256, Percent.encodes (UInt8.ofNat n) (if isAlnum (Char.ofNat n) || Char.ofNat n == '_' ||
      Char.ofNat n == '.' || Char.ofNat n == '-' || Char.ofNat n == '~' then [Char.ofNat n]
        else ['%', hexDigit (n / 16), hexDigit (n % 16)]) = true ∧
      (if isAlnum (Char.ofNat n) || Char.ofNat n == '_' || Char.ofNat n == '.' || Char.ofNat n == '-' ||
        Char.ofNat n == '~' then [Char.ofNat n] else ['%', hexDigit (n / 16), hexDigit (n % 16)]).all
          (fun c => isPrintable c && c != '"') = true := by
    decide +kernel
  have here := table ⟨b.toNat, b.toNat_lt⟩
  rw [UInt8.ofNat_toNat, ← quote_byte_list, List.all_eq_true] at here
  refine ⟨here.1, ?_⟩
  intro c member
  simpa using here.2 c member

theorem quote_list (text : String) :
    (quote text).toList = (Utf8.encode text.toList).flatMap (fun b => (quoteByte b).toList) := by
  rw [quote, Utf8.to_utf8_list, String.toList_join, List.flatMap_map]

theorem unquote_quote (text : String) : Percent.unquote (quote text).toList = some (Utf8.encode text.toList) := by
  rw [quote_list]
  exact Percent.unquote_flat_map _ (fun b => (quote_byte_plain b).1) _

theorem quote_plain (text : String) (c : Char) (member : c ∈ (quote text).toList) : isPrintable c = true ∧ c ≠ '"' := by
  rw [quote_list] at member
  obtain ⟨b, _, inside⟩ := List.mem_flatMap.mp member
  exact (quote_byte_plain b).2 c inside

theorem map_chars_nonempty (change : Char → Char) (text : String) (named : text ≠ "") : Text.mapChars change text ≠ "" := by
  intro empty
  have chars := congrArg String.toList empty
  rw [Text.map_chars_list] at chars
  exact named (Text.chars_ext _ _ (List.map_eq_nil_iff.mp chars))

theorem cleaned_nonempty (filename : String) : cleaned filename ≠ "" := by
  unfold cleaned
  refine map_chars_nonempty _ _ ?_
  split
  · decide
  · assumption

theorem content_disposition_list (filename : String) : (contentDisposition filename).toList =
    "attachment; filename=".toList ++
      '"' :: ((fallbackName filename).toList ++ '"' :: (extendedLead ++ (quote (cleaned filename)).toList)) := by
  have named : fallbackName filename ≠ "" := map_chars_nonempty _ _ (cleaned_nonempty filename)
  have opening : "attachment; filename=\"".toList = "attachment; filename=".toList ++ ['"'] := by decide +kernel
  have closing : "\"; filename*=UTF-8''".toList = '"' :: extendedLead := by decide +kernel
  have built : contentDisposition filename = "attachment; filename=\"" ++
      (if fallbackName filename = "" then "attachment" else fallbackName filename) ++ "\"; filename*=UTF-8''" ++
        quote (cleaned filename) := rfl
  rw [built, if_neg named, String.toList_append, String.toList_append, String.toList_append, opening, closing]
  simp only [List.append_assoc, List.cons_append, List.nil_append]

theorem fallback_plain (filename : String) (c : Char) (member : c ∈ (fallbackName filename).toList) : c ≠ '"' := by
  rw [fallbackName, Text.map_chars_list] at member
  obtain ⟨d, _, rfl⟩ := List.mem_map.mp member
  split
  · decide
  · split
    · assumption
    · decide

theorem fallback_printable_iff (filename : String) : (∀ c ∈ (fallbackName filename).toList, isPrintable c = true) ↔
    ∀ c ∈ (cleaned filename).toList, isControl c = false := by
  rw [fallbackName, Text.map_chars_list, List.forall_mem_map]
  refine forall₂_congr fun c _ => ?_
  by_cases mark : c = '"'
  · rw [if_pos mark, mark]
    decide
  · rw [if_neg mark]
    by_cases ascii : c.toNat < 128
    · rw [if_pos ascii]
      simp only [isPrintable, isControl, Bool.and_eq_true, decide_eq_true_eq, Bool.or_eq_false_iff, decide_eq_false_iff_not,
        beq_eq_false_iff_ne]
      omega
    · rw [if_neg ascii]
      simp only [isControl, Bool.or_eq_false_iff, decide_eq_false_iff_not, beq_eq_false_iff_ne]
      exact iff_of_true (by decide) (by omega)

theorem cleaned_control_iff (filename : String) : (∀ c ∈ (cleaned filename).toList, isControl c = false) ↔
    ∀ c ∈ filename.toList, isControl c = true → c = '\r' ∨ c = '\n' := by
  rw [cleaned, Text.map_chars_list, List.forall_mem_map]
  by_cases empty : filename = ""
  · rw [if_pos empty, empty]
    have default : "attachment".toList.all (fun c => !isControl
      (if c ∈ ['/', '\\', '\r', '\n'] then '_' else c)) = true := by decide +kernel
    exact iff_of_true (by simpa using default) nofun
  · rw [if_neg empty]
    refine forall₂_congr fun c _ => ?_
    by_cases replaced : c ∈ ['/', '\\', '\r', '\n']
    · rw [if_pos replaced]
      simp only [List.mem_cons, List.not_mem_nil, or_false] at replaced
      refine iff_of_true (by decide) ?_
      rcases replaced with rfl | rfl | rfl | rfl
      · decide
      · decide
      · decide
      · decide
    · rw [if_neg replaced]
      simp only [List.mem_cons, List.not_mem_nil, or_false, not_or] at replaced
      cases isControl c with
      | false => exact iff_of_true rfl nofun
      | true => exact iff_of_false nofun (fun either => either rfl |>.elim replaced.2.2.1 replaced.2.2.2)

theorem extended_lead_plain : '"' ∉ extendedLead ∧ ∀ c ∈ extendedLead, isPrintable c = true :=
  ⟨by decide +kernel, List.all_eq_true.mp (by decide +kernel)⟩

theorem content_disposition_quotes (filename : String) : (contentDisposition filename).toList.count '"' = 2 := by
  have opening : '"' ∉ "attachment; filename=".toList := by decide +kernel
  have middle : '"' ∉ (fallbackName filename).toList := fun member => fallback_plain filename _ member rfl
  have ending : '"' ∉ (quote (cleaned filename)).toList := fun member => (quote_plain _ _ member).2 rfl
  rw [content_disposition_list, List.count_append, List.count_cons_self, List.count_append,
    List.count_cons_self, List.count_append,
    List.count_eq_zero.mpr opening, List.count_eq_zero.mpr middle, List.count_eq_zero.mpr extended_lead_plain.1,
    List.count_eq_zero.mpr ending]

theorem extended_name_disposition (filename : String) :
    extendedName (contentDisposition filename) = some (Utf8.encode (cleaned filename).toList) := by
  have opening : '"' ∉ "attachment; filename=".toList := by decide +kernel
  have middle : '"' ∉ (fallbackName filename).toList := fun member => fallback_plain filename _ member rfl
  have ending : '"' ∉ extendedLead ++ (quote (cleaned filename)).toList := by
    rw [List.mem_append, not_or]
    exact ⟨extended_lead_plain.1, fun member => (quote_plain _ _ member).2 rfl⟩
  have parts : (contentDisposition filename).toList.splitOn '"' =
      ["attachment; filename=".toList, (fallbackName filename).toList, extendedLead ++ (quote (cleaned filename)).toList] := by
    rw [content_disposition_list, List.splitOn_append_cons_self_of_not_mem opening, Text.split_pair '"' _ _ middle ending]
  simp only [extendedName, parts]
  rw [if_pos (List.isPrefixOf_iff_prefix.mpr (List.prefix_append _ _)), List.drop_left, unquote_quote]

theorem content_disposition_iff (filename : String) : SafeHeader filename (contentDisposition filename) ↔
    ∀ c ∈ filename.toList, isControl c = true → c = '\r' ∨ c = '\n' := by
  rw [← cleaned_control_iff, ← fallback_printable_iff]
  constructor
  · intro safe c member
    refine safe.printable c ?_
    rw [content_disposition_list]
    exact List.mem_append_right _ (List.mem_cons_of_mem _ (List.mem_append_left _ member))
  · intro printable
    refine ⟨?_, content_disposition_quotes filename, ?_⟩
    · intro c member
      rw [content_disposition_list, List.mem_append, List.mem_cons, List.mem_append, List.mem_cons, List.mem_append] at member
      rcases member with opening | rfl | inside | rfl | lead | quoted
      · revert c
        exact List.all_eq_true.mp (by decide +kernel)
      · decide
      · exact printable c inside
      · decide
      · exact extended_lead_plain.2 c lead
      · exact (quote_plain _ c quoted).1
    · intro text
      rw [extended_name_disposition, Option.some.injEq]
      constructor
      · intro same
        exact (Text.chars_ext _ _ (Utf8.encode_injective _ _ same)).symm
      · rintro rfl
        rfl

theorem bell_unsafe : ¬ ∀ filename : String, SafeHeader filename (contentDisposition filename) := by
  intro claimed
  have bell := (claimed "a\x07.txt").printable '\x07'
  rw [content_disposition_list] at bell
  have member : '\x07' ∈ (fallbackName "a\x07.txt").toList := by decide +kernel
  exact absurd (bell (List.mem_append_right _ (List.mem_cons_of_mem _ (List.mem_append_left _ member)))) (by decide)

end Tempmail.Api
