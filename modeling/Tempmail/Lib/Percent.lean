import Tempmail.Lib.Utf8

set_option autoImplicit false

-- Percent decoding, and the encodings of single bytes it reads back.
namespace Percent

open Utf8 (Bytes)

def hexValue (c : Char) : Option Nat :=
  if 48 ≤ c.toNat ∧ c.toNat ≤ 57 then some (c.toNat - 48)
  else if 65 ≤ c.toNat ∧ c.toNat ≤ 70 then some (c.toNat - 55)
  else if 97 ≤ c.toNat ∧ c.toNat ≤ 102 then some (c.toNat - 87)
  else none

def unquote : List Char → Option Bytes
  | [] => some []
  | c :: rest =>
      if c = '%' then
        match rest with
        | high :: low :: more =>
            match hexValue high, hexValue low, unquote more with
            | some first, some second, some bytes => some (UInt8.ofNat (first * 16 + second) :: bytes)
            | _, _, _ => none
        | _ => none
      else if c.toNat < 128 then (unquote rest).map (fun bytes => UInt8.ofNat c.toNat :: bytes)
      else none

def encodes (b : UInt8) : List Char → Bool
  | [c] => c != '%' && c.toNat == b.toNat && decide (c.toNat < 128)
  | [mark, high, low] =>
      mark == '%' && hexValue high == some (b.toNat / 16) && hexValue low == some (b.toNat % 16)
  | _ => false

theorem unquote_encoded (b : UInt8) (chars rest : List Char) (encoded : encodes b chars = true) :
    unquote (chars ++ rest) = (unquote rest).map (fun bytes => b :: bytes) := by
  revert encoded
  fun_cases encodes b chars with
  | case1 c =>
      intro encoded
      simp only [Bool.and_eq_true, bne_iff_ne, beq_iff_eq, decide_eq_true_eq] at encoded
      rw [List.singleton_append, unquote.eq_def]
      dsimp only
      rw [if_neg encoded.1.1, if_pos encoded.2, encoded.1.2, UInt8.ofNat_toNat]
  | case2 mark high low =>
      intro encoded
      simp only [Bool.and_eq_true, beq_iff_eq] at encoded
      obtain ⟨⟨marked, first⟩, second⟩ := encoded
      have whole : b.toNat / 16 * 16 + b.toNat % 16 = b.toNat := Nat.div_add_mod' b.toNat 16
      rw [List.cons_append, List.cons_append, List.singleton_append, unquote.eq_def]
      simp only [marked, if_true, first, second]
      cases unquote rest with
      | none => rfl
      | some bytes => simp only [Option.map_some, whole, UInt8.ofNat_toNat]
  | case3 => exact nofun

theorem unquote_flat_map (encoded : UInt8 → List Char) (each : ∀ b, encodes b (encoded b) = true) (bytes : Bytes) :
    unquote (bytes.flatMap encoded) = some bytes := by
  induction bytes with
  | nil => rfl
  | cons b rest ih => rw [List.flatMap_cons, unquote_encoded b _ _ (each b), ih, Option.map_some]

end Percent
