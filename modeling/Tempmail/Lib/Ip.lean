import Mathlib.Data.List.Basic
import Tempmail.Lib.Text

set_option autoImplicit false

-- IP addresses and networks in text.
namespace Ip

inductive Address where
  | v4 (bits : BitVec 32)
  | v6 (bits : BitVec 128)
deriving DecidableEq, Repr

-- ::ffff:0:0/96 holds the IPv4 addresses in their IPv6 form.
def mapped (bits : BitVec 128) : Bool := bits.extractLsb' 32 96 == 0xffff#96

def Address.plain : Address → Address
  | .v4 bits => .v4 bits
  | .v6 bits => if mapped bits then .v4 (bits.extractLsb' 0 32) else .v6 bits

def mask (width length : Nat) : BitVec width := BitVec.allOnes width <<< (width - length)

def agree {width : Nat} (under left right : BitVec width) : Bool := left &&& under == right &&& under

def digits (chars : List Char) : Option Nat :=
  if chars.isEmpty || !chars.all Char.isDigit then none
  else some (chars.foldl (fun number c => 10 * number + (c.toNat - 48)) 0)

def decimal (most : Nat) (chars : List Char) : Option Nat :=
  if chars.length = 1 ∨ chars.head? ≠ some '0' then (digits chars).filter (fun number => number ≤ most) else none

def parseV4 (chars : List Char) : Option (BitVec 32) :=
  match (chars.splitOn '.').mapM (decimal 255) with
  | some [a, b, c, d] => some (BitVec.ofNat 32 (((a * 256 + b) * 256 + c) * 256 + d))
  | _ => none

def hexValue (c : Char) : Option Nat :=
  if c.isDigit then some (c.toNat - 48)
  else if 'a' ≤ c ∧ c ≤ 'f' then some (c.toNat - 87)
  else if 'A' ≤ c ∧ c ≤ 'F' then some (c.toNat - 55)
  else none

def hexGroup (chars : List Char) : Option Nat :=
  if chars.isEmpty || 4 < chars.length then none
  else (chars.mapM hexValue).map (List.foldl (fun number digit => 16 * number + digit) 0)

-- The last 32 bits may be written as an IPv4 address.
def tailGroups (chars : List Char) : Option (List Nat) :=
  match hexGroup chars with
  | some group => some [group]
  | none => (parseV4 chars).map (fun bits => [bits.toNat / 65536, bits.toNat % 65536])

def groups (last : List Char → Option (List Nat)) (chars : List Char) : Option (List Nat) :=
  if chars.isEmpty then some []
  else do
    let front ← (chars.splitOn ':').dropLast.mapM hexGroup
    let back ← last ((chars.splitOn ':').getLastD [])
    some (front ++ back)

def ellipsis : List Char → Option (List Char × List Char)
  | [] => none
  | c :: rest =>
      if [':', ':'].isPrefixOf (c :: rest) then some ([], rest.tail) else (ellipsis rest).map
        (fun parts => (c :: parts.1, parts.2))

def pack (all : List Nat) : Option (BitVec 128) :=
  if all.length = 8 then some (BitVec.ofNat 128 (all.foldl (fun number group => 65536 * number + group) 0)) else none

def parseV6 (chars : List Char) : Option (BitVec 128) :=
  match ellipsis chars with
  | none => (groups tailGroups chars).bind pack
  | some (front, back) => do
      let left ← groups (fun chars => (hexGroup chars).map (fun group => [group])) front
      let right ← groups tailGroups back
      if left.length + right.length < 8 then pack (left ++ List.replicate (8 - left.length - right.length) 0 ++ right) else none

section Texts

end Texts

section Masks

end Masks

end Ip
