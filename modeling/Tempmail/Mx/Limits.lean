import Tempmail.Lib.Table
import Tempmail.Mx.Config

set_option autoImplicit false

namespace Tempmail.Mx

structure IpWindow where
  start : Time
  count : Int
deriving DecidableEq, Repr

abbrev IpWindows := Table String IpWindow

-- Windows older than an hour are pruned once the table has grown.
def pruneWindows (windows : IpWindows) (now : Time) : IpWindows :=
  if windows.size > 4096 then windows.keep (fun _ window => !(now - window.start > hour)) else windows

def allowMessageFrom (windows : IpWindows) (now : Time) (ip : String) (limit : Int) : Bool × IpWindows :=
  if limit ≤ 0 then (true, windows)
  else
    let windows := pruneWindows windows now
    match windows.lookup ip with
    | none => (true, windows.insert ip ⟨now, 1⟩)
    | some window =>
        if now - window.start > hour then (true, windows.insert ip ⟨now, 1⟩)
        else if window.count ≥ limit then (false, windows)
        else (true, windows.insert ip ⟨window.start, window.count + 1⟩)

def newline : UInt8 := 0x0a
def dash : UInt8 := 0x2d

def lines (raw : Bytes) : List Bytes := raw.splitOn newline

def isMarker : Bytes → Bool
  | a :: b :: _ :: _ => a == dash && b == dash
  | _ => false

def countMarkers (parts : Nat) : List Bytes → Nat
  | [] => parts
  | line :: rest =>
      if isMarker line then
        if parts + 1 > 100000 then parts + 1 else countMarkers (parts + 1) rest
      else countMarkers parts rest

def countMIMEParts (raw : Bytes) : Nat := countMarkers 0 (lines raw)

theorem allow_switched_off (windows : IpWindows) (now : Time) (ip : String) (limit : Int) (off : limit ≤ 0) :
    allowMessageFrom windows now ip limit = (true, windows) := by
  simp only [allowMessageFrom, if_pos off]

theorem count_markers_eq (parts : Nat) (rest : List Bytes) (bounded : parts ≤ 100000) :
    countMarkers parts rest = min (parts + rest.countP isMarker) 100001 := by
  induction rest generalizing parts with
  | nil =>
      simp only [countMarkers, List.countP_nil]
      omega
  | cons line rest ih =>
      by_cases marker : isMarker line = true
      · rw [countMarkers, if_pos marker, List.countP_cons_of_pos marker]
        by_cases capped : parts + 1 > 100000
        · rw [if_pos capped]
          omega
        · rw [if_neg capped, ih (parts + 1) (by omega)]
          omega
      · rw [countMarkers, if_neg marker, List.countP_cons_of_neg marker, ih parts bounded]

theorem count_parts_eq (raw : Bytes) : countMIMEParts raw = min ((lines raw).countP isMarker) 100001 := by
  rw [countMIMEParts, count_markers_eq 0 (lines raw) (by omega), Nat.zero_add]

theorem count_parts_zero_iff (raw : Bytes) : countMIMEParts raw = 0 ↔ ∀ line ∈ lines raw, ¬ isMarker line = true := by
  rw [count_parts_eq, ← List.countP_eq_zero]
  omega

end Tempmail.Mx
