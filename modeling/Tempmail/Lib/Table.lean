import Mathlib.Data.List.AList

set_option autoImplicit false

-- A finite map whose iteration order is irrelevant.
abbrev Table (Key Value : Type) := AList (fun _ : Key => Value)

namespace Table

variable {Key Value : Type} [DecidableEq Key]

def keep (kept : Key → Value → Bool) (table : Table Key Value) : Table Key Value :=
  ⟨table.entries.filter (fun entry => kept entry.1 entry.2), table.nodupKeys.sublist List.filter_sublist⟩

def size (table : Table Key Value) : Nat := table.entries.length

theorem lookup_keep (kept : Key → Value → Bool) (table : Table Key Value) (key : Key) :
    (table.keep kept).lookup key = (table.lookup key).filter (kept key) := by
  apply Option.ext
  intro value
  have inKept := AList.mem_lookup_iff (a := key) (b := value) (s := table.keep kept)
  have inTable := AList.mem_lookup_iff (a := key) (b := value) (s := table)
  rw [Option.mem_def] at inKept inTable
  rw [inKept, Option.filter_eq_some_iff, inTable]
  simp [keep, List.mem_filter]

end Table
