import Mathlib.Logic.Function.Basic

set_option autoImplicit false

-- The rows that open transactions have deleted and not yet committed. Another
-- transaction that is to delete such a row waits for its owner.
namespace RowLocks

variable {Client Row : Type} [DecidableEq Client] [DecidableEq Row]

abbrev Locks (Client Row : Type) := Row → Option Client

def free (locks : Locks Client Row) (client : Client) (rows : List Row) : Bool :=
  rows.all (fun row => locks row == none || locks row == some client)

def take (locks : Locks Client Row) (client : Client) (rows : List Row) : Locks Client Row :=
  fun row => if row ∈ rows then some client else locks row

def release (locks : Locks Client Row) (client : Client) : Locks Client Row :=
  fun row => if locks row = some client then none else locks row

variable (locks : Locks Client Row) (client other : Client) (rows : List Row) (row : Row)

omit [DecidableEq Client] in
theorem take_own_iff : take locks client rows row = some client ↔ row ∈ rows ∨ locks row = some client := by
  by_cases taken : row ∈ rows <;> simp [take, taken]

theorem take_other_iff (apart : other ≠ client) (unheld : free locks client rows = true) :
    take locks client rows row = some other ↔ locks row = some other := by
  by_cases taken : row ∈ rows
  · have held := List.all_eq_true.mp unheld row taken
    rw [take, if_pos taken]
    simp only [Bool.or_eq_true, beq_iff_eq] at held
    rcases held with none | mine
    · simp [none, apart.symm]
    · simp [mine]
  · rw [take, if_neg taken]

omit [DecidableEq Row] in
theorem release_own : release locks client row ≠ some client := by
  by_cases held : locks row = some client <;> simp [release, held]

omit [DecidableEq Row] in
theorem release_other_iff (apart : other ≠ client) : release locks client row = some other ↔ locks row = some other := by
  by_cases held : locks row = some client
  · simp [release, held, apart.symm]
  · simp [release, held]

end RowLocks
