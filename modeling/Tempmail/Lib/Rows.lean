import Mathlib.Data.List.Nodup

set_option autoImplicit false

-- A relation held as a list of rows, whose order is not part of it.
namespace Rows

variable {Row : Type}

theorem find_perm (wanted : Row → Bool) (left right : List Row) (same : left.Perm right)
    (only : ∀ a ∈ left, ∀ b ∈ left, wanted a = true → wanted b = true → a = b) : left.find? wanted = right.find? wanted := by
  cases found : left.find? wanted with
  | none =>
      rw [List.find?_eq_none] at found
      exact (List.find?_eq_none.mpr fun row member => found row (same.mem_iff.mpr member)).symm
  | some row =>
      have member := List.mem_of_find?_eq_some found
      have holds := List.find?_some found
      cases other : right.find? wanted with
      | none => exact absurd holds (List.find?_eq_none.mp other row (same.mem_iff.mp member))
      | some second =>
          have known := same.mem_iff.mpr (List.mem_of_find?_eq_some other)
          rw [only row member second known holds (List.find?_some other)]

def arrange (place : Row → Nat) (rows : List Row) : List Row := rows.mergeSort (fun a b => place a ≤ place b)

theorem arrange_perm (place : Row → Nat) (left right : List Row) (same : left.Perm right)
    (distinct : ∀ a ∈ left, ∀ b ∈ left, place a = place b → a = b) : arrange place left = arrange place right := by
  have sorted : ∀ rows : List Row, (arrange place rows).Pairwise (fun a b => place a ≤ place b) := by
    intro rows
    let below : Row → Row → Bool := fun a b => decide (place a ≤ place b)
    have chained : ∀ a b c, below a b = true → below b c = true → below a c = true :=
      fun a b c => by simpa [below] using Nat.le_trans
    have total : ∀ a b, (below a b || below b a) = true := fun a b => by simpa [below] using Nat.le_total _ _
    have ordered := List.pairwise_mergeSort chained total rows
    simpa [arrange, below] using ordered
  refine List.Perm.eq_of_pairwise ?_ (sorted left) (sorted right) ?_
  · intro a b memberA memberB below above
    rw [arrange, List.mem_mergeSort] at memberA memberB
    exact distinct a memberA b (same.mem_iff.mpr memberB) (Nat.le_antisymm below above)
  · exact (List.mergeSort_perm left _).trans (same.trans (List.mergeSort_perm right _).symm)

theorem same_row {Key : Type} (key : Row → Key) (rows : List Row) (unique : (rows.map key).Nodup) (a b : Row) (memberA : a ∈ rows)
    (memberB : b ∈ rows) (same : key a = key b) : a = b := List.inj_on_of_nodup_map unique memberA memberB same

theorem unique_filter {Key : Type} (key : Row → Key) (rows : List Row) (kept : Row → Bool) (unique : (rows.map key).Nodup) :
    ((rows.filter kept).map key).Nodup := unique.sublist (List.filter_sublist.map _)

theorem filter_changed (wanted : Row → Bool) (change : Row → Row) (rows : List Row)
    (kept : ∀ row ∈ rows, wanted row = true → change row = row)
    (apart : ∀ row ∈ rows, wanted row = false → wanted (change row) = false) :
    (rows.map change).filter wanted = rows.filter wanted := by
  induction rows with
  | nil => rfl
  | cons row rest ih =>
      have later := ih (fun other member => kept other (List.mem_cons_of_mem _ member))
        (fun other member => apart other (List.mem_cons_of_mem _ member))
      rw [List.map_cons]
      cases here : wanted row with
      | true =>
          have same := kept row List.mem_cons_self here
          rw [same, List.filter_cons_of_pos here, List.filter_cons_of_pos here, later]
      | false =>
          have missed := apart row List.mem_cons_self here
          rw [List.filter_cons_of_neg (by simp [missed]), List.filter_cons_of_neg (by simp [here]), later]

end Rows
