import Mathlib.Algebra.BigOperators.Group.List.Basic
import Mathlib.Algebra.Ring.Nat
import Mathlib.Data.List.Dedup

set_option autoImplicit false

-- The joins, groups and aggregates of SQL over lists of rows. A column that may
-- be NULL is an option.
namespace Joins

variable {Left Right Row Key Value : Type}

def inner (on : Left → Right → Bool) (left : List Left) (right : List Right) : List (Left × Right) :=
  left.flatMap (fun a => (right.filter (on a)).map (fun b => (a, b)))

def matched (a : Left) : List Right → List (Left × Option Right)
  | [] => [(a, none)]
  | found => found.map (fun b => (a, some b))

def outer (on : Left → Right → Bool) (left : List Left) (right : List Right) : List (Left × Option Right) :=
  left.flatMap (fun a => matched a (right.filter (on a)))

structure Group (Key Row : Type) where
  key : Key
  rows : List Row

def groupBy [DecidableEq Key] (key : Row → Key) (rows : List Row) : List (Group Key Row) :=
  (rows.map key).dedup.map (fun k => ⟨k, rows.filter (fun row => decide (key row = k))⟩)

def count (column : Row → Option Value) (rows : List Row) : Nat := (rows.filterMap column).length

def countDistinct [DecidableEq Value] (column : Row → Option Value) (rows : List Row) : Nat :=
  (rows.filterMap column).dedup.length

-- The sum of no rows is NULL.
def sum (column : Row → Nat) (rows : List Row) : Option Nat := if rows.isEmpty then none else some (rows.map column).sum

def nullif [DecidableEq Value] (value : Option Value) (other : Value) : Option Value := if value = some other then none else value

theorem sum_coalesced (column : Row → Nat) (rows : List Row) : (sum column rows).getD 0 = (rows.map column).sum := by
  cases rows with
  | nil => rfl
  | cons row rest => rfl

theorem sum_filter (kept : Row → Bool) (weight : Row → Nat) (rows : List Row) :
    ((rows.filter kept).map weight).sum = (rows.map (fun row => if kept row then weight row else 0)).sum := by
  induction rows with
  | nil => rfl
  | cons row rest ih =>
      cases here : kept row with
      | true =>
          rw [List.filter_cons_of_pos here, List.map_cons, List.sum_cons, ih, List.map_cons, List.sum_cons, here, if_pos rfl]
      | false =>
          rw [List.filter_cons_of_neg (by simp [here]), ih, List.map_cons, List.sum_cons, here,
            if_neg Bool.false_ne_true, Nat.zero_add]

theorem length_filter_sum (kept : Row → Bool) (rows : List Row) :
    (rows.filter kept).length = (rows.map (fun row => if kept row then 1 else 0)).sum := by
  rw [← sum_filter kept (fun _ => 1), List.map_const', List.sum_replicate, nsmul_eq_mul, Nat.mul_one]
  rfl

theorem sum_exchange (left : List Left) (right : List Right) (weight : Left → Right → Nat) :
    (left.map (fun a => (right.map (fun b => weight a b)).sum)).sum =
      (right.map (fun b => (left.map (fun a => weight a b)).sum)).sum := by
  induction left with
  | nil => simp
  | cons a rest ih =>
      simp only [List.map_cons, List.sum_cons, ih]
      exact List.sum_map_add.symm

theorem sum_flat_map (rows : List Row) (spread : Row → List Value) (weight : Value → Nat) :
    ((rows.flatMap spread).map weight).sum = (rows.map (fun row => ((spread row).map weight).sum)).sum := by
  induction rows with
  | nil => rfl
  | cons row rest ih => rw [List.flatMap_cons, List.map_append, List.sum_append, ih, List.map_cons, List.sum_cons]

theorem sum_inner (on : Left → Right → Bool) (left : List Left) (right : List Right) (weight : Left × Right → Nat) :
    ((inner on left right).map weight).sum =
      (left.map (fun a => (right.map (fun b => if on a b then weight (a, b) else 0)).sum)).sum := by
  rw [inner, sum_flat_map]
  congr 2
  funext a
  rw [List.map_map, ← sum_filter]
  rfl

-- The rows joined with their owners and their items weigh, over some of the
-- owners, what these owners' rows weigh one owner after another.
theorem sum_joined {Owner Item : Type} (toOwner : Row → Owner → Bool) (toItem : Row → Item → Bool) (kept : Owner → Bool)
    (rows : List Row) (owners : List Owner) (items : List Item) (weight : Row → Item → Nat) :
    (((inner (fun pair => toItem pair.1) (inner toOwner rows owners) items).filter (fun triple => kept triple.1.2)).map
        (fun triple => weight triple.1.1 triple.2)).sum =
      ((owners.filter kept).map (fun owner =>
        (((inner toItem rows items).filter (fun pair => toOwner pair.1 owner)).map
          (fun pair => weight pair.1 pair.2)).sum)).sum := by
  have level : ∀ row owner,
      (if toOwner row owner = true then
        (items.map (fun item => if toItem row item = true then (if kept owner = true then weight row item else 0) else 0)).sum
        else 0) =
      (if kept owner = true then
        (items.map (fun item =>
          if toItem row item = true then (if toOwner row owner = true then weight row item else 0) else 0)).sum
        else 0) := by
    intro row owner
    cases toOwner row owner with
    | true => cases kept owner <;> simp
    | false => simp
  have hoisted : ∀ owner (each : Row → Nat), (if kept owner = true then (rows.map each).sum else 0) =
      (rows.map (fun row => if kept owner = true then each row else 0)).sum := by
    intro owner each
    cases kept owner <;> simp
  rw [sum_filter, sum_inner, sum_inner toOwner rows owners (fun pair =>
    (items.map (fun item =>
      if toItem pair.1 item = true then (if kept pair.2 = true then weight pair.1 item else 0) else 0)).sum)]
  simp only [level]
  rw [sum_exchange, sum_filter]
  congr 2
  funext owner
  rw [sum_filter, sum_inner, hoisted]

theorem filter_groups [DecidableEq Key] (key : Row → Key) (rows : List Row) (k : Key) :
    (groupBy key rows).filter (fun group => decide (group.key = k)) =
      if rows.filter (fun row => decide (key row = k)) = [] then []
      else [⟨k, rows.filter (fun row => decide (key row = k))⟩] := by
  have known : rows.filter (fun row => decide (key row = k)) = [] ↔ k ∉ rows.map key := by
    rw [List.filter_eq_nil_iff, List.mem_map, not_exists]
    refine forall_congr' fun row => ?_
    rw [decide_eq_true_eq, not_and]
  rw [groupBy, List.filter_map]
  have picked : (rows.map key).dedup.filter ((fun group : Group Key Row => decide (group.key = k)) ∘
      fun k => ⟨k, rows.filter (fun row => decide (key row = k))⟩) = List.replicate ((rows.map key).dedup.count k) k :=
    List.filter_eq k
  rw [picked, List.count_dedup]
  by_cases member : k ∈ rows.map key
  · rw [if_pos member, if_neg (fun empty => known.mp empty member)]
    rfl
  · rw [if_neg member, if_pos (known.mpr member)]
    rfl

theorem outer_groups [DecidableEq Key] (key : Row → Key) (label : Left → Key) (made : Group Key Row → Value)
    (on : Left → Value → Bool)
    (keyed : ∀ a group, on a (made group) = decide (group.key = label a)) (left : List Left) (rows : List Row) :
    outer on left ((groupBy key rows).map made) = left.map (fun a =>
      (a, if rows.filter (fun row => decide (key row = label a)) = [] then none
        else some (made ⟨label a, rows.filter (fun row => decide (key row = label a))⟩))) := by
  rw [outer, ← List.flatMap_singleton' (left.map _), List.flatMap_map]
  congr 1
  funext a
  have found : ((groupBy key rows).map made).filter (on a) =
      ((groupBy key rows).filter (fun group => decide (group.key = label a))).map made := by
    rw [List.filter_map]
    congr 1
    refine List.filter_congr fun group _ => ?_
    exact keyed a group
  rw [found, filter_groups]
  split
  · rfl
  · rfl

end Joins
