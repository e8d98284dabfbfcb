import Mathlib.Algebra.Order.BigOperators.Group.List
import Mathlib.Algebra.Order.Group.Nat
import Mathlib.Algebra.Ring.Nat
import Mathlib.Data.List.TakeWhile

set_option autoImplicit false

-- The nested multipart structure of RFC 2046 over the lines of an entity. Which
-- boundary a header declares is left to a parameter.
namespace Multipart

abbrev Line := List UInt8

def bare (line : Line) : Line := if line.getLast? = some 0x0d then line.dropLast else line

def dashes : Line := [0x2d, 0x2d]

def delimits (boundary line : Line) : Bool :=
  let front := dashes ++ boundary
  (bare line).take front.length == front && ((bare line).drop front.length).all (fun b => b == 0x20 || b == 0x09)

def closes (boundary line : Line) : Bool := delimits (boundary ++ dashes) line

-- The lines before the first delimiter line, and those of each body part up to
-- the closing one.
def divide (boundary : Line) : List Line → List Line × List (List Line)
  | [] => ([], [])
  | line :: rest =>
      if closes boundary line then ([], [])
      else if delimits boundary line then ([], (divide boundary rest).1 :: (divide boundary rest).2)
      else (line :: (divide boundary rest).1, (divide boundary rest).2)

def header (lines : List Line) : List Line := lines.takeWhile (fun line => bare line != [])

def body (lines : List Line) : List Line := (lines.dropWhile (fun line => bare line != [])).drop 1

section Parts

variable (declared : List Line → Option Line)

def partsWithin : Nat → List Line → Nat
  | 0, _ => 0
  | depth + 1, lines =>
      match declared (header lines) with
      | none => 0
      | some boundary => ((divide boundary (body lines)).2.map (fun entity => 1 + partsWithin depth entity)).sum

-- How many body parts an entity has, those of its parts included. An entity
-- nested in another is shorter.
def parts (lines : List Line) : Nat := partsWithin declared lines.length lines

end Parts

theorem divide_shorter (boundary : Line) (lines : List Line) : (divide boundary lines).1.length ≤ lines.length ∧
    ∀ entity ∈ (divide boundary lines).2, entity.length < lines.length := by
  induction lines with
  | nil => exact ⟨Nat.le_refl _, nofun⟩
  | cons line rest ih =>
      rw [divide]
      split
      · exact ⟨Nat.zero_le _, nofun⟩
      · split
        · refine ⟨Nat.zero_le _, ?_⟩
          intro entity member
          rw [List.length_cons]
          rcases List.mem_cons.mp member with first | later
          · rw [first]
            exact Nat.lt_succ_of_le ih.1
          · exact Nat.lt_succ_of_lt (ih.2 entity later)
        · refine ⟨Nat.succ_le_succ ih.1, ?_⟩
          intro entity member
          rw [List.length_cons]
          exact Nat.lt_succ_of_lt (ih.2 entity member)

theorem body_sublist (lines : List Line) : (body lines).Sublist lines :=
  (List.drop_sublist _ _).trans (List.dropWhile_sublist _)

theorem entity_shorter (boundary : Line) (lines entity : List Line) (member : entity ∈ (divide boundary (body lines)).2) :
    entity.length < lines.length :=
  ((divide_shorter boundary (body lines)).2 entity member).trans_le (body_sublist lines).length_le

theorem parts_nil (declared : List Line → Option Line) (depth : Nat) : partsWithin declared depth [] = 0 := by
  cases depth with
  | zero => rfl
  | succ depth =>
      rw [partsWithin]
      split <;> rfl

theorem parts_within (declared : List Line → Option Line) (first second : Nat) (lines : List Line)
    (enough : lines.length ≤ first) (also : lines.length ≤ second) :
    partsWithin declared first lines = partsWithin declared second lines := by
  induction first generalizing second lines with
  | zero => rw [List.length_eq_zero_iff.mp (Nat.le_zero.mp enough), parts_nil, parts_nil]
  | succ first ih =>
      cases second with
      | zero => rw [List.length_eq_zero_iff.mp (Nat.le_zero.mp also), parts_nil, parts_nil]
      | succ second =>
          rw [partsWithin, partsWithin]
          split
          · rfl
          · rename_i boundary _
            refine congrArg List.sum (List.map_congr_left (fun entity member => ?_))
            have shorter := entity_shorter boundary lines entity member
            rw [ih second entity (by omega) (by omega)]

-- The structure one level at a time.
theorem parts_eq (declared : List Line → Option Line) (lines : List Line) : parts declared lines =
    (declared (header lines)).elim 0 (fun boundary =>
      ((divide boundary (body lines)).2.map (fun entity => 1 + parts declared entity)).sum) := by
  rw [parts, parts_within declared lines.length (lines.length + 1) lines (Nat.le_refl _) (Nat.le_succ _), partsWithin]
  cases declared (header lines) with
  | none => rfl
  | some boundary =>
      refine congrArg List.sum (List.map_congr_left (fun entity member => ?_))
      have shorter := entity_shorter boundary lines entity member
      rw [parts, parts_within declared lines.length entity.length entity (by omega) (Nat.le_refl _)]

theorem bare_front (line : Line) : bare line <+: line := by
  rw [bare]
  split
  · exact List.dropLast_prefix line
  · exact List.prefix_rfl

theorem delimits_front (boundary line : Line) (delimiter : delimits boundary line = true) : dashes ++ boundary <+: line := by
  rw [delimits] at delimiter
  have front := (Bool.and_eq_true_iff.mp delimiter).1
  rw [← beq_iff_eq.mp front]
  exact (List.take_prefix _ _).trans (bare_front line)

section Marks

variable (declared : List Line → Option Line) (marks : Line → Bool)
variable (nonempty : ∀ lines boundary, declared lines = some boundary → boundary ≠ [])
variable (marked : ∀ boundary line, boundary ≠ [] → delimits boundary line = true → marks line = true)

include marked

theorem divide_marked (boundary : Line) (some_boundary : boundary ≠ []) (lines : List Line) :
    (divide boundary lines).1.countP marks + ((divide boundary lines).2.map (fun entity => 1 + entity.countP marks)).sum ≤
      lines.countP marks := by
  induction lines with
  | nil => exact Nat.le_refl _
  | cons line rest ih =>
      rw [divide]
      split
      · exact Nat.zero_le _
      · split
        · rename_i delimiter
          rw [List.countP_cons_of_pos (marked boundary line some_boundary delimiter), List.countP_nil,
            List.map_cons, List.sum_cons]
          omega
        · dsimp only
          rw [List.countP_cons, List.countP_cons]
          omega

include nonempty

theorem parts_marked (lines : List Line) : parts declared lines ≤ lines.countP marks := by
  induction size : lines.length using Nat.strongRecOn generalizing lines with
  | ind size ih =>
      rw [parts_eq]
      cases found : declared (header lines) with
      | none => exact Nat.zero_le _
      | some boundary =>
          have inBody := divide_marked marks marked boundary (nonempty _ boundary found) (body lines)
          have nested : ((divide boundary (body lines)).2.map (fun entity => 1 + parts declared entity)).sum ≤
              ((divide boundary (body lines)).2.map (fun entity => 1 + entity.countP marks)).sum := by
            apply List.sum_le_sum
            intro entity member
            have shorter := entity_shorter boundary lines entity member
            exact Nat.add_le_add_left (ih entity.length (by omega) entity rfl) 1
          have whole := (body_sublist lines).countP_le (p := marks)
          rw [Option.elim_some]
          omega

end Marks

end Multipart
