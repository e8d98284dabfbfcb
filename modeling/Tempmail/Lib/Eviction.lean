import Mathlib.Data.List.Basic
import Mathlib.Data.List.Induction
import Mathlib.Data.List.Nodup
import Mathlib.Algebra.BigOperators.Group.List.Basic
import Mathlib.Algebra.Ring.Nat

set_option autoImplicit false

-- A store kept within a limit by throwing out its last row in some order, one
-- after the other.
namespace Eviction

variable {Row : Type} (size : Row → Nat) (before : Row → Row → Bool)

def weight (rows : List Row) : Nat := (rows.map size).sum

def longest : Nat → List Row → List Row
  | _, [] => []
  | limit, row :: rest => if size row ≤ limit then row :: longest (limit - size row) rest else []

def last : List Row → Option Row
  | [] => none
  | row :: rest => match last rest with
    | none => some row
    | some other => if before row other then some other else some row

theorem weight_cons (row : Row) (rest : List Row) : weight size (row :: rest) = size row + weight size rest := by
  simp [weight]

theorem weight_perm (first second : List Row) (same : first.Perm second) : weight size first = weight size second :=
  (same.map size).sum_eq

theorem weight_sublist (first second : List Row) (lead : first.Sublist second) : weight size first ≤ weight size second := by
  induction lead with
  | slnil => exact Nat.le_refl _
  | cons row lead ih =>
      rw [weight_cons]
      omega
  | cons_cons row lead ih =>
      rw [weight_cons, weight_cons]
      omega

theorem longest_leads (limit : Nat) (rows : List Row) : longest size limit rows <+: rows := by
  induction rows generalizing limit with
  | nil => exact List.prefix_rfl
  | cons row rest ih =>
      by_cases fits : size row ≤ limit
      · rw [longest, if_pos fits]
        exact List.prefix_cons_inj row |>.mpr (ih _)
      · rw [longest, if_neg fits]
        exact List.nil_prefix

theorem longest_fits (limit : Nat) (rows : List Row) : weight size (longest size limit rows) ≤ limit := by
  induction rows generalizing limit with
  | nil => exact Nat.zero_le _
  | cons row rest ih =>
      by_cases fits : size row ≤ limit
      · have bound := ih (limit - size row)
        rw [longest, if_pos fits, weight_cons]
        omega
      · rw [longest, if_neg fits]
        exact Nat.zero_le _

theorem longest_maximal (limit : Nat) (rows front : List Row) (lead : front <+: rows) (fits : weight size front ≤ limit) :
    front <+: longest size limit rows := by
  induction rows generalizing limit front with
  | nil => exact lead
  | cons row rest ih =>
      cases front with
      | nil => exact List.nil_prefix
      | cons first tail =>
          obtain ⟨same, inner⟩ := List.cons_prefix_cons.mp lead
          rw [weight_cons, same] at fits
          rw [longest, if_pos (by omega), same]
          exact (List.prefix_cons_inj row).mpr (ih _ tail inner (by omega))

theorem longest_whole (limit : Nat) (rows : List Row) (fits : weight size rows ≤ limit) : longest size limit rows = rows :=
  (longest_leads size limit rows).eq_of_length_le (longest_maximal size limit rows rows List.prefix_rfl fits).length_le

theorem longest_snoc (limit : Nat) (rows : List Row) (row : Row) (past : limit < weight size (rows ++ [row])) :
    longest size limit (rows ++ [row]) = longest size limit rows := by
  induction rows generalizing limit with
  | nil =>
      have large : ¬ size row ≤ limit := by simpa [weight] using past
      simp [longest, large]
  | cons first rest ih =>
      by_cases fits : size first ≤ limit
      · rw [List.cons_append, weight_cons] at past
        rw [List.cons_append, longest, if_pos fits, longest, if_pos fits, ih _ (by omega)]
      · rw [List.cons_append, longest, if_neg fits, longest, if_neg fits]

theorem last_spec (total : ∀ a b, before a b = true ∨ before b a = true)
    (trans : ∀ a b c, before a b = true → before b c = true → before a c = true) (rows : List Row) (row : Row)
    (found : last before rows = some row) :
    row ∈ rows ∧ ∀ other ∈ rows, before other row = true := by
  induction rows generalizing row with
  | nil => cases found
  | cons first rest ih =>
      have reflexive : ∀ a, before a a = true := fun a => (total a a).elim id id
      cases later : last before rest with
      | none =>
          have empty : rest = [] := by
            cases rest with
            | nil => rfl
            | cons head tail =>
                rw [last] at later
                split at later
                · cases later
                · split at later <;> cases later
          simp only [last, later, Option.some.injEq] at found
          subst found empty
          exact ⟨List.mem_cons_self, by simp [reflexive]⟩
      | some known =>
          obtain ⟨member, after⟩ := ih known later
          simp only [last, later] at found
          by_cases behind : before first known = true
          · rw [if_pos behind, Option.some.injEq] at found
            subst found
            refine ⟨List.mem_cons_of_mem _ member, ?_⟩
            intro other inside
            rcases List.mem_cons.mp inside with here | there
            · exact here ▸ behind
            · exact after other there
          · rw [if_neg behind, Option.some.injEq] at found
            subst found
            refine ⟨List.mem_cons_self, ?_⟩
            intro other inside
            rcases List.mem_cons.mp inside with here | there
            · exact here ▸ reflexive first
            · exact trans other known first (after other there) ((total first known).resolve_left behind)

theorem last_found (first : Row) (rest : List Row) : ∃ row, last before (first :: rest) = some row := by
  rw [last]
  split
  · exact ⟨_, rfl⟩
  · split <;> exact ⟨_, rfl⟩

variable [DecidableEq Row]

def evict (limit : Nat) (rows : List Row) : List Row :=
  if weight size rows ≤ limit then rows
  else
    match last before rows with
    | none => rows
    | some row => if row ∈ rows then evict limit (rows.erase row) else rows
termination_by rows.length
decreasing_by
  rename_i member
  rw [List.length_erase_of_mem member]
  exact Nat.sub_lt (List.length_pos_of_mem member) Nat.one_pos

theorem evict_within (limit : Nat) (rows : List Row) (fits : weight size rows ≤ limit) : evict size before limit rows = rows := by
  rw [evict, if_pos fits]

theorem evict_over (limit : Nat) (rows : List Row) (row : Row) (past : limit < weight size rows)
    (found : last before rows = some row) (member : row ∈ rows) :
    evict size before limit rows = evict size before limit (rows.erase row) := by
  rw [evict, if_neg (by omega), found]
  exact if_pos member

-- What is left is the longest front of the sorted rows that fits.
theorem evict_eq (total : ∀ a b, before a b = true ∨ before b a = true)
    (trans : ∀ a b c, before a b = true → before b c = true → before a c = true) (limit : Nat) (order rows : List Row)
    (same : order.Perm rows) (sorted : order.Pairwise (fun a b => before a b = true)) (distinct : rows.Nodup)
    (strict : ∀ a ∈ rows, ∀ b ∈ rows, before a b = true → before b a = true → a = b) :
    evict size before limit rows = rows.filter (fun row => decide (row ∈ longest size limit order)) := by
  induction order using List.reverseRecOn generalizing rows with
  | nil =>
      rw [List.nil_perm.mp same, evict_within size before limit [] (Nat.zero_le _)]
      rfl
  | append_singleton front row ih =>
      by_cases fits : weight size rows ≤ limit
      · have whole : longest size limit (front ++ [row]) = front ++ [row] :=
          longest_whole size limit _ (weight_perm size _ _ same ▸ fits)
        rw [evict_within size before limit rows fits, whole]
        refine (List.filter_eq_self.mpr fun other member => ?_).symm
        simpa using same.mem_iff.mpr member
      · have member : row ∈ rows := same.mem_iff.mp (by simp)
        have behind : ∀ other ∈ rows, before other row = true := by
          intro other known
          rcases List.mem_append.mp (same.mem_iff.mpr known) with earlier | here
          · exact (List.pairwise_append.mp sorted).2.2 other earlier row (by simp)
          · rw [List.mem_singleton.mp here]
            exact (total row row).elim id id
        have found : last before rows = some row := by
          cases rows with
          | nil => cases member
          | cons first rest =>
              obtain ⟨other, known⟩ := last_found before first rest
              obtain ⟨inside, after⟩ := last_spec before total trans _ other known
              rw [known, strict other inside row member (behind other inside) (after row member)]
        have fresh : row ∉ longest size limit front := by
          intro kept
          have twice := (longest_leads size limit front).subset kept
          exact (List.nodup_append.mp (same.nodup_iff.mpr distinct)).2.2 row twice row (by simp) rfl
        have rest : front.Perm (rows.erase row) := by
          have erased := same.erase row
          rwa [List.erase_append_right _ (fun earlier =>
            (List.nodup_append.mp (same.nodup_iff.mpr distinct)).2.2 row earlier row (by simp) rfl), List.erase_cons_head,
            List.append_nil] at erased
        have kept := ih (rows.erase row) rest (List.pairwise_append.mp sorted).1 (distinct.erase row)
          (fun a inA b inB => strict a (List.mem_of_mem_erase inA) b (List.mem_of_mem_erase inB))
        rw [evict_over size before limit rows row (by omega) found member, kept,
          longest_snoc size limit front row (by rw [weight_perm size _ _ same]; omega), distinct.erase_eq_filter,
          List.filter_filter]
        refine List.filter_congr fun other _ => ?_
        by_cases inside : other ∈ longest size limit front
        · have apart : other ≠ row := fun equal => fresh (equal ▸ inside)
          simp [inside, apart]
        · simp [inside]

end Eviction
