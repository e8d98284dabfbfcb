import Mathlib.Data.List.Basic
import Mathlib.Data.List.Nodup
import Mathlib.Logic.Equiv.Basic

set_option autoImplicit false

-- Pages cut out of a sorted list, when the sort leaves rows of equal rank in
-- an order of its own on every page request.
namespace Pages

open scoped List

variable {Row Id : Type} (before : Row → Row → Bool) (label : Row → Id) (perPage : Nat)

structure Ranks : Prop where
  total : ∀ a b, before a b = true ∨ before b a = true
  trans : ∀ a b c, before a b = true → before b c = true → before a c = true

structure Allowed (rows order : List Row) : Prop where
  perm : order.Perm rows
  sorted : order.Pairwise (fun a b => before a b = true)

theorem page_end (page perPage : Nat) (counted : 1 ≤ page) : page * perPage = (page - 1) * perPage + perPage := by
  rw [← Nat.succ_mul, Nat.succ_eq_add_one, Nat.sub_add_cancel counted]

def slice (page : Nat) (order : List Row) : List Row := (order.drop ((page - 1) * perPage)).take perPage

structure Answer (Id : Type) where
  items : List Id
  total : Nat
  hasNext : Bool

def answer (page : Nat) (order : List Row) : Answer Id :=
  ⟨(slice perPage page order).map label, order.length, page * perPage < order.length⟩

inductive Walk (serve : Nat → Answer Id) : Nat → List Id → Prop where
  | last (page : Nat) (ends : (serve page).hasNext = false) : Walk serve page (serve page).items
  | next (page : Nat) (rest : List Id) (goes : (serve page).hasNext = true) (later : Walk serve (page + 1) rest) :
      Walk serve page ((serve page).items ++ rest)

structure Partition (serve : Nat → Answer Id) (rows : List Id) : Prop where
  ends : ∃ seen, Walk serve 1 seen
  once : ∀ seen, Walk serve 1 seen → seen.Perm rows
  counted : ∀ page seen, 1 ≤ page → Walk serve 1 seen → (serve page).total = seen.length
  more : ∀ page, 1 ≤ page → ((serve page).hasNext = true ↔ (serve (page + 1)).items ≠ [])

def Untied (order : List Row) : Prop :=
  ∀ page a b, 1 ≤ page → order[page * perPage - 1]? = some a → order[page * perPage]? = some b → before b a = false

section Sorted

variable (ranks : Ranks before)
include ranks

theorem ranks_refl (a : Row) : before a a = true := (ranks.total a a).elim id id

omit ranks in
theorem filter_first (keep : Row → Bool) (closed : ∀ a b, before a b = true → keep b = true → keep a = true) (order : List Row)
    (sorted : order.Pairwise (fun a b => before a b = true)) : order.filter keep = order.take (order.filter keep).length := by
  induction order with
  | nil => rfl
  | cons first rest ih =>
      obtain ⟨below, inner⟩ := List.pairwise_cons.mp sorted
      by_cases here : keep first = true
      · rw [List.filter_cons, if_pos here, List.length_cons, List.take_succ_cons, ← ih inner]
      · have none : rest.filter keep = [] :=
          List.filter_eq_nil_iff.mpr fun row member inside => here (closed first row (below row member) inside)
        rw [List.filter_cons, if_neg here, none]
        rfl

omit ranks in
theorem dropped_none (keep : Row → Bool) (order : List Row) (first : order.filter keep = order.take (order.filter keep).length) :
    (order.drop (order.filter keep).length).filter keep = [] := by
  have parts : order.filter keep = (order.take (order.filter keep).length).filter keep ++
      (order.drop (order.filter keep).length).filter keep := by
    rw [← List.filter_append, List.take_append_drop]
  rw [← first, List.filter_filter] at parts
  simp only [Bool.and_self] at parts
  exact List.append_right_eq_self.mp parts.symm

theorem filter_up_to (order : List Row) (sorted : order.Pairwise (fun a b => before a b = true)) (bound : Row) :
    order.filter (fun row => before row bound) = order.take (order.filter (fun row => before row bound)).length :=
  filter_first before _ (fun a b ahead inside => ranks.trans a b bound ahead inside) order sorted

theorem filter_ahead (order : List Row) (sorted : order.Pairwise (fun a b => before a b = true)) (bound : Row) :
    order.filter (fun row => !before bound row) = order.take (order.filter (fun row => !before bound row)).length := by
  refine filter_first before _ (fun a b ahead apart => ?_) order sorted
  rw [Bool.not_eq_true', ← Bool.not_eq_true] at apart ⊢
  exact fun inside => apart (ranks.trans bound a b inside ahead)

theorem take_up_to (order : List Row) (sorted : order.Pairwise (fun a b => before a b = true)) (count : Nat) (a b : Row)
    (lastIn : order[count]? = some a) (firstOut : order[count + 1]? = some b) (apart : before b a = false) :
    order.filter (fun row => before row a) = order.take (count + 1) := by
  have split := List.take_append_drop (count + 1) order
  have inside : ∀ row ∈ order.take (count + 1), before row a = true := by
    intro row member
    rw [List.take_add_one, lastIn, Option.toList_some] at member
    rcases List.mem_append.mp member with early | here
    · have across := sorted
      rw [← List.take_append_drop count order, List.pairwise_append] at across
      refine across.2.2 row early a (List.mem_iff_getElem?.mpr ⟨0, ?_⟩)
      rw [List.getElem?_drop, Nat.add_zero, lastIn]
    · rw [List.mem_singleton.mp here]
      exact ranks_refl before ranks a
  have outside : ∀ row ∈ order.drop (count + 1), before row a = false := by
    intro row member
    obtain ⟨place, found⟩ := List.mem_iff_getElem?.mp member
    rw [← Bool.not_eq_true]
    intro holds
    have later : before b row = true := by
      cases place with
      | zero =>
          rw [List.getElem?_drop, Nat.add_zero, firstOut, Option.some.injEq] at found
          exact found ▸ ranks_refl before ranks b
      | succ place =>
          have tail := sorted.sublist (List.drop_sublist (count + 1) order)
          rw [List.pairwise_iff_getElem] at tail
          obtain ⟨bound, here⟩ := List.getElem?_eq_some_iff.mp found
          have step := tail 0 (place + 1) (by omega) bound (by omega)
          rw [here] at step
          have head : (order.drop (count + 1))[0]? = some b := by rw [List.getElem?_drop, Nat.add_zero, firstOut]
          obtain ⟨_, start⟩ := List.getElem?_eq_some_iff.mp head
          rwa [start] at step
    have impossible := ranks.trans b row a later holds
    rw [apart] at impossible
    cases impossible
  calc order.filter (fun row => before row a)
      = (order.take (count + 1) ++ order.drop (count + 1)).filter (fun row => before row a) := by rw [split]
    _ = order.take (count + 1) := by
        rw [List.filter_append, List.filter_eq_self.mpr inside,
          List.filter_eq_nil_iff.mpr fun row member => by simp [outside row member],
          List.append_nil]

theorem take_perm (rows first second : List Row) (allowedFirst : Allowed before rows first)
    (allowedSecond : Allowed before rows second)
    (page : Nat)
    (untied : ∀ a b, 1 ≤ page → first[page * perPage - 1]? = some a → first[page * perPage]? = some b → before b a = false)
    (filled : 1 ≤ perPage) : (first.take (page * perPage)).Perm (second.take (page * perPage)) := by
  have same : first.Perm second := allowedFirst.perm.trans allowedSecond.perm.symm
  by_cases start : page = 0
  · simp [start]
  · have positive : 1 ≤ page * perPage := Nat.mul_pos (by omega) filled
    by_cases inside : page * perPage < first.length
    · have bound : page * perPage - 1 < first.length := by omega
      have lastIn : first[page * perPage - 1]? = some first[page * perPage - 1] := List.getElem?_eq_getElem bound
      have firstOut : first[page * perPage]? = some first[page * perPage] := List.getElem?_eq_getElem _
      have apart := untied _ _ (by omega) lastIn firstOut
      have cut : first.filter (fun row => before row first[page * perPage - 1]) = first.take (page * perPage) := by
        have whole := take_up_to before ranks first allowedFirst.sorted (page * perPage - 1) _ _ lastIn
          (by rw [Nat.sub_add_cancel positive]; exact firstOut) apart
        rwa [Nat.sub_add_cancel positive] at whole
      have moved := same.filter (fun row => before row first[page * perPage - 1])
      have length := moved.length_eq
      rw [cut, List.length_take, Nat.min_eq_left (by omega)] at length
      rw [cut] at moved
      rw [filter_up_to before ranks second allowedSecond.sorted, ← length] at moved
      exact moved
    · rw [List.take_of_length_le (by omega), List.take_of_length_le (by rw [← same.length_eq]; omega)]
      exact same

theorem partition_perm (rows base : List Row) (orders : Nat → List Row) (allowedBase : Allowed before rows base)
    (allowed : ∀ page, Allowed before rows (orders page)) (untied : Untied before perPage base)
    (filled : 1 ≤ perPage) (page : Nat)
    (seen : List Id) (walk : Walk (fun page => answer label perPage page (orders page)) page seen) (counted : 1 ≤ page) :
    ((base.take ((page - 1) * perPage)).map label ++ seen).Perm (rows.map label) := by
  have early : ∀ upTo page, ((base.take (upTo * perPage)).map label).Perm (((orders page).take (upTo * perPage)).map label) :=
    fun upTo page => (take_perm before perPage ranks rows base (orders page) allowedBase (allowed page) upTo
      (untied upTo) filled).map label
  induction walk with
  | last page ends =>
      have whole : slice perPage page (orders page) = (orders page).drop ((page - 1) * perPage) := by
        refine List.take_of_length_le ?_
        have short : (orders page).length ≤ page * perPage := by simpa [answer] using ends
        have step : page * perPage = (page - 1) * perPage + perPage := page_end page perPage counted
        rw [List.length_drop]
        omega
      have parts : (orders page).take ((page - 1) * perPage) ++ slice perPage page (orders page) = orders page := by
        rw [whole, List.take_append_drop]
      calc (base.take ((page - 1) * perPage)).map label ++ (slice perPage page (orders page)).map label
        _ ~ ((orders page).take ((page - 1) * perPage)).map label ++ (slice perPage page (orders page)).map label :=
            (early (page - 1) page).append_right _
        _ = (orders page).map label := by rw [← List.map_append, parts]
        _ ~ rows.map label := (allowed page).perm.map label
  | next page rest goes later ih =>
      have step := page_end page perPage counted
      have joined : (orders page).take ((page - 1) * perPage) ++ slice perPage page (orders page) =
        (orders page).take (page * perPage) := by
        rw [slice, step, List.take_add]
      calc (base.take ((page - 1) * perPage)).map label ++ ((slice perPage page (orders page)).map label ++ rest)
        _ = ((base.take ((page - 1) * perPage)).map label ++ (slice perPage page (orders page)).map label) ++ rest :=
            (List.append_assoc _ _ _).symm
        _ ~ (((orders page).take ((page - 1) * perPage)).map label ++ (slice perPage page (orders page)).map label) ++ rest :=
            ((early (page - 1) page).append_right _).append_right rest
        _ = ((orders page).take (page * perPage)).map label ++ rest := by rw [← List.map_append, joined]
        _ ~ (base.take (page * perPage)).map label ++ rest := ((early page page).symm).append_right rest
        _ ~ rows.map label := ih (by omega)

end Sorted

section Balanced

variable {Figure : Type} (figure : Row → Figure)

-- Where a page ends between two rows of equal rank, all rows of that rank have the
-- same figure.
def Balanced (order : List Row) : Prop :=
  ∀ page a b, 1 ≤ page → order[page * perPage - 1]? = some a → order[page * perPage]? = some b → before b a = true →
    ∀ row ∈ order, before row a = true → before a row = true → figure row = figure a

variable (ranks : Ranks before)
include ranks

-- The first rows, when they end among rows equal to a.
theorem take_tied (order : List Row) (sorted : order.Pairwise (fun a b => before a b = true)) (a : Row) (count : Nat)
    (late : (order.filter (fun row => !before a row)).length ≤ count)
    (inside : count ≤ (order.filter (fun row => before row a)).length)
    (same : ∀ row ∈ order, before row a = true → before a row = true → figure row = figure a) :
    (order.take count).map figure = (order.filter (fun row => !before a row)).map figure ++
      List.replicate (count - (order.filter (fun row => !before a row)).length) (figure a) := by
  have ahead := filter_ahead before ranks order sorted a
  have upTo := filter_up_to before ranks order sorted a
  have none := dropped_none _ order ahead
  generalize first : (order.filter (fun row => !before a row)).length = early at late ahead none ⊢
  have shape : order.take count = order.filter (fun row => !before a row) ++ (order.drop early).take (count - early) := by
    rw [ahead, ← List.take_add, Nat.add_sub_cancel' late]
  have length : ((order.drop early).take (count - early)).length = count - early := by
    have short := List.length_filter_le (fun row => before row a) order
    rw [List.length_take, List.length_drop]
    omega
  have behind : ∀ row ∈ order.drop early, before a row = true := by
    intro row member
    simpa using List.filter_eq_nil_iff.mp none row member
  rw [shape, List.map_append]
  refine congrArg _ (List.eq_replicate_iff.mpr ⟨by rw [List.length_map, length], fun value member => ?_⟩)
  obtain ⟨row, known, rfl⟩ := List.mem_map.mp member
  have among : row ∈ order.filter (fun row => before row a) := by
    rw [upTo]
    have whole : row ∈ order.take count := by
      rw [shape]
      exact List.mem_append_right _ known
    exact (List.take_sublist_take_left inside).subset whole
  obtain ⟨present, equal⟩ := List.mem_filter.mp among
  exact same row present equal (behind row (List.mem_of_mem_take known))

theorem tied_between (order : List Row) (sorted : order.Pairwise (fun a b => before a b = true)) (count : Nat) (a b : Row)
    (lastIn : order[count]? = some a) (firstOut : order[count + 1]? = some b) (tied : before b a = true) :
    (order.filter (fun row => !before a row)).length ≤ count + 1 ∧
      count + 1 ≤ (order.filter (fun row => before row a)).length := by
  have ahead := filter_ahead before ranks order sorted a
  have none := dropped_none _ order (filter_up_to before ranks order sorted a)
  constructor
  · by_contra early
    have inside : a ∈ order.filter (fun row => !before a row) := by
      rw [ahead]
      refine List.mem_iff_getElem?.mpr ⟨count, ?_⟩
      rw [List.getElem?_take_of_lt (by omega), lastIn]
    simpa [ranks_refl before ranks a] using (List.mem_filter.mp inside).2
  · by_contra short
    have behind : b ∈ order.drop (order.filter (fun row => before row a)).length := by
      refine List.mem_iff_getElem?.mpr ⟨count + 1 - (order.filter (fun row => before row a)).length, ?_⟩
      rw [List.getElem?_drop, Nat.add_sub_cancel' (by omega), firstOut]
    exact List.filter_eq_nil_iff.mp none b behind tied

theorem take_balanced (rows first second : List Row) (allowedFirst : Allowed before rows first)
    (allowedSecond : Allowed before rows second) (balanced : Balanced before perPage figure first)
    (filled : 1 ≤ perPage) (page : Nat) :
    ((first.take (page * perPage)).map figure).Perm ((second.take (page * perPage)).map figure) := by
  by_cases tied : 1 ≤ page ∧ ∃ a b, first[page * perPage - 1]? = some a ∧ first[page * perPage]? = some b ∧ before b a = true
  · obtain ⟨counted, a, b, lastIn, firstOut, equal⟩ := tied
    have positive : 1 ≤ page * perPage := Nat.mul_pos counted filled
    have same := balanced page a b counted lastIn firstOut equal
    have moved : first.Perm second := allowedFirst.perm.trans allowedSecond.perm.symm
    obtain ⟨late, inside⟩ := tied_between before ranks first allowedFirst.sorted (page * perPage - 1) a b lastIn
      (by rw [Nat.sub_add_cancel positive]; exact firstOut) equal
    rw [Nat.sub_add_cancel positive] at late inside
    have start : ∀ row ∈ second, before row a = true → before a row = true → figure row = figure a :=
      fun row member => same row (moved.mem_iff.mpr member)
    have counts := (moved.filter (fun row => !before a row)).length_eq
    rw [take_tied before figure ranks first allowedFirst.sorted a _ late inside same,
      take_tied before figure ranks second allowedSecond.sorted a _ (counts ▸ late)
        ((moved.filter (fun row => before row a)).length_eq ▸ inside) start, counts]
    exact ((moved.filter _).map figure).append_right _
  · refine (take_perm before perPage ranks rows first second allowedFirst allowedSecond page ?_ filled).map figure
    intro a b counted lastIn firstOut
    rw [← Bool.not_eq_true]
    exact fun equal => tied ⟨counted, a, b, lastIn, firstOut, equal⟩

omit ranks in
theorem slice_map (page : Nat) (order : List Row) :
    (slice perPage page order).map figure = slice perPage page (order.map figure) := by
  rw [slice, slice, List.map_take, List.map_drop]

end Balanced

section Orders

variable (rows : List Row) (orders : Nat → List Row) (same : ∀ page, (orders page).length = rows.length) (filled : 1 ≤ perPage)
include same filled

theorem walk_ends (page : Nat) : ∃ seen, Walk (fun page => answer label perPage page (orders page)) page seen := by
  by_cases more : page * perPage < rows.length
  · have closer : rows.length - (page + 1) * perPage < rows.length - page * perPage := by
      rw [Nat.succ_mul]
      omega
    obtain ⟨rest, later⟩ := walk_ends (page + 1)
    exact ⟨_, .next page rest (by simpa [answer, same] using more) later⟩
  · exact ⟨_, .last page (by simpa [answer, same] using more)⟩
termination_by rows.length - page * perPage

omit filled in
theorem walk_length (page : Nat) (seen : List Id) (walk : Walk (fun page => answer label perPage page (orders page)) page seen)
    (counted : 1 ≤ page) : seen.length = rows.length - (page - 1) * perPage := by
  induction walk with
  | last page ends =>
      have short : rows.length ≤ page * perPage := by simpa [answer, same] using ends
      have step : page * perPage = (page - 1) * perPage + perPage := page_end page perPage counted
      simp only [answer, slice, List.length_map, List.length_take, List.length_drop, same]
      omega
  | next page rest goes later ih =>
      have more : page * perPage < rows.length := by simpa [answer, same] using goes
      have step : page * perPage = (page - 1) * perPage + perPage := page_end page perPage counted
      rw [List.length_append, ih (by omega), Nat.add_sub_cancel]
      simp only [answer, slice, List.length_map, List.length_take, List.length_drop, same]
      omega

theorem next_page_iff (page : Nat) : (answer label perPage page (orders page)).hasNext = true ↔
    (answer label perPage (page + 1) (orders (page + 1))).items ≠ [] := by
  rw [← List.length_pos_iff]
  simp only [answer, slice, List.length_map, List.length_take, List.length_drop, same, Nat.add_sub_cancel, decide_eq_true_eq]
  omega

omit filled in
-- Two pages in a row appear in what the walk returns.
theorem walk_pair (page other : Nat) (seen : List Id)
    (walk : Walk (fun page => answer label perPage page (orders page)) page seen)
    (reached : page ≤ other) (more : other * perPage < rows.length) :
    ((answer label perPage other (orders other)).items ++
        (answer label perPage (other + 1) (orders (other + 1))).items).Sublist seen := by
  induction walk with
  | last page ends =>
      have short : rows.length ≤ page * perPage := by simpa [answer, same] using ends
      have grows := Nat.mul_le_mul_right perPage reached
      omega
  | next page rest goes later ih =>
      by_cases here : page = other
      · subst here
        refine List.Sublist.append (List.Sublist.refl _) ?_
        cases later with
        | last _ ends => exact List.Sublist.refl _
        | next _ beyond goes later => exact List.sublist_append_left _ _
      · exact (ih (by omega)).trans (List.sublist_append_right _ _)

end Orders

section Tied

variable (rows base : List Row) (allowed : Allowed before rows base)
include allowed

theorem swap_allowed (front back : List Row) (a b : Row) (shape : base = front ++ a :: b :: back) (tied : before b a = true) :
    Allowed before rows (front ++ b :: a :: back) := by
  refine ⟨((List.Perm.swap a b back).append_left front).trans (shape ▸ allowed.perm), ?_⟩
  have sorted := allowed.sorted
  rw [shape, List.pairwise_append, List.pairwise_cons, List.pairwise_cons] at sorted
  obtain ⟨ahead, ⟨fromA, fromB, behind⟩, across⟩ := sorted
  rw [List.pairwise_append, List.pairwise_cons, List.pairwise_cons]
  refine ⟨ahead, ⟨?_, fun row member => fromA row (List.mem_cons_of_mem _ member), behind⟩, ?_⟩
  · intro row member
    rcases List.mem_cons.mp member with here | later
    · exact here ▸ tied
    · exact fromB row later
  · intro row early other member
    refine across row early other ?_
    simp only [List.mem_cons] at member ⊢
    grind

-- A tie across a page boundary lets one row appear on both pages.
theorem tied_repeats (filled : 1 ≤ perPage) (distinct : (rows.map label).Nodup) (page : Nat) (a b : Row) (counted : 1 ≤ page)
    (lastIn : base[page * perPage - 1]? = some a) (firstOut : base[page * perPage]? = some b) (tied : before b a = true) :
    ∃ orders : Nat → List Row, (∀ page, Allowed before rows (orders page)) ∧
      ¬ Partition (fun page => answer label perPage page (orders page)) (rows.map label) := by
  have positive : 1 ≤ page * perPage := Nat.mul_pos counted filled
  have step : page * perPage = (page - 1) * perPage + perPage := page_end page perPage counted
  obtain ⟨insideB, foundB⟩ := List.getElem?_eq_some_iff.mp firstOut
  obtain ⟨insideA, foundA⟩ := List.getElem?_eq_some_iff.mp lastIn
  have shape : base = base.take (page * perPage - 1) ++ a :: b :: base.drop (page * perPage + 1) := by
    have parts := List.take_append_drop (page * perPage - 1) base
    rw [List.drop_eq_getElem_cons insideA, foundA, Nat.sub_add_cancel positive,
      List.drop_eq_getElem_cons insideB, foundB] at parts
    exact parts.symm
  let swapped := base.take (page * perPage - 1) ++ b :: a :: base.drop (page * perPage + 1)
  let orders : Nat → List Row := fun other => if other ≤ page then base else swapped
  have served : ∀ other, Allowed before rows (orders other) := by
    intro other
    by_cases early : other ≤ page
    · rw [show orders other = base from if_pos early]
      exact allowed
    · rw [show orders other = swapped from if_neg early]
      exact swap_allowed before rows base allowed _ _ a b shape tied
  refine ⟨orders, served, fun partition => ?_⟩
  have lengths : ∀ other, (orders other).length = rows.length := fun other => (served other).perm.length_eq
  obtain ⟨seen, walk⟩ := partition.ends
  have pair := walk_pair label perPage rows orders lengths 1 page seen walk counted
    (by rw [← allowed.perm.length_eq]; exact insideB)
  have unique := ((partition.once seen walk).nodup_iff.mpr distinct).sublist pair
  rw [List.nodup_append'] at unique
  have onFirst : label a ∈ (answer label perPage page (orders page)).items := by
    refine List.mem_map.mpr ⟨a, ?_, rfl⟩
    rw [show orders page = base from if_pos (Nat.le_refl page), slice, List.mem_iff_getElem?]
    refine ⟨perPage - 1, ?_⟩
    rw [List.getElem?_take_of_lt (by omega), List.getElem?_drop, ← lastIn]
    congr 1
    omega
  have onSecond : label a ∈ (answer label perPage (page + 1) (orders (page + 1))).items := by
    refine List.mem_map.mpr ⟨a, ?_, rfl⟩
    rw [show orders (page + 1) = swapped from if_neg (by omega), slice, List.mem_iff_getElem?]
    refine ⟨0, ?_⟩
    have front : (base.take (page * perPage - 1)).length = page * perPage - 1 := by
      rw [List.length_take]
      omega
    rw [List.getElem?_take_of_lt (by omega), List.getElem?_drop, Nat.add_sub_cancel, Nat.add_zero,
      List.getElem?_append_right (by omega), front,
      show page * perPage - (page * perPage - 1) = 1 by omega]
    rfl
  exact unique.2.2 onFirst onSecond

-- Two rows of equal rank may change places wherever they stand.
theorem exchange_allowed [DecidableEq Row] (ranks : Ranks before) (distinct : base.Nodup) (a b : Row)
    (inA : a ∈ base) (inB : b ∈ base)
    (first : before a b = true) (second : before b a = true) : Allowed before rows (base.map (Equiv.swap a b)) := by
  have tied : ∀ row, before row (Equiv.swap a b row) = true ∧ before (Equiv.swap a b row) row = true := by
    intro row
    rw [Equiv.swap_apply_def]
    split
    · rename_i same
      exact same ▸ ⟨first, second⟩
    · split
      · rename_i same
        exact same ▸ ⟨second, first⟩
      · exact ⟨ranks_refl before ranks row, ranks_refl before ranks row⟩
  have unique : (base.map (Equiv.swap a b)).Nodup := distinct.map (Equiv.swap a b).injective
  constructor
  · refine List.Perm.trans ((List.perm_ext_iff_of_nodup unique distinct).mpr fun row => ?_) allowed.perm
    have inside : ∀ row ∈ base, Equiv.swap a b row ∈ base := by
      intro row member
      rw [Equiv.swap_apply_def]
      split
      · exact inB
      · split
        · exact inA
        · exact member
    constructor
    · intro member
      obtain ⟨known, present, rfl⟩ := List.mem_map.mp member
      exact inside known present
    · exact fun member => List.mem_map.mpr ⟨_, inside row member, Equiv.swap_apply_self a b row⟩
  · refine List.pairwise_map.mpr (allowed.sorted.imp fun {x y} ahead => ?_)
    exact ranks.trans _ _ _ (tied x).2 (ranks.trans _ _ _ ahead (tied y).1)

omit allowed in
theorem slice_last (page : Nat) (order : List Row) (a : Row) (counted : 1 ≤ page) (filled : 1 ≤ perPage)
    (lastIn : order[page * perPage - 1]? = some a) :
    slice perPage page order = (order.drop ((page - 1) * perPage)).take (perPage - 1) ++ [a] := by
  have step := page_end page perPage counted
  have place : (order.drop ((page - 1) * perPage))[perPage - 1]? = some a := by
    rw [List.getElem?_drop, ← lastIn]
    congr 1
    omega
  have whole := List.take_add_one (l := order.drop ((page - 1) * perPage)) (i := perPage - 1)
  rw [Nat.sub_add_cancel filled, place] at whole
  exact whole

-- Where a page ends among rows of equal rank, any other of them may stand last on it
-- in place of the one that does.
theorem exchanged_page [DecidableEq Row] (ranks : Ranks before) (distinct : base.Nodup) (filled : 1 ≤ perPage)
    (page : Nat) (a b c : Row)
    (counted : 1 ≤ page) (lastIn : base[page * perPage - 1]? = some a) (firstOut : base[page * perPage]? = some b)
    (tied : before b a = true) (inC : c ∈ base) (other : c ≠ a) (fromC : before c a = true) (toC : before a c = true) :
    ∃ first second front, Allowed before rows first ∧ Allowed before rows second ∧
      slice perPage page first = front ++ [a] ∧ slice perPage page second = front ++ [c] := by
  have inA : a ∈ base := List.mem_iff_getElem?.mpr ⟨_, lastIn⟩
  have inB : b ∈ base := List.mem_iff_getElem?.mpr ⟨_, firstOut⟩
  have ahead : before a b = true := by
    obtain ⟨boundA, foundA⟩ := List.getElem?_eq_some_iff.mp lastIn
    obtain ⟨boundB, foundB⟩ := List.getElem?_eq_some_iff.mp firstOut
    have positive : 1 ≤ page * perPage := Nat.mul_pos counted filled
    rw [← foundA, ← foundB]
    exact List.pairwise_iff_getElem.mp allowed.sorted _ _ boundA boundB (by omega)
  have apart : b ≠ a := by
    rintro rfl
    obtain ⟨boundA, foundA⟩ := List.getElem?_eq_some_iff.mp lastIn
    obtain ⟨boundB, foundB⟩ := List.getElem?_eq_some_iff.mp firstOut
    have positive : 1 ≤ page * perPage := Nat.mul_pos counted filled
    have same := (List.Nodup.getElem_inj_iff distinct).mp (foundA.trans foundB.symm)
    omega
  -- c takes the place of b behind the page, and then that of a on it.
  let first := base.map (Equiv.swap b c)
  have firstAllowed : Allowed before rows first := exchange_allowed before rows base allowed ranks distinct b c inB inC
    (ranks.trans b a c tied toC) (ranks.trans c a b fromC ahead)
  have firstDistinct : first.Nodup := distinct.map (Equiv.swap b c).injective
  have stays : Equiv.swap b c a = a := Equiv.swap_apply_of_ne_of_ne (Ne.symm apart) (Ne.symm other)
  have here : first[page * perPage - 1]? = some a := by rw [List.getElem?_map, lastIn, Option.map_some, stays]
  have behind : first[page * perPage]? = some c := by rw [List.getElem?_map, firstOut, Option.map_some, Equiv.swap_apply_left]
  have last := slice_last perPage page first a counted filled here
  let front := (first.drop ((page - 1) * perPage)).take (perPage - 1)
  have kept : ∀ row ∈ front, row ≠ a ∧ row ≠ c := by
    have step := page_end page perPage counted
    have parts : front ++ a :: c :: first.drop (page * perPage + 1) = first.drop ((page - 1) * perPage) := by
      obtain ⟨boundA, foundA⟩ := List.getElem?_eq_some_iff.mp here
      obtain ⟨boundC, foundC⟩ := List.getElem?_eq_some_iff.mp behind
      have tail : a :: c :: first.drop (page * perPage + 1) = (first.drop ((page - 1) * perPage)).drop (perPage - 1) := by
        have spot : (page - 1) * perPage + (perPage - 1) = page * perPage - 1 := by omega
        have positive : 1 ≤ page * perPage := Nat.mul_pos counted filled
        rw [List.drop_drop, spot, List.drop_eq_getElem_cons boundA, foundA, Nat.sub_add_cancel positive,
          List.drop_eq_getElem_cons boundC, foundC]
      rw [tail, List.take_append_drop]
    have unique := firstDistinct.sublist (List.drop_sublist ((page - 1) * perPage) first)
    rw [← parts, List.nodup_append'] at unique
    intro row member
    refine ⟨fun same => unique.2.2 member ?_, fun same => unique.2.2 member ?_⟩ <;> simp [same]
  refine ⟨first, first.map (Equiv.swap a c), front, firstAllowed, ?_, last, ?_⟩
  · exact exchange_allowed before rows first firstAllowed ranks firstDistinct a c (List.mem_iff_getElem?.mpr ⟨_, here⟩)
      (List.mem_iff_getElem?.mpr ⟨_, behind⟩) toC fromC
  · rw [← slice_map perPage (Equiv.swap a c), last, List.map_append, List.map_singleton, Equiv.swap_apply_left,
      List.map_congr_left fun row member => Equiv.swap_apply_of_ne_of_ne (kept row member).1 (kept row member).2, List.map_id']

end Tied

theorem pages_iff (ranks : Ranks before) (rows base : List Row) (allowed : Allowed before rows base) (filled : 1 ≤ perPage)
    (distinct : (rows.map label).Nodup) :
    (∀ orders : Nat → List Row, (∀ page, Allowed before rows (orders page)) →
      Partition (fun page => answer label perPage page (orders page)) (rows.map label)) ↔ Untied before perPage base := by
  constructor
  · intro always page a b counted lastIn firstOut
    rw [← Bool.not_eq_true]
    intro tied
    obtain ⟨orders, served, broken⟩ := tied_repeats before label perPage rows base allowed filled distinct page a b counted
      lastIn firstOut tied
    exact broken (always orders served)
  · intro untied orders served
    have lengths : ∀ page, (orders page).length = rows.length := fun page => (served page).perm.length_eq
    refine ⟨walk_ends label perPage rows orders lengths filled 1, ?_, ?_, ?_⟩
    · intro seen walk
      simpa using partition_perm before label perPage ranks rows base orders allowed served untied filled 1 seen walk
        (Nat.le_refl 1)
    · intro page seen _ walk
      rw [walk_length label perPage rows orders lengths 1 seen walk (Nat.le_refl 1)]
      simp [answer, lengths]
    · intro page _
      exact next_page_iff label perPage rows orders lengths filled page

abbrev Sorter (Row : Type) := (Row → Row → Bool) → List Row → List Row

-- What an endpoint serves, when the database sorts afresh for each request.
def Partitioned (rows : List Row) (serve : Sorter Row → Nat → Answer Id) : Prop :=
  ∀ sorters : Nat → Sorter Row, (∀ page, Allowed before rows (sorters page before rows)) →
    Partition (fun page => serve (sorters page) page) (rows.map label)

theorem walk_congr (first second : Nat → Answer Id) (same : ∀ page, 1 ≤ page → first page = second page)
    (page : Nat) (counted : 1 ≤ page)
    (seen : List Id) (walk : Walk first page seen) : Walk second page seen := by
  induction walk with
  | last page ends =>
      rw [same page counted] at ends ⊢
      exact .last page ends
  | next page rest goes later ih =>
      rw [same page counted] at goes ⊢
      exact .next page rest goes (ih (by omega))

theorem partition_congr (first second : Nat → Answer Id) (ids : List Id) (same : ∀ page, 1 ≤ page → first page = second page)
    (partition : Partition first ids) : Partition second ids := by
  have back : ∀ page, 1 ≤ page → second page = first page := fun page counted => (same page counted).symm
  obtain ⟨seen, walk⟩ := partition.ends
  refine ⟨⟨seen, walk_congr first second same 1 (Nat.le_refl 1) seen walk⟩, ?_, ?_, ?_⟩
  · intro other met
    exact partition.once other (walk_congr second first back 1 (Nat.le_refl 1) other met)
  · intro page other counted met
    rw [back page counted]
    exact partition.counted page other counted (walk_congr second first back 1 (Nat.le_refl 1) other met)
  · intro page counted
    rw [back page counted, back (page + 1) (by omega)]
    exact partition.more page counted

theorem allowed_sort (ranks : Ranks before) (rows listed : List Row) (same : listed.Perm rows) :
    Allowed before rows (listed.mergeSort before) :=
  ⟨(List.mergeSort_perm listed before).trans same,
    List.pairwise_mergeSort ranks.trans (fun a b => by simpa using ranks.total a b) listed⟩

theorem partitioned_iff (ranks : Ranks before) (rows : List Row) (serve : Sorter Row → Nat → Answer Id) (filled : 1 ≤ perPage)
    (distinct : (rows.map label).Nodup) (serves : ∀ sorter page, (sorter before rows).length = rows.length → 1 ≤ page →
      serve sorter page = answer label perPage page (sorter before rows)) :
    Partitioned before label rows serve ↔ Untied before perPage (rows.mergeSort before) := by
  rw [← pages_iff before label perPage ranks rows (rows.mergeSort before)
    (allowed_sort before ranks rows rows (.refl rows)) filled distinct]
  constructor
  · intro always orders allowed
    refine partition_congr _ _ _ (fun page counted => ?_) (always (fun page _ _ => orders page) allowed)
    exact serves (fun _ _ => orders page) page (allowed page).perm.length_eq counted
  · intro untied sorters allowed
    refine partition_congr _ _ _ (fun page counted => ?_) (untied (fun page => sorters page before rows) allowed)
    exact (serves (sorters page) page (allowed page).perm.length_eq counted).symm

theorem steady_walk (order : List Row) (page : Nat) (seen : List Id) (counted : 1 ≤ page)
    (walk : Walk (fun page => answer label perPage page order) page seen) :
    seen = (order.drop ((page - 1) * perPage)).map label := by
  induction walk with
  | last page ends =>
      have short : order.length ≤ page * perPage := by simpa [answer] using ends
      have step := page_end page perPage counted
      have whole : slice perPage page order = order.drop ((page - 1) * perPage) :=
        List.take_of_length_le (by rw [List.length_drop]; omega)
      rw [answer, whole]
  | next page rest goes later ih =>
      rw [ih (by omega), answer, ← List.map_append, slice, Nat.add_sub_cancel, page_end page perPage counted, ← List.drop_drop,
        List.take_append_drop]

theorem pages_perm (base : List Row) (orders : Nat → List Row)
    (early : ∀ upTo page, (base.take (upTo * perPage)).Perm ((orders page).take (upTo * perPage))) (pages : Nat) :
    ((List.range' 1 pages).flatMap (fun page => slice perPage page (orders page))).Perm (base.take (pages * perPage)) := by
  induction pages with
  | zero => simp
  | succ pages ih =>
      have last : ((orders (1 + pages)).take (pages * perPage)) ++ slice perPage (1 + pages) (orders (1 + pages)) =
          (orders (1 + pages)).take ((pages + 1) * perPage) := by
        rw [slice, Nat.add_sub_cancel_left, Nat.succ_mul, List.take_add]
      rw [List.range'_1_concat, List.flatMap_append, List.flatMap_singleton]
      calc (List.range' 1 pages).flatMap (fun page => slice perPage page (orders page)) ++
        slice perPage (1 + pages) (orders (1 + pages))
        _ ~ base.take (pages * perPage) ++ slice perPage (1 + pages) (orders (1 + pages)) := ih.append_right _
        _ ~ (orders (1 + pages)).take (pages * perPage) ++ slice perPage (1 + pages) (orders (1 + pages)) :=
            (early pages (1 + pages)).append_right _
        _ = (orders (1 + pages)).take ((pages + 1) * perPage) := last
        _ ~ base.take ((pages + 1) * perPage) := (early (pages + 1) (1 + pages)).symm

theorem page_count (total : Nat) (filled : 1 ≤ perPage) : total ≤ (total + perPage - 1) / perPage * perPage := by
  have whole := Nat.div_add_mod (total + perPage - 1) perPage
  have less := Nat.mod_lt (total + perPage - 1) filled
  rw [Nat.mul_comm]
  omega

theorem pages_balanced {Figure : Type} (figure : Row → Figure) (ranks : Ranks before) (rows base : List Row)
    (orders : Nat → List Row)
    (allowedBase : Allowed before rows base) (allowed : ∀ page, Allowed before rows (orders page))
    (balanced : Balanced before perPage figure base) (filled : 1 ≤ perPage)
    (pages : List Nat) (all : pages.Perm (List.range' 1 ((rows.length + perPage - 1) / perPage))) :
    ((pages.flatMap (fun page => slice perPage page (orders page))).map figure).Perm (rows.map figure) := by
  have early : ∀ upTo page, ((base.map figure).take (upTo * perPage)).Perm
    (((orders page).map figure).take (upTo * perPage)) := by
    intro upTo page
    rw [← List.map_take, ← List.map_take]
    exact take_balanced before perPage figure ranks rows base (orders page) allowedBase (allowed page) balanced filled upTo
  rw [List.map_flatMap]
  simp only [slice_map]
  refine (all.flatMap_right _).trans
    ((pages_perm perPage (base.map figure) (fun page => (orders page).map figure) early _).trans ?_)
  rw [List.take_of_length_le (by rw [List.length_map, allowedBase.perm.length_eq]; exact page_count perPage rows.length filled)]
  exact allowedBase.perm.map figure

theorem pages_cover (ranks : Ranks before) (rows : List Row) (orders : Nat → List Row)
    (allowed : ∀ page, Allowed before rows (orders page))
    (steady : (∀ page, orders page = orders 1) ∨ Untied before perPage (orders 1)) (filled : 1 ≤ perPage)
    (pages : List Nat) (all : pages.Perm (List.range' 1 ((rows.length + perPage - 1) / perPage))) :
    (pages.flatMap (fun page => slice perPage page (orders page))).Perm rows := by
  have early : ∀ upTo page, ((orders 1).take (upTo * perPage)).Perm ((orders page).take (upTo * perPage)) := by
    intro upTo page
    rcases steady with fixed | untied
    · rw [fixed page]
    · exact take_perm before perPage ranks rows (orders 1) (orders page) (allowed 1) (allowed page) upTo (untied upTo) filled
  refine (all.flatMap_right _).trans ((pages_perm perPage (orders 1) orders early _).trans ?_)
  rw [List.take_of_length_le (by rw [(allowed 1).perm.length_eq]; exact page_count perPage rows.length filled)]
  exact (allowed 1).perm

end Pages
