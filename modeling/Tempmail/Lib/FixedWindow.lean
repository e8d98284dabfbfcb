import Mathlib.Algebra.Order.Group.Basic
import Mathlib.Data.List.Induction
import Mathlib.Data.List.Pairwise
import Tempmail.Lib.Machine

set_option autoImplicit false

-- Fixed windows: the first admission opens a window, the window counts until
-- more than a width has passed, and the next call opens another one.
namespace FixedWindow

structure Window (T : Type) where
  start : T
  count : Int
deriving DecidableEq

structure Admission (T : Type) where
  time : T
  opened : T
deriving DecidableEq

section Limiter

variable {T : Type} [AddCommGroup T] [LinearOrder T]

def serve (width : T) (limit : Int) (now : T) : Option (Window T) → Bool × Option (Window T)
  | none => (true, some ⟨now, 1⟩)
  | some window =>
      if width < now - window.start then (true, some ⟨now, 1⟩)
      else if limit ≤ window.count then (false, some window)
      else (true, some ⟨window.start, window.count + 1⟩)

-- One caller's limiter: it sees the caller's own calls and forgets nothing.
def limiter (width : T) (limit : Int) : Machine (Option (Window T)) T Bool where
  step window now := ((serve width limit now window).2, (serve width limit now window).1)

def admitted (width : T) (limit : Int) (window : Option (Window T)) (now : T) : Option (Admission T) :=
  if (serve width limit now window).1 then (serve width limit now window).2.map (fun next => ⟨now, next.start⟩) else none

def admissions (width : T) (limit : Int) (window : Option (Window T)) (times : List T) : List (Admission T) :=
  ((limiter width limit).trace window times).filterMap (fun moment => admitted width limit moment.before moment.event)

-- The three promises of a fixed window limiter.
structure Windowed (width : T) (limit : Int) (log : List (Admission T)) : Prop where
  inside : ∀ admission ∈ log, admission.opened ≤ admission.time ∧ admission.time - admission.opened ≤ width
  apart : log.Pairwise (fun earlier later => earlier.opened = later.opened ∨ width < later.opened - earlier.opened)
  counted : ∀ start, (log.countP (fun admission => decide (admission.opened = start)) : Int) ≤ limit

structure Tracks (width : T) (limit : Int) (upTo : T) (log : List (Admission T)) (window : Option (Window T)) : Prop where
  windowed : Windowed width limit log
  unused : window = none → log = []
  current : ∀ running, window = some running → running.start ≤ upTo ∧
    (∀ admission ∈ log, admission.opened = running.start ∨ width < running.start - admission.opened) ∧
    (log.countP (fun admission => decide (admission.opened = running.start)) : Int) = running.count

theorem admissions_cons (width : T) (limit : Int) (window : Option (Window T)) (now : T) (rest : List T) :
    admissions width limit window (now :: rest) =
      (admitted width limit window now).toList ++ admissions width limit (serve width limit now window).2 rest := by
  rw [admissions, Machine.trace, List.filterMap_cons]
  cases admitted width limit window now <;> rfl

theorem admissions_snoc (width : T) (limit : Int) (window : Option (Window T)) (times : List T) (now : T) :
    admissions width limit window (times ++ [now]) =
      admissions width limit window times ++ (admitted width limit ((limiter width limit).final window times) now).toList := by
  rw [admissions, Machine.trace_append, List.filterMap_append, Machine.trace_one, List.filterMap_cons, List.filterMap_nil,
    ← admissions]
  cases admitted width limit ((limiter width limit).final window times) now <;> rfl

theorem serve_running (width : T) (limit : Int) (now : T) (window : Window T) (running : ¬ width < now - window.start) :
    ∃ count, window.count ≤ count ∧ (serve width limit now (some window)).2 = some ⟨window.start, count⟩ := by
  rw [serve, if_neg running]
  split
  · exact ⟨window.count, le_refl _, rfl⟩
  · exact ⟨window.count + 1, by omega, rfl⟩

theorem windowed_push (width : T) (limit : Int) (log : List (Admission T)) (admission : Admission T)
    (windowed : Windowed width limit log) (inside : admission.opened ≤ admission.time ∧ admission.time - admission.opened ≤ width)
    (apart : ∀ earlier ∈ log, earlier.opened = admission.opened ∨ width < admission.opened - earlier.opened)
    (room : (log.countP (fun earlier => decide (earlier.opened = admission.opened)) : Int) < limit) :
    Windowed width limit (log ++ [admission]) := by
  refine ⟨?_, ?_, ?_⟩
  · intro other member
    rcases List.mem_append.mp member with earlier | last
    · exact windowed.inside other earlier
    · rw [List.mem_singleton.mp last]
      exact inside
  · refine List.pairwise_append.mpr ⟨windowed.apart, List.pairwise_singleton _ _, ?_⟩
    intro earlier before last here
    rw [List.mem_singleton.mp here]
    exact apart earlier before
  · intro start
    rw [List.countP_append, List.countP_singleton]
    by_cases same : admission.opened = start
    · subst same
      simp only [decide_true, if_true]
      omega
    · have known := windowed.counted start
      simp only [same, decide_false, Bool.false_eq_true, if_false]
      omega

theorem tracks_counted (width : T) (limit : Int) (upTo now : T) (log : List (Admission T)) (running : Window T)
    (order : upTo ≤ now) (tracks : Tracks width limit upTo log (some running)) (still : ¬ width < now - running.start)
    (room : ¬ limit ≤ running.count) :
    Tracks width limit now (log ++ [⟨now, running.start⟩]) (some ⟨running.start, running.count + 1⟩) := by
  obtain ⟨started, labels, count⟩ := tracks.current running rfl
  refine ⟨windowed_push width limit log ⟨now, running.start⟩ tracks.windowed ⟨started.trans order, not_lt.mp still⟩ labels
    (by rw [count]; omega), nofun, ?_⟩
  intro next held
  cases held
  refine ⟨started.trans order, ?_, ?_⟩
  · intro earlier member
    rcases List.mem_append.mp member with before | last
    · exact labels earlier before
    · exact Or.inl (by rw [List.mem_singleton.mp last])
  · rw [List.countP_append, Int.natCast_add, count]
    simp

def Separate (width : T) (one other : Admission T) : Prop :=
  one.opened = other.opened ∨ width < other.opened - one.opened ∨ width < one.opened - other.opened

theorem separate_symm (width : T) : Std.Symm (Separate (T := T) width) :=
  ⟨fun _ _ related => related.elim (fun same => Or.inl same.symm) (fun gap => Or.inr gap.symm)⟩

theorem windowed_any (width : T) (limit : Int) (log : List (Admission T)) (windowed : Windowed width limit log)
    (one other : Admission T) (inLog : one ∈ log) (alsoInLog : other ∈ log) : Separate width one other := by
  have symmetric := separate_symm width
  have pairs : log.Pairwise (Separate width) :=
    windowed.apart.imp (fun related => related.elim Or.inl (fun gap => Or.inr (Or.inl gap)))
  have itself : ∀ admission ∈ log, Separate width admission admission := fun _ _ => Or.inl rfl
  exact pairs.forall_of_forall itself inLog alsoInLog

variable [IsOrderedAddMonoid T]

-- A window is opened only once every earlier one has run out.
theorem tracks_opened (width : T) (limit : Int) (upTo now : T) (log : List (Admission T)) (window : Option (Window T))
    (wide : 0 ≤ width) (positive : 0 < limit) (order : upTo ≤ now) (tracks : Tracks width limit upTo log window)
    (due : ∀ running, window = some running → width < now - running.start) :
    Tracks width limit now (log ++ [⟨now, now⟩]) (some ⟨now, 1⟩) := by
  have past : ∀ earlier ∈ log, width < now - earlier.opened := by
    intro earlier member
    cases held : window with
    | none =>
        rw [tracks.unused held] at member
        cases member
    | some running =>
        obtain ⟨started, labels, -⟩ := tracks.current running held
        rcases labels earlier member with same | older
        · rw [same]
          exact due running held
        · exact older.trans_le (sub_le_sub_right (started.trans order) _)
  have fresh : log.countP (fun earlier => decide (earlier.opened = now)) = 0 := by
    apply List.countP_eq_zero.mpr
    intro earlier member same
    have late := past earlier member
    rw [of_decide_eq_true same, sub_self] at late
    exact absurd late (not_lt.mpr wide)
  refine ⟨windowed_push width limit log ⟨now, now⟩ tracks.windowed ⟨le_refl now, by simpa using wide⟩
    (fun earlier member => Or.inr (past earlier member)) (by rw [fresh]; exact positive), nofun, ?_⟩
  intro running held
  cases held
  refine ⟨le_refl now, ?_, ?_⟩
  · intro earlier member
    rcases List.mem_append.mp member with before | last
    · exact Or.inr (past earlier before)
    · exact Or.inl (by rw [List.mem_singleton.mp last])
  · simp [List.countP_append, fresh]

theorem tracks_step (width : T) (limit : Int) (upTo now : T) (log : List (Admission T)) (window : Option (Window T))
    (wide : 0 ≤ width) (positive : 0 < limit) (order : upTo ≤ now) (tracks : Tracks width limit upTo log window) :
    Tracks width limit now (log ++ (admitted width limit window now).toList) (serve width limit now window).2 := by
  cases window with
  | none => exact tracks_opened width limit upTo now log none wide positive order tracks nofun
  | some running =>
      by_cases due : width < now - running.start
      · have opened := tracks_opened width limit upTo now log (some running) wide positive order tracks
          (fun other held => by cases held; exact due)
        simpa only [admitted, serve, if_pos due, Option.map_some, Option.toList_some, if_true] using opened
      · by_cases full : limit ≤ running.count
        · simp only [admitted, serve, if_neg due, if_pos full, Bool.false_eq_true, if_false, Option.toList_none, List.append_nil]
          refine ⟨tracks.windowed, nofun, ?_⟩
          intro other held
          obtain ⟨started, rest⟩ := tracks.current other held
          exact ⟨started.trans order, rest⟩
        · have counted := tracks_counted width limit upTo now log running order tracks due full
          simpa only [admitted, serve, if_neg due, if_neg full, Option.map_some, Option.toList_some, if_true] using counted

theorem tracks_run (width : T) (limit : Int) (wide : 0 ≤ width) (positive : 0 < limit) (times : List T) (upTo : T)
    (sorted : times.Pairwise (· ≤ ·)) (past : ∀ time ∈ times, time ≤ upTo) :
    Tracks width limit upTo (admissions width limit none times) ((limiter width limit).final none times) := by
  induction times using List.reverseRecOn generalizing upTo with
  | nil =>
      exact ⟨⟨nofun, List.Pairwise.nil, fun _ => le_of_lt positive⟩, fun _ => rfl, nofun⟩
  | append_singleton times now ih =>
      obtain ⟨before, -, order⟩ := List.pairwise_append.mp sorted
      have known := ih now before (fun time member => order time member now List.mem_cons_self)
      have stepped := tracks_step width limit now now _ _ wide positive (le_refl now) known
      rw [admissions_snoc, Machine.final_append]
      refine ⟨stepped.windowed, stepped.unused, ?_⟩
      intro running held
      obtain ⟨started, rest⟩ := stepped.current running held
      exact ⟨started.trans (past now (by simp)), rest⟩

theorem admissions_windowed (width : T) (limit : Int) (wide : 0 ≤ width) (positive : 0 < limit) (times : List T)
    (sorted : times.Pairwise (· ≤ ·)) : Windowed width limit (admissions width limit none times) := by
  cases last : times.getLast? with
  | none =>
      rw [List.getLast?_eq_none_iff.mp last]
      exact ⟨nofun, List.Pairwise.nil, fun _ => le_of_lt positive⟩
  | some newest =>
      obtain ⟨front, split⟩ := List.getLast?_eq_some_iff.mp last
      refine (tracks_run width limit wide positive times newest sorted ?_).windowed
      intro time member
      rw [split] at member sorted
      rcases List.mem_append.mp member with earlier | here
      · exact (List.pairwise_append.mp sorted).2.2 time earlier newest List.mem_cons_self
      · exact le_of_eq (List.mem_singleton.mp here)

def within (low high : T) (admission : Admission T) : Bool := decide (low ≤ admission.time) && decide (admission.time ≤ high)

theorem no_third_window (width : T) (limit : Int) (log : List (Admission T)) (low high : T) (short : high - low ≤ width)
    (windowed : Windowed width limit log) (first second third : Admission T) (inFirst : first ∈ log.filter (within low high))
    (inThird : third ∈ log.filter (within low high)) (next : width < second.opened - first.opened)
    (after : width < third.opened - second.opened) : False := by
  obtain ⟨logged, times⟩ := List.mem_filter.mp inFirst
  obtain ⟨later, late⟩ := List.mem_filter.mp inThird
  simp only [within, Bool.and_eq_true, decide_eq_true_eq] at times late
  have ends : first.time < second.opened := by
    have stays := (windowed.inside first logged).2
    have gap := stays.trans_lt next
    exact (sub_lt_sub_iff_right first.opened).mp gap
  have starts : width < third.time - first.time :=
    calc width < third.opened - second.opened := after
      _ ≤ third.time - second.opened := sub_le_sub_right (windowed.inside third later).1 _
      _ ≤ third.time - first.time := sub_le_sub_left (le_of_lt ends) _
  have spread : third.time - first.time ≤ width := (sub_le_sub late.2 times.1).trans short
  exact absurd starts (not_lt.mpr spread)

theorem interval_bound (width : T) (limit : Int) (log : List (Admission T)) (windowed : Windowed width limit log) (low high : T)
    (short : high - low ≤ width) : (log.countP (within low high) : Int) ≤ 2 * limit := by
  have counted : ∀ start,
    ((log.filter (within low high)).countP (fun admission => decide (admission.opened = start)) : Int) ≤ limit := by
    intro start
    have fewer := (List.filter_sublist (l := log) (p := within low high)).countP_le
      (p := fun admission => decide (admission.opened = start))
    have known := windowed.counted start
    omega
  rw [List.countP_eq_length_filter]
  cases listed : log.filter (within low high) with
  | nil =>
      have known := windowed.counted low
      simp only [List.length_nil]
      omega
  | cons first rest =>
      have apart := windowed.apart.sublist (List.filter_sublist (l := log) (p := within low high))
      rw [listed] at apart
      obtain ⟨ahead, others⟩ := List.pairwise_cons.mp apart
      have inside : ∀ admission ∈ rest, admission ∈ log.filter (within low high) :=
        fun admission member => listed ▸ List.mem_cons_of_mem first member
      have front : first ∈ log.filter (within low high) := listed ▸ List.mem_cons_self
      rw [← listed]
      by_cases alone : ∀ admission ∈ rest, admission.opened = first.opened
      · have whole : (log.filter (within low high)).countP (fun admission => decide (admission.opened = first.opened)) =
            (log.filter (within low high)).length := by
          apply List.countP_eq_length.mpr
          rw [listed]
          simpa using alone
        have known := counted first.opened
        omega
      · simp only [not_forall] at alone
        obtain ⟨second, member, other⟩ := alone
        have next : width < second.opened - first.opened := (ahead second member).resolve_left (fun same => other same.symm)
        have two : ∀ admission ∈ log.filter (within low high),
            ¬ decide (admission.opened = first.opened) = true → decide (admission.opened = second.opened) = true := by
          intro admission here elsewhere
          have there : admission ∈ rest := by
            rw [listed] at here
            exact (List.mem_cons.mp here).resolve_left (fun same => elsewhere (by simp [same]))
          have beyond : width < admission.opened - first.opened :=
            (ahead admission there).resolve_left (fun same => elsewhere (by simp [same]))
          rcases windowed_any width limit log windowed second admission (List.mem_of_mem_filter (inside second member))
            (List.mem_of_mem_filter here) with same | after | after
          · exact decide_eq_true same.symm
          · exact (no_third_window width limit log low high short windowed first second admission front here next after).elim
          · exact (no_third_window width limit log low high short windowed first admission second front (inside second member)
              beyond after).elim
        have split := List.length_eq_countP_add_countP (fun admission : Admission T => decide (admission.opened = first.opened))
          (l := log.filter (within low high))
        have others_second := List.countP_mono_left (l := log.filter (within low high))
          (p := fun admission => decide ¬ decide (admission.opened = first.opened) = true)
          (q := fun admission => decide (admission.opened = second.opened)) (fun admission here elsewhere =>
            two admission here (of_decide_eq_true elsewhere))
        have known := counted first.opened
        have known' := counted second.opened
        omega

end Limiter

end FixedWindow
