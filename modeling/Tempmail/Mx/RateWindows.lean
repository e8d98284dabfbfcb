import Mathlib.Algebra.Order.Group.Int
import Tempmail.Lib.FixedWindow
import Tempmail.Mx.Limits

set_option autoImplicit false

namespace Tempmail.Mx

structure RateCall where
  ip : String
  now : Time
deriving DecidableEq, Repr

-- The table every session shares, one call at a time under its lock.
def rateTable (limit : Int) : Machine IpWindows RateCall Bool where
  step windows call :=
    ((allowMessageFrom windows call.now call.ip limit).2, (allowMessageFrom windows call.now call.ip limit).1)

def ownCalls (ip : String) (calls : List RateCall) : List Time :=
  (calls.filter (fun call => decide (call.ip = ip))).map RateCall.now

def decisions (limit : Int) (ip : String) (windows : IpWindows) (calls : List RateCall) : List Bool :=
  (((rateTable limit).trace windows calls).filter (fun moment => decide (moment.event.ip = ip))).map Machine.Moment.answer

def admittedCall (limit : Int) (ip : String) (windows : IpWindows) (call : RateCall) : Option (FixedWindow.Admission Time) :=
  if call.ip = ip ∧ (allowMessageFrom windows call.now call.ip limit).1 = true then
    ((allowMessageFrom windows call.now call.ip limit).2.lookup ip).map (fun window => ⟨call.now, window.start⟩)
  else none

def admittedFrom (limit : Int) (ip : String) (windows : IpWindows) (calls : List RateCall) :
    List (FixedWindow.Admission Time) :=
  ((rateTable limit).trace windows calls).filterMap (fun moment => admittedCall limit ip moment.before moment.event)

structure RateLimited (limit : Int) (calls : List RateCall) (ip : String) : Prop where
  decided : decisions limit ip ∅ calls = (FixedWindow.limiter hour limit).answers none (ownCalls ip calls)
  windowed : FixedWindow.Windowed hour limit (admittedFrom limit ip ∅ calls)
  interval : ∀ low high, high - low ≤ hour →
    ((admittedFrom limit ip ∅ calls).countP (FixedWindow.within low high) : Int) ≤ 2 * limit

-- A call neither prunes nor restarts a window that is still running.
structure WindowKept (limit : Int) (windows : IpWindows) (call : RateCall) (ip : String) (window : IpWindow) : Prop where
  pruned : (pruneWindows windows call.now).lookup ip = some window
  running : ∃ count, window.count ≤ count ∧
    ((rateTable limit).step windows call).1.lookup ip = some ⟨window.start, count⟩

def IpWindow.window (window : IpWindow) : FixedWindow.Window Time := ⟨window.start, window.count⟩

def TableAgrees (upTo : Time) (ip : String) (windows : IpWindows) (own : Option (FixedWindow.Window Time)) : Prop :=
  (windows.lookup ip).map IpWindow.window = own ∨
    windows.lookup ip = none ∧ ∃ running, own = some running ∧ hour < upTo - running.start

theorem allow_switched_on (windows : IpWindows) (now : Time) (ip : String) (limit : Int) (positive : 0 < limit) :
    allowMessageFrom windows now ip limit =
      match (pruneWindows windows now).lookup ip with
      | none => (true, (pruneWindows windows now).insert ip ⟨now, 1⟩)
      | some window =>
          if now - window.start > hour then (true, (pruneWindows windows now).insert ip ⟨now, 1⟩)
          else if window.count ≥ limit then (false, pruneWindows windows now)
          else (true, (pruneWindows windows now).insert ip ⟨window.start, window.count + 1⟩) :=
  if_neg (not_le.mpr positive)

theorem pruned_lookup (windows : IpWindows) (now : Time) (ip : String) :
    (pruneWindows windows now).lookup ip = windows.lookup ip ∨
      (pruneWindows windows now).lookup ip = none ∧ ∃ window, windows.lookup ip = some window ∧ hour < now - window.start := by
  unfold pruneWindows
  split
  · rw [Table.lookup_keep]
    cases windows.lookup ip with
    | none => exact Or.inl rfl
    | some window =>
        by_cases due : hour < now - window.start
        · exact Or.inr ⟨Option.filter_some_neg (by simpa using due), window, rfl, due⟩
        · exact Or.inl (Option.filter_some_pos (by simpa using due))
  · exact Or.inl rfl

theorem pruned_agrees (upTo now : Time) (ip : String) (windows : IpWindows) (own : Option (FixedWindow.Window Time))
    (order : upTo ≤ now) (agrees : TableAgrees upTo ip windows own) : TableAgrees now ip (pruneWindows windows now) own := by
  rcases agrees with same | ⟨gone, running, held, due⟩
  · rcases pruned_lookup windows now ip with kept | ⟨gone, window, found, due⟩
    · exact Or.inl (by rw [kept, same])
    · rw [found] at same
      exact Or.inr ⟨gone, window.window, same.symm, due⟩
  · have still : (pruneWindows windows now).lookup ip = none := by
      rcases pruned_lookup windows now ip with kept | ⟨none_left, -⟩
      · rw [kept, gone]
      · exact none_left
    exact Or.inr ⟨still, running, held, due.trans_le (sub_le_sub_right order _)⟩

theorem own_call (limit : Int) (positive : 0 < limit) (upTo now : Time) (ip : String) (windows : IpWindows)
    (own : Option (FixedWindow.Window Time)) (order : upTo ≤ now) (agrees : TableAgrees upTo ip windows own) :
    (allowMessageFrom windows now ip limit).1 = (FixedWindow.serve hour limit now own).1 ∧
      ((allowMessageFrom windows now ip limit).2.lookup ip).map IpWindow.window = (FixedWindow.serve hour limit now own).2 := by
  have pruned := pruned_agrees upTo now ip windows own order agrees
  rw [allow_switched_on windows now ip limit positive]
  rcases pruned with same | ⟨gone, running, held, due⟩
  · subst same
    cases found : (pruneWindows windows now).lookup ip with
    | none =>
        simp only [AList.lookup_insert]
        exact ⟨rfl, rfl⟩
    | some window =>
        simp only [Option.map_some, FixedWindow.serve, IpWindow.window, gt_iff_lt, ge_iff_le]
        split
        · exact ⟨rfl, by rw [AList.lookup_insert]; rfl⟩
        · split
          · exact ⟨rfl, by rw [found]; rfl⟩
          · exact ⟨rfl, by rw [AList.lookup_insert]; rfl⟩
  · rw [gone, held, FixedWindow.serve, if_pos due]
    exact ⟨rfl, by rw [AList.lookup_insert]; rfl⟩

theorem other_lookup (limit : Int) (positive : 0 < limit) (windows : IpWindows) (now : Time) (ip other : String)
    (different : other ≠ ip) :
    (allowMessageFrom windows now other limit).2.lookup ip = (pruneWindows windows now).lookup ip := by
  rw [allow_switched_on windows now other limit positive]
  split
  · exact AList.lookup_insert_ne different.symm
  · split
    · exact AList.lookup_insert_ne different.symm
    · split
      · rfl
      · exact AList.lookup_insert_ne different.symm

theorem decisions_cons (limit : Int) (ip : String) (windows : IpWindows) (call : RateCall) (rest : List RateCall) :
    decisions limit ip windows (call :: rest) =
      (if call.ip = ip then [(allowMessageFrom windows call.now call.ip limit).1] else []) ++
        decisions limit ip (allowMessageFrom windows call.now call.ip limit).2 rest := by
  by_cases mine : call.ip = ip <;> simp [decisions, rateTable, Machine.trace, mine]

theorem admitted_cons (limit : Int) (ip : String) (windows : IpWindows) (call : RateCall) (rest : List RateCall) :
    admittedFrom limit ip windows (call :: rest) =
      (admittedCall limit ip windows call).toList ++
        admittedFrom limit ip (allowMessageFrom windows call.now call.ip limit).2 rest := by
  rw [admittedFrom, Machine.trace, List.filterMap_cons]
  cases admittedCall limit ip windows call <;> rfl

theorem runs_agree (limit : Int) (positive : 0 < limit) (ip : String) (calls : List RateCall) (upTo : Time)
    (windows : IpWindows) (own : Option (FixedWindow.Window Time)) (past : ∀ call ∈ calls, upTo ≤ call.now)
    (sorted : calls.Pairwise (fun earlier later => earlier.now ≤ later.now)) (agrees : TableAgrees upTo ip windows own) :
    decisions limit ip windows calls = (FixedWindow.limiter hour limit).answers own (ownCalls ip calls) ∧
      admittedFrom limit ip windows calls = FixedWindow.admissions hour limit own (ownCalls ip calls) := by
  induction calls generalizing upTo windows own with
  | nil => exact ⟨rfl, rfl⟩
  | cons call rest ih =>
      obtain ⟨ahead, others⟩ := List.pairwise_cons.mp sorted
      have order := past call List.mem_cons_self
      by_cases mine : call.ip = ip
      · subst mine
        obtain ⟨answered, held⟩ := own_call limit positive upTo call.now call.ip windows own order agrees
        have same : admittedCall limit call.ip windows call = FixedWindow.admitted hour limit own call.now := by
          rw [admittedCall, FixedWindow.admitted, answered, ← held, Option.map_map]
          simp only [true_and]
          rfl
        obtain ⟨decided, listed⟩ := ih call.now _ _ ahead others (Or.inl held)
        have own_cons : ownCalls call.ip (call :: rest) = call.now :: ownCalls call.ip rest := by simp [ownCalls]
        rw [own_cons, admitted_cons, FixedWindow.admissions_cons, same, listed]
        refine ⟨?_, rfl⟩
        rw [decisions_cons, if_pos rfl, answered, decided]
        rfl
      · have agreed : TableAgrees call.now ip (allowMessageFrom windows call.now call.ip limit).2 own := by
          rw [TableAgrees, other_lookup limit positive windows call.now ip call.ip mine]
          exact pruned_agrees upTo call.now ip windows own order agrees
        obtain ⟨decided, listed⟩ := ih call.now _ own ahead others agreed
        have own_cons : ownCalls ip (call :: rest) = ownCalls ip rest := by simp [ownCalls, mine]
        have skipped : admittedCall limit ip windows call = none := by simp [admittedCall, mine]
        rw [own_cons, ← decided, ← listed, admitted_cons, decisions_cons, if_neg mine, skipped]
        exact ⟨rfl, rfl⟩

theorem window_kept (limit : Int) (positive : 0 < limit) (windows : IpWindows) (call : RateCall) (ip : String)
    (window : IpWindow) (found : windows.lookup ip = some window) (running : call.now - window.start ≤ hour) :
    WindowKept limit windows call ip window := by
  have kept : (pruneWindows windows call.now).lookup ip = some window := by
    rcases pruned_lookup windows call.now ip with kept | ⟨-, other, held, due⟩
    · rw [kept, found]
    · rw [found] at held
      cases held
      exact absurd due (not_lt.mpr running)
  refine ⟨kept, ?_⟩
  by_cases mine : call.ip = ip
  · have agrees : TableAgrees call.now ip windows (some window.window) := Or.inl (by rw [found]; rfl)
    have next := (own_call limit positive call.now call.now ip windows _ (le_refl _) agrees).2
    obtain ⟨count, more, held⟩ := FixedWindow.serve_running hour limit call.now window.window (not_lt.mpr running)
    rw [held] at next
    obtain ⟨after, entry, same⟩ := Option.map_eq_some_iff.mp next
    refine ⟨count, more, ?_⟩
    change (allowMessageFrom windows call.now call.ip limit).2.lookup ip = _
    rw [mine, entry]
    exact congrArg some (IpWindow.mk.injEq .. ▸ FixedWindow.Window.mk.injEq .. ▸ same)
  · refine ⟨window.count, le_refl _, ?_⟩
    change (allowMessageFrom windows call.now call.ip limit).2.lookup ip = _
    rw [other_lookup limit positive windows call.now ip call.ip mine, kept]

theorem rate_windows (limit : Int) (positive : 0 < limit) (calls : List RateCall)
    (clock : calls.Pairwise (fun earlier later => earlier.now ≤ later.now)) :
    (∀ ip, RateLimited limit calls ip) ∧
      ∀ moment ∈ (rateTable limit).trace ∅ calls, ∀ ip window, moment.before.lookup ip = some window →
        moment.event.now - window.start ≤ hour → WindowKept limit moment.before moment.event ip window := by
  refine ⟨?_, fun moment _ ip window found running =>
    window_kept limit positive moment.before moment.event ip window found running⟩
  intro ip
  have sorted : (ownCalls ip calls).Pairwise (· ≤ ·) := List.pairwise_map.mpr (clock.sublist List.filter_sublist)
  have agreed : decisions limit ip ∅ calls = (FixedWindow.limiter hour limit).answers none (ownCalls ip calls) ∧
      admittedFrom limit ip ∅ calls = FixedWindow.admissions hour limit none (ownCalls ip calls) := by
    cases calls with
    | nil => exact ⟨rfl, rfl⟩
    | cons first rest =>
        refine runs_agree limit positive ip (first :: rest) first.now ∅ none ?_ clock (Or.inl rfl)
        intro call member
        rcases List.mem_cons.mp member with here | there
        · rw [here]
        · exact (List.pairwise_cons.mp clock).1 call there
  have windowed : FixedWindow.Windowed hour limit (admittedFrom limit ip ∅ calls) := by
    rw [agreed.2]
    exact FixedWindow.admissions_windowed hour limit (by decide) positive (ownCalls ip calls) sorted
  exact ⟨agreed.1, windowed, FixedWindow.interval_bound hour limit _ windowed⟩

def twoCallers : List RateCall := [⟨"203.0.113.7", 0⟩, ⟨"198.51.100.4", 10⟩, ⟨"203.0.113.7", hour⟩, ⟨"203.0.113.7", hour + 1⟩]

theorem two_callers_limited : decisions 1 "203.0.113.7" ∅ twoCallers = [true, false, true] ∧
    (admittedFrom 1 "203.0.113.7" ∅ twoCallers).countP (FixedWindow.within 0 hour) ≤ 2 := by
  have limited := (rate_windows 1 (by decide) twoCallers (by decide)).1 "203.0.113.7"
  refine ⟨by rw [limited.decided]; decide +kernel, ?_⟩
  have bound := limited.interval 0 hour (by decide)
  omega

end Tempmail.Mx
