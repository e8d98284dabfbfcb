import Tempmail.Api.RateLimit
import Tempmail.Lib.Machine

set_option autoImplicit false

namespace Tempmail.Api

structure Call where
  now : Instant
  key : String
  limit : Int
  windowSeconds : Int

-- _LOCK lets one call through at a time.
def limiting : Machine Limiter Call Bool where
  step limiter call :=
    let outcome := isAllowed limiter call.now call.key call.limit call.windowSeconds
    (outcome.2, outcome.1)

abbrev Decision := Machine.Moment Limiter Call Bool

def unused (lastSweep : Instant) : Limiter := ⟨∅, lastSweep⟩

def granted (key : String) (decision : Decision) : Bool := decision.event.key == key && decision.answer

def Call.within (call past : Call) : Bool := call.now - call.windowSeconds < past.now && past.now ≤ call.now

-- The same window by the limiter's own subtraction.
def Call.recent (call past : Call) : Bool := elapsed call.now past.now < call.windowSeconds

def spending (call : Call) (earlier : List Decision) : Nat :=
  earlier.countP (fun past => granted call.key past && call.recent past.event)

structure Steady (widths : String → Int) (calls : List Call) : Prop where
  clock : (calls.map Call.now).Pairwise (· ≤ ·)
  constant : ∀ call ∈ calls, call.windowSeconds = widths call.key
  short : ∀ key, widths key ≤ 3600

theorem steady_front (widths : String → Int) (first second : List Call) (steady : Steady widths (first ++ second)) :
    Steady widths first where
  clock := by
    have ordered := steady.clock
    rw [List.map_append, List.pairwise_append] at ordered
    exact ordered.1
  constant call member := steady.constant call (List.mem_append_left _ member)
  short := steady.short

theorem steady_before (widths : String → Int) (earlier : List Call) (call : Call) (steady : Steady widths (earlier ++ [call]))
    (other : Call) (member : other ∈ earlier) : other.now ≤ call.now := by
  have ordered := steady.clock
  rw [List.map_append, List.pairwise_append] at ordered
  exact ordered.2.2 other.now (List.mem_map_of_mem member) call.now (by simp)

def grants (key : String) (decisions : List Decision) : List Instant :=
  (decisions.filter (granted key)).map (fun decision => decision.event.now)

theorem grants_snoc (key : String) (lastSweep : Instant) (earlier : List Call) (call : Call) :
    grants key (limiting.trace (unused lastSweep) (earlier ++ [call])) =
      if call.key = key ∧ (limiting.step (limiting.final (unused lastSweep) earlier) call).2 = true then
        grants key (limiting.trace (unused lastSweep) earlier) ++ [call.now]
      else grants key (limiting.trace (unused lastSweep) earlier) := by
  rw [Machine.trace_append, Machine.trace_one, grants, List.filter_append, List.map_append]
  by_cases counted : call.key = key ∧ (limiting.step (limiting.final (unused lastSweep) earlier) call).2 = true
  · rw [if_pos counted, List.filter_cons_of_pos (by simpa [granted] using counted)]
    rfl
  · rw [if_neg counted, List.filter_cons_of_neg (by simpa [granted] using counted)]
    exact List.append_nil _

theorem grants_remembered (widths : String → Int) (key : String) (lastSweep : Instant) (calls : List Call)
    (steady : Steady widths calls) (now : Instant) (past : ∀ call ∈ calls, call.now ≤ now) :
    SlidingWindow.Remembers monotonic (widths key) now (grants key (limiting.trace (unused lastSweep) calls))
      ((limiting.final (unused lastSweep) calls).queue key) := by
  induction calls using List.reverseRecOn generalizing now with
  | nil => exact ⟨[], rfl, by simp⟩
  | append_singleton earlier call ih =>
      have before := steady_before widths earlier call steady
      have kept := steady_front widths earlier [call] steady
      have sublist : (grants key (limiting.trace (unused lastSweep) earlier)).Sublist (earlier.map Call.now) :=
        Machine.trace_sublist limiting Call.now _ (unused lastSweep) earlier
      have logPast : ∀ instant ∈ grants key (limiting.trace (unused lastSweep) earlier), instant ≤ call.now := by
        intro instant member
        obtain ⟨other, known, same⟩ := List.mem_map.mp (sublist.subset member)
        exact same ▸ before other known
      have width : call.key = key → call.windowSeconds = widths key :=
        fun same => same ▸ steady.constant call (by simp)
      have moved := is_allowed_remembers (widths key) call.windowSeconds (steady.short key)
        (limiting.final (unused lastSweep) earlier) call.now call.key key width call.limit _
        (kept.clock.sublist sublist) logPast (ih kept call.now before)
      rw [grants_snoc, Machine.final_append]
      exact SlidingWindow.remembers_later monotonic _ call.now now _ _ (past call (by simp)) moved

theorem spending_live (lastSweep : Instant) (calls : List Call) (call : Call) :
    (SlidingWindow.live monotonic call.windowSeconds call.now
        (grants call.key (limiting.trace (unused lastSweep) calls))).length =
      spending call (limiting.trace (unused lastSweep) calls) := by
  rw [grants, SlidingWindow.live_map_filter, spending]
  rfl

theorem call_allowed_iff (widths : String → Int) (lastSweep : Instant) (earlier : List Call) (call : Call)
    (steady : Steady widths (earlier ++ [call])) :
    (limiting.step (limiting.final (unused lastSweep) earlier) call).2 = true ↔
      (spending call (limiting.trace (unused lastSweep) earlier) : Int) < call.limit := by
  have before := steady_before widths earlier call steady
  have kept := steady_front widths earlier [call] steady
  have width := steady.constant call (by simp)
  have known := grants_remembered widths call.key lastSweep earlier kept call.now before
  have sublist : (grants call.key (limiting.trace (unused lastSweep) earlier)).Sublist (earlier.map Call.now) :=
    Machine.trace_sublist limiting Call.now _ (unused lastSweep) earlier
  rw [← spending_live lastSweep earlier call, ← SlidingWindow.remembers_prune monotonic _ call.now _ _
    (kept.clock.sublist sublist) (width ▸ known)]
  exact is_allowed_iff (limiting.final (unused lastSweep) earlier) call.now call.key call.limit call.windowSeconds

def decisionsFor (key : String) (decisions : List Decision) : List (Call × Bool) :=
  (decisions.filter (fun decision => decision.event.key == key)).map (fun decision => (decision.event, decision.answer))

theorem spending_decisions (call : Call) (earlier : List Decision) :
    spending call earlier = (decisionsFor call.key earlier).countP (fun seen => seen.2 && call.recent seen.1) := by
  rw [decisionsFor, List.countP_map, List.countP_filter, spending]
  refine List.countP_congr fun decision _ => ?_
  simp only [granted, Function.comp_apply, Bool.and_eq_true]
  exact ⟨fun both => ⟨⟨both.1.2, both.2⟩, both.1.1⟩, fun both => ⟨⟨both.2, both.1.1⟩, both.1.2⟩⟩

theorem steady_filter (widths : String → Int) (key : String) (calls : List Call) (steady : Steady widths calls) :
    Steady widths (calls.filter (fun call => call.key == key)) where
  clock := steady.clock.sublist (List.filter_sublist.map _)
  constant call member := steady.constant call (List.mem_filter.mp member).1
  short := steady.short

theorem decisions_alone (widths : String → Int) (key : String) (lastSweep otherSweep : Instant) (calls : List Call)
    (steady : Steady widths calls) :
    decisionsFor key (limiting.trace (unused lastSweep) calls) =
      decisionsFor key (limiting.trace (unused otherSweep) (calls.filter (fun call => call.key == key))) := by
  induction calls using List.reverseRecOn with
  | nil => rfl
  | append_singleton earlier call ih =>
      have same := ih (steady_front widths earlier [call] steady)
      rw [List.filter_append, Machine.trace_append, Machine.trace_one, decisionsFor, List.filter_append, List.map_append]
      by_cases here : call.key = key
      · have alone : Steady widths (earlier.filter (fun call => call.key == key) ++ [call]) := by
          have whole := steady_filter widths key (earlier ++ [call]) steady
          rwa [List.filter_append, List.filter_cons_of_pos (by simpa using here)] at whole
        have answers : (limiting.step (limiting.final (unused lastSweep) earlier) call).2 =
            (limiting.step (limiting.final (unused otherSweep) (earlier.filter (fun call => call.key == key))) call).2 := by
          rw [Bool.eq_iff_iff, call_allowed_iff widths lastSweep earlier call steady,
            call_allowed_iff widths otherSweep _ call alone, spending_decisions, spending_decisions, here, same]
        rw [List.filter_cons_of_pos (by simpa using here), List.filter_cons_of_pos (by simpa using here), List.filter_nil,
          List.filter_nil, Machine.trace_append, Machine.trace_one, decisionsFor, List.filter_append, List.map_append,
          List.filter_cons_of_pos (by simpa using here), List.map_cons, List.map_cons, answers]
        exact congrArg (· ++ _) same
      · rw [List.filter_cons_of_neg (by simpa using here), List.filter_cons_of_neg (by simpa using here), List.filter_nil,
          List.map_nil, List.append_nil, List.filter_nil, List.append_nil]
        exact same

-- The limiter's window is the one of the timestamps but for its edge: what it leaves
-- out is a timestamp whose age rounds up to the whole window.
structure EdgeOnly (call : Call) (earlier : List Decision) : Prop where
  sound : ∀ past ∈ earlier, call.recent past.event = true → call.within past.event = true
  edge : ∀ past ∈ earlier, call.within past.event = true → call.recent past.event = false →
    elapsed call.now past.event.now = call.windowSeconds

theorem edge_only (call : Call) (earlier : List Decision) (short : call.windowSeconds ≤ 3600)
    (before : ∀ past ∈ earlier, past.event.now ≤ call.now) : EdgeOnly call earlier := by
  constructor
  · intro past member recent
    have young := (elapsed_window call.now past.event.now (before past member) call.windowSeconds short).1
      (of_decide_eq_true recent)
    simpa [Call.within, before past member] using sub_lt_comm.mp young
  · intro past member within old
    obtain ⟨inside, -⟩ := Bool.and_eq_true_iff.mp within
    have close := (elapsed_window call.now past.event.now (before past member) call.windowSeconds short).2
      (sub_lt_comm.mp (of_decide_eq_true inside))
    exact le_antisymm close (not_lt.mp (of_decide_eq_false old))

-- Every run of the limiter, from an empty table.
theorem limiter_windows (widths : String → Int) (lastSweep : Instant) (calls : List Call) (steady : Steady widths calls) :
    (∀ earlier decision later, limiting.trace (unused lastSweep) calls = earlier ++ decision :: later →
      (decision.answer = true ↔ (spending decision.event earlier : Int) < decision.event.limit) ∧
        EdgeOnly decision.event earlier) ∧
    ∀ key otherSweep, decisionsFor key (limiting.trace (unused lastSweep) calls) =
      decisionsFor key (limiting.trace (unused otherSweep) (calls.filter (fun call => call.key == key))) := by
  refine ⟨?_, fun key otherSweep => decisions_alone widths key lastSweep otherSweep calls steady⟩
  rw [Machine.trace_history_iff limiting (unused lastSweep) calls
    (fun earlier decision => (decision.answer = true ↔ (spending decision.event earlier : Int) < decision.event.limit) ∧
      EdgeOnly decision.event earlier)]
  intro before call after split
  have front : Steady widths (before ++ [call]) := steady_front widths _ after (by rw [List.append_assoc]; exact split ▸ steady)
  refine ⟨call_allowed_iff widths lastSweep before call front, edge_only call _ ?_ ?_⟩
  · rw [front.constant call (by simp)]
    exact front.short call.key
  · intro past member
    refine steady_before widths before call front past.event ?_
    rw [← Machine.trace_events limiting (unused lastSweep) before]
    exact List.mem_map_of_mem member

def sampleCalls : List Call := [⟨0, "a", 1, 60⟩, ⟨1, "b", 2, 3600⟩, ⟨59, "a", 1, 60⟩, ⟨60, "a", 1, 60⟩]

def sampleWidths (key : String) : Int := if key = "b" then 3600 else 60

theorem sample_steady : Steady sampleWidths sampleCalls where
  clock := by decide +kernel
  constant := by decide +kernel
  short key := by
    unfold sampleWidths
    split <;> decide

theorem sample_decided :
    Steady sampleWidths sampleCalls ∧ decisionsFor "a" (limiting.trace (unused 0) sampleCalls) =
      decisionsFor "a" (limiting.trace (unused 7) (sampleCalls.filter (fun call => call.key == "a"))) :=
  ⟨sample_steady, (limiter_windows sampleWidths 0 sampleCalls sample_steady).2 "a" 7⟩

-- The doubles next to 0.3 and 60.3: they are less than a minute apart, but their
-- difference rounds to it.
def edgeCalls : List Call := [⟨5404319552844595 / 18014398509481984, "a", 1, 60⟩, ⟨4243235273913139 / 70368744177664, "a", 1, 60⟩]

theorem edge_calls_granted :
    Steady (fun _ => 60) edgeCalls ∧ (limiting.trace (unused 0) edgeCalls).map (fun decision => decision.answer) = [true, true] ∧
      ¬ ∀ earlier decision later, limiting.trace (unused 0) edgeCalls = earlier ++ decision :: later →
        (decision.answer = true ↔
          (earlier.countP (fun past => granted decision.event.key past && decision.event.within past.event) : Int) <
            decision.event.limit) := by
  refine ⟨⟨by decide +kernel, by decide +kernel, fun _ => by decide⟩, by decide +kernel, fun claimed => ?_⟩
  have second := claimed ((limiting.trace (unused 0) edgeCalls).take 1) _ [] rfl
  exact absurd second (by decide +kernel)

end Tempmail.Api
