import Mathlib.Data.List.Basic

set_option autoImplicit false

-- A deterministic system that consumes events one at a time and answers each.
structure Machine (State Event Answer : Type) where
  step : State → Event → State × Answer

namespace Machine

variable {State Event Answer : Type}

structure Moment (State Event Answer : Type) where
  before : State
  event : Event
  answer : Answer

def final (machine : Machine State Event Answer) (state : State) (events : List Event) : State :=
  events.foldl (fun current event => (machine.step current event).1) state

def trace (machine : Machine State Event Answer) : State → List Event → List (Moment State Event Answer)
  | _, [] => []
  | state, event :: rest =>
      ⟨state, event, (machine.step state event).2⟩ :: trace machine (machine.step state event).1 rest

def answers (machine : Machine State Event Answer) (state : State) (events : List Event) : List Answer :=
  (machine.trace state events).map Moment.answer

@[simp] theorem final_nil (machine : Machine State Event Answer) (state : State) : machine.final state [] = state := rfl

@[simp] theorem final_cons (machine : Machine State Event Answer) (state : State) (event : Event) (rest : List Event) :
    machine.final state (event :: rest) = machine.final (machine.step state event).1 rest := rfl

theorem trace_one (machine : Machine State Event Answer) (state : State) (event : Event) :
    machine.trace state [event] = [⟨state, event, (machine.step state event).2⟩] := rfl

theorem answers_one (machine : Machine State Event Answer) (state : State) (event : Event) :
    machine.answers state [event] = [(machine.step state event).2] := rfl

theorem final_append (machine : Machine State Event Answer) (state : State) (first second : List Event) :
    machine.final state (first ++ second) = machine.final (machine.final state first) second := by
  simp [final, List.foldl_append]

theorem trace_append (machine : Machine State Event Answer) (state : State) (first second : List Event) :
    machine.trace state (first ++ second) =
      machine.trace state first ++ machine.trace (machine.final state first) second := by
  induction first generalizing state with
  | nil => rfl
  | cons event rest ih => simp [trace, ih]

theorem trace_events (machine : Machine State Event Answer) (state : State) (events : List Event) :
    (machine.trace state events).map Moment.event = events := by
  induction events generalizing state with
  | nil => rfl
  | cons event rest ih => simp [trace, ih]

theorem trace_answer (machine : Machine State Event Answer) (state : State) (events : List Event)
    (moment : Moment State Event Answer) (member : moment ∈ machine.trace state events) :
    moment.answer = (machine.step moment.before moment.event).2 := by
  induction events generalizing state with
  | nil => simp [trace] at member
  | cons event rest ih =>
      rcases List.mem_cons.mp member with here | later
      · subst here
        rfl
      · exact ih (machine.step state event).1 later

theorem trace_sublist {Value : Type} (machine : Machine State Event Answer) (read : Event → Value)
    (chosen : Moment State Event Answer → Bool) (state : State) (events : List Event) :
    (((machine.trace state events).filter chosen).map (fun moment => read moment.event)).Sublist (events.map read) := by
  have all : events.map read = (machine.trace state events).map (fun moment => read moment.event) := by
    rw [← Function.comp_def read Moment.event, ← List.map_map, trace_events]
  rw [all]
  exact List.filter_sublist.map _

-- The run lemma: what every admissible step preserves holds before every step
-- of a run and in the state the run ends in.
theorem invariant_run (machine : Machine State Event Answer) (Inv : State → Prop) (Allowed : Event → Prop)
    (preserved : ∀ state event, Allowed event → Inv state → Inv (machine.step state event).1)
    (state : State) (events : List Event) (allowed : ∀ event ∈ events, Allowed event) (initial : Inv state) :
    Inv (machine.final state events) ∧ ∀ moment ∈ machine.trace state events, Inv moment.before := by
  induction events generalizing state with
  | nil => exact ⟨initial, by simp [trace]⟩
  | cons event rest ih =>
      have next := preserved state event (allowed event (by simp)) initial
      obtain ⟨atEnd, during⟩ := ih (machine.step state event).1 (fun e member => allowed e (by simp [member])) next
      refine ⟨atEnd, ?_⟩
      intro moment member
      rcases List.mem_cons.mp member with here | later
      · subst here
        exact initial
      · exact during moment later

theorem invariant_along (machine : Machine State Event Answer) (Inv : State → Prop) (Clear : State → Event → Prop)
    (preserved : ∀ state event, Clear state event → Inv state → Inv (machine.step state event).1)
    (state : State) (events : List Event) (clear : ∀ moment ∈ machine.trace state events, Clear moment.before moment.event)
    (initial : Inv state) : Inv (machine.final state events) := by
  induction events generalizing state with
  | nil => exact initial
  | cons event rest ih =>
      have now := clear _ List.mem_cons_self
      exact ih _ (fun moment member => clear moment (List.mem_cons_of_mem _ member)) (preserved state event now initial)

theorem invariant_history (machine : Machine State Event Answer) (Inv : List (Moment State Event Answer) → State → Prop)
    (Clear : State → Event → Prop)
    (preserved : ∀ past state event, Clear state event → Inv past state →
      Inv (past ++ [⟨state, event, (machine.step state event).2⟩]) (machine.step state event).1)
    (past : List (Moment State Event Answer)) (state : State) (events : List Event)
    (clear : ∀ moment ∈ machine.trace state events, Clear moment.before moment.event) (initial : Inv past state) :
    Inv (past ++ machine.trace state events) (machine.final state events) := by
  induction events generalizing past state with
  | nil => simpa [trace] using initial
  | cons event rest ih =>
      have next := preserved past state event (clear _ List.mem_cons_self) initial
      have later := ih _ _ (fun moment member => clear moment (List.mem_cons_of_mem _ member)) next
      rwa [List.append_assoc] at later

theorem established_run (machine : Machine State Event Answer) (Inv : State → Prop)
    (Establishes : Moment State Event Answer → Prop)
    (preserved : ∀ state event, Inv state → Inv (machine.step state event).1)
    (established : ∀ state event, Establishes ⟨state, event, (machine.step state event).2⟩ → Inv (machine.step state event).1)
    (state : State) (events : List Event) (moment : Moment State Event Answer)
    (member : moment ∈ machine.trace state events) (here : Establishes moment) : Inv (machine.final state events) := by
  induction events generalizing state with
  | nil => simp [trace] at member
  | cons event rest ih =>
      rcases List.mem_cons.mp member with now | later
      · subst now
        exact (invariant_run machine Inv (fun _ => True) (fun s e _ => preserved s e) _ rest (fun _ _ => trivial)
          (established state event here)).1
      · exact ih _ later

theorem trace_prefix (machine : Machine State Event Answer) (state : State) (first second : List Event)
    (moment : Moment State Event Answer) (member : moment ∈ machine.trace state first) :
    moment ∈ machine.trace state (first ++ second) := by
  rw [trace_append]
  exact List.mem_append_left _ member

theorem trace_here (machine : Machine State Event Answer) (state : State) (before : List Event) (event : Event)
    (after : List Event) :
    ⟨machine.final state before, event, (machine.step (machine.final state before) event).2⟩ ∈
      machine.trace state (before ++ event :: after) := by
  rw [trace_append]
  exact List.mem_append_right _ List.mem_cons_self

theorem trace_split (machine : Machine State Event Answer) (state : State) (events : List Event)
    (earlier later : List (Moment State Event Answer)) (moment : Moment State Event Answer)
    (split : machine.trace state events = earlier ++ moment :: later) :
    ∃ before event after, events = before ++ event :: after ∧ earlier = machine.trace state before ∧
      moment = ⟨machine.final state before, event, (machine.step (machine.final state before) event).2⟩ := by
  induction earlier generalizing state events with
  | nil =>
      cases events with
      | nil => cases split
      | cons event after =>
          rw [trace, List.nil_append, List.cons.injEq] at split
          exact ⟨[], event, after, rfl, rfl, split.1.symm⟩
  | cons first earlier ih =>
      cases events with
      | nil => cases split
      | cons event events =>
          rw [trace, List.cons_append, List.cons.injEq] at split
          obtain ⟨before, next, after, events_eq, earlier_eq, moment_eq⟩ := ih (machine.step state event).1 events split.2
          exact ⟨event :: before, next, after, by rw [events_eq, List.cons_append], by rw [trace, split.1, earlier_eq], moment_eq⟩

theorem trace_history_iff (machine : Machine State Event Answer) (state : State) (events : List Event)
    (Tells : List (Moment State Event Answer) → Moment State Event Answer → Prop) :
    (∀ earlier moment later, machine.trace state events = earlier ++ moment :: later → Tells earlier moment) ↔
      ∀ before event after, events = before ++ event :: after →
        Tells (machine.trace state before)
          ⟨machine.final state before, event, (machine.step (machine.final state before) event).2⟩ := by
  constructor
  · intro tells before event after split
    apply tells (machine.trace state before) _ (machine.trace (machine.step (machine.final state before) event).1 after)
    rw [split, trace_append, trace]
  · intro tells earlier moment later split
    obtain ⟨before, event, after, events_eq, earlier_eq, moment_eq⟩ := trace_split machine state events earlier later moment split
    rw [earlier_eq, moment_eq]
    exact tells before event after events_eq

theorem trace_forall_iff (machine : Machine State Event Answer) (Inv : State → Prop) (Allowed : Event → Prop)
    (Good Clear : Moment State Event Answer → Prop)
    (preserved : ∀ state event, Allowed event → Inv state → Inv (machine.step state event).1)
    (agree : ∀ state event, Allowed event → Inv state →
      (Good ⟨state, event, (machine.step state event).2⟩ ↔ Clear ⟨state, event, (machine.step state event).2⟩))
    (state : State) (events : List Event) (allowed : ∀ event ∈ events, Allowed event) (initial : Inv state) :
    (∀ moment ∈ machine.trace state events, Good moment) ↔ ∀ moment ∈ machine.trace state events, Clear moment := by
  have during := (invariant_run machine Inv Allowed preserved state events allowed initial).2
  refine forall₂_congr fun moment member => ?_
  have answered := trace_answer machine state events moment member
  have seen : moment.event ∈ events := by
    rw [← trace_events machine state events]
    exact List.mem_map_of_mem member
  have same := agree moment.before moment.event (allowed _ seen) (during moment member)
  rwa [← answered] at same

-- A property holds in every state a run reaches exactly when every step of the
-- run is clear, where a clear step is one that keeps it.
theorem held_iff_clear (machine : Machine State Event Answer) (Inv Good : State → Prop) (Clear : State → Event → Prop)
    (preserved : ∀ state event, Inv state → Inv (machine.step state event).1)
    (agree : ∀ state event, Inv state → Good state → (Good (machine.step state event).1 ↔ Clear state event))
    (state : State) (events : List Event) (initial : Inv state) (good : Good state) :
    (∀ earlier later, events = earlier ++ later → Good (machine.final state earlier)) ↔
      ∀ moment ∈ machine.trace state events, Clear moment.before moment.event := by
  induction events generalizing state with
  | nil =>
      refine ⟨fun _ moment member => absurd member (by simp [trace]), fun _ earlier later split => ?_⟩
      rw [(List.append_eq_nil_iff.mp split.symm).1]
      exact good
  | cons event rest ih =>
      have here := agree state event initial good
      constructor
      · intro held moment member
        have next : Good (machine.step state event).1 := held [event] rest rfl
        rcases List.mem_cons.mp member with now | later
        · subst now
          exact here.mp next
        · refine (ih _ (preserved state event initial) next).mp (fun earlier later split => ?_) moment later
          exact held (event :: earlier) later (by rw [split]; rfl)
      · intro clear earlier later split
        have next := here.mpr (clear _ List.mem_cons_self)
        cases earlier with
        | nil => exact good
        | cons first earlier =>
            rw [List.cons_append, List.cons.injEq] at split
            rw [← split.1]
            exact (ih _ (preserved state event initial) next).mpr
              (fun moment member => clear moment (List.mem_cons_of_mem _ member))
              earlier later split.2

end Machine
