import Mathlib.Data.List.Induction
import Tempmail.Lib.Machine

set_option autoImplicit false

-- Two levels of one system, and systems that hold items.
namespace Machine

variable {State High Event Answer Other Item : Type}

theorem refines_run (low : Machine State Event Answer) (high : Machine High Event Other) (layout : High → State)
    (Allowed : Event → Prop)
    (step : ∀ state event, Allowed event → (low.step (layout state) event).1 = layout (high.step state event).1)
    (state : High) (events : List Event) (allowed : ∀ event ∈ events, Allowed event) :
    low.final (layout state) events = layout (high.final state events) := by
  induction events generalizing state with
  | nil => rfl
  | cons event rest ih =>
      rw [final_cons, final_cons, step state event (allowed event List.mem_cons_self)]
      exact ih _ fun other member => allowed other (List.mem_cons_of_mem _ member)

-- What a state holds, and what an event brings in and takes away.
structure Holding (machine : Machine State Event Answer) (Item : Type) where
  holds : State → Item → Prop
  brings : State → Event → Item → Prop
  takes : State → Event → Item → Prop
  step : ∀ state event item, holds (machine.step state event).1 item ↔
    brings state event item ∨ (holds state item ∧ ¬ takes state event item)

namespace Holding

variable {machine : Machine State Event Answer} (holding : Holding machine Item)

def Spared (state : State) (events : List Event) (item : Item) : Prop :=
  ∀ earlier event later, events = earlier ++ event :: later → ¬ holding.takes (machine.final state earlier) event item

theorem spared_nil (state : State) (item : Item) : holding.Spared state [] item := by
  intro earlier event later split
  exact absurd split (by simp)

theorem spared_snoc (state : State) (events : List Event) (event : Event) (item : Item) :
    holding.Spared state (events ++ [event]) item ↔
      holding.Spared state events item ∧ ¬ holding.takes (machine.final state events) event item := by
  constructor
  · intro spared
    refine ⟨fun earlier other later split => spared earlier other (later ++ [event]) (by rw [split]; simp), ?_⟩
    exact spared events event [] rfl
  · intro both earlier other later split
    rcases List.eq_nil_or_concat later with none | some
    · rw [none] at split
      obtain ⟨same, last⟩ := List.append_inj' split rfl
      rw [← same, ← List.singleton_inj.mp last]
      exact both.2
    · obtain ⟨front, last, whole⟩ := some
      rw [whole, List.concat_eq_append, ← List.cons_append, ← List.append_assoc] at split
      exact both.1 earlier other front (List.append_inj' split rfl).1

-- An item is there at the end of a run exactly when it was there at the start
-- or was brought on the way, and was never taken since.
theorem holds_final_iff (state : State) (events : List Event) (item : Item) :
    holding.holds (machine.final state events) item ↔
      (holding.holds state item ∧ holding.Spared state events item) ∨
        ∃ before event after, events = before ++ event :: after ∧
          holding.brings (machine.final state before) event item ∧
          holding.Spared (machine.final state (before ++ [event])) after item := by
  induction events using List.reverseRecOn with
  | nil =>
      constructor
      · exact fun here => Or.inl ⟨here, holding.spared_nil state item⟩
      · rintro (⟨here, -⟩ | ⟨before, event, after, split, -⟩)
        · exact here
        · exact absurd split (by simp)
  | append_singleton earlier last ih =>
      rw [final_append, final_cons, final_nil, holding.step, ih]
      constructor
      · rintro (brought | ⟨⟨here, spared⟩ | ⟨before, event, after, split, brought, spared⟩, kept⟩)
        · exact Or.inr ⟨earlier, last, [], rfl, brought, holding.spared_nil _ item⟩
        · exact Or.inl ⟨here, (holding.spared_snoc state earlier last item).mpr ⟨spared, kept⟩⟩
        · refine Or.inr ⟨before, event, after ++ [last], by rw [split]; simp, brought, ?_⟩
          refine (holding.spared_snoc _ after last item).mpr ⟨spared, ?_⟩
          rwa [← final_append, List.append_assoc, List.singleton_append, ← split]
      · rintro (⟨here, spared⟩ | ⟨before, event, after, split, brought, spared⟩)
        · obtain ⟨early, kept⟩ := (holding.spared_snoc state earlier last item).mp spared
          exact Or.inr ⟨Or.inl ⟨here, early⟩, kept⟩
        · rcases List.eq_nil_or_concat after with none | some
          · rw [none] at split
            obtain ⟨same, event_eq⟩ := List.append_inj' split rfl
            rw [← same, ← List.singleton_inj.mp event_eq] at brought
            exact Or.inl brought
          · obtain ⟨front, other, whole⟩ := some
            rw [whole, List.concat_eq_append, ← List.cons_append, ← List.append_assoc] at split
            obtain ⟨same, last_eq⟩ := List.append_inj' split rfl
            rw [whole, List.concat_eq_append] at spared
            obtain ⟨early, kept⟩ := (holding.spared_snoc _ front other item).mp spared
            refine Or.inr ⟨Or.inr ⟨before, event, front, same, brought, early⟩, ?_⟩
            rw [← final_append, List.append_assoc, List.singleton_append, ← same, ← List.singleton_inj.mp last_eq] at kept
            exact kept

end Holding

end Machine
