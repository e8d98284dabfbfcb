import Tempmail.Lib.Machine

set_option autoImplicit false

-- Clients that carry one shared value forward, each from where the one before left it.
inductive Serial {Client Shared : Type} (Commits : Client → Shared → Shared → Prop) (base : Shared) :
    List Client → Shared → Prop where
  | none : Serial Commits base [] base
  | next (done : List Client) (client : Client) (before after : Shared) (earlier : Serial Commits base done before)
      (commits : Commits client before after) : Serial Commits base (done ++ [client]) after

namespace Serial

variable {Client Shared State Event Answer : Type} {Commits : Client → Shared → Shared → Prop}

theorem last_commit (base current : Shared) (done : List Client) (last : Client)
    (serial : Serial Commits base (done ++ [last]) current) :
    ∃ before, Serial Commits base done before ∧ Commits last before current := by
  generalize order_eq : done ++ [last] = order at serial
  cases serial with
  | none => simp at order_eq
  | next earlier client before after serial commits =>
      obtain ⟨same, here⟩ := List.append_inj' order_eq rfl
      cases here
      subst same
      exact ⟨before, serial, commits⟩

theorem run (machine : Machine State Event Answer) (turns : Client → List Event)
    (Follows : List Client → Shared → State → Prop)
    (alone : ∀ done client before after state, client ∉ done → Commits client before after → Follows done before state →
      Follows (done ++ [client]) after (machine.final state (turns client)))
    (base current : Shared) (order : List Client) (serial : Serial Commits base order current) (distinct : order.Nodup)
    (state : State) (initial : Follows [] base state) : Follows order current (machine.final state (order.flatMap turns)) := by
  induction serial with
  | none => exact initial
  | next done client before after earlier commits ih =>
      have apart : client ∉ done := fun member => (List.nodup_append.mp distinct).2.2 client member client (by simp) rfl
      have before_holds := ih (List.nodup_append.mp distinct).1
      rw [List.flatMap_append, Machine.final_append, List.flatMap_singleton]
      exact alone done client before after _ apart commits before_holds

end Serial
