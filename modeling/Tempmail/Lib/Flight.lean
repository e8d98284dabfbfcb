import Mathlib.Data.List.AList

set_option autoImplicit false

-- Requests that were sent and not yet answered, each under a number of its own.
structure Flight (Request : Type) where
  next : Nat
  requests : AList (fun _ : Nat => Request)
  earlier : ∀ id, id ∈ requests → id < next

namespace Flight

variable {Request : Type}

def empty : Flight Request := ⟨0, ∅, fun id member => absurd member (AList.notMem_empty id)⟩

def find (flight : Flight Request) (id : Nat) : Option Request := flight.requests.lookup id

def send (flight : Flight Request) (request : Request) : Flight Request where
  next := flight.next + 1
  requests := flight.requests.insert flight.next request
  earlier := by
    intro id member
    rcases (AList.mem_insert flight.requests).mp member with new | old
    · omega
    · exact Nat.lt_succ_of_lt (flight.earlier id old)

def close (flight : Flight Request) (id : Nat) : Flight Request where
  next := flight.next
  requests := flight.requests.erase id
  earlier := fun other member => flight.earlier other (AList.mem_erase.mp member).2

def sendAll (flight : Flight Request) (requests : List Request) : Flight Request := requests.foldl send flight

@[simp] theorem next_close (flight : Flight Request) (id : Nat) : (flight.close id).next = flight.next := rfl

theorem find_late (flight : Flight Request) (id : Nat) (late : flight.next ≤ id) : flight.find id = none :=
  AList.lookup_eq_none.mpr (fun member => absurd (flight.earlier id member) (Nat.not_lt.mpr late))

theorem found_early (flight : Flight Request) (id : Nat) (request : Request) (found : flight.find id = some request) :
    id < flight.next := by
  by_contra late
  rw [find_late flight id (Nat.le_of_not_lt late)] at found
  exact Option.some_ne_none _ found.symm

theorem find_send (flight : Flight Request) (request : Request) (id : Nat) :
    (flight.send request).find id = if id = flight.next then some request else flight.find id := by
  by_cases same : id = flight.next
  · rw [if_pos same, same]
    exact AList.lookup_insert flight.requests
  · rw [if_neg same]
    exact AList.lookup_insert_ne same

theorem find_close (flight : Flight Request) (closed id : Nat) :
    (flight.close closed).find id = if id = closed then none else flight.find id := by
  by_cases same : id = closed
  · rw [if_pos same, same]
    exact AList.lookup_erase closed flight.requests
  · rw [if_neg same]
    exact AList.lookup_erase_ne same

theorem sent_keeps (flight : Flight Request) (requests : List Request) (id : Nat) (request : Request)
    (found : flight.find id = some request) : (flight.sendAll requests).find id = some request := by
  induction requests generalizing flight with
  | nil => exact found
  | cons first rest ih =>
      refine ih (flight.send first) ?_
      rw [find_send, if_neg (Nat.ne_of_lt (found_early flight id request found)), found]

theorem sent_adds (flight : Flight Request) (requests : List Request) (id : Nat) (request : Request)
    (found : (flight.sendAll requests).find id = some request) : flight.find id = some request ∨ request ∈ requests := by
  induction requests generalizing flight with
  | nil => exact Or.inl found
  | cons first rest ih =>
      rcases ih (flight.send first) found with earlier | later
      · rw [find_send] at earlier
        split at earlier
        · cases earlier
          exact Or.inr List.mem_cons_self
        · exact Or.inl earlier
      · exact Or.inr (List.mem_cons_of_mem _ later)

theorem closed_keeps (flight : Flight Request) (closed id : Nat) (other : id ≠ closed) :
    (flight.close closed).find id = flight.find id := by
  rw [find_close, if_neg other]

theorem closed_found (flight : Flight Request) (closed id : Nat) (request : Request)
    (found : (flight.close closed).find id = some request) : id ≠ closed ∧ flight.find id = some request := by
  rw [find_close] at found
  split at found
  · cases found
  · rename_i other
    exact ⟨other, found⟩

end Flight
