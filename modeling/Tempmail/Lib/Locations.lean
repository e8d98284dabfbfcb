import Mathlib.Data.List.Infix

set_option autoImplicit false

-- Which block of a server's configuration a path selects: the one for exactly
-- this path, or else the longest that begins it.
namespace Locations

inductive Modifier where
  | exact
  | priority
  | none
deriving DecidableEq, Repr

structure Location (Body : Type) where
  modifier : Modifier
  path : List Char
  body : Body
deriving DecidableEq

variable {Body : Type}

def Location.isExact (location : Location Body) : Bool := location.modifier == .exact

def Location.begins (location : Location Body) (text : List Char) : Bool :=
  !location.isExact && location.path.isPrefixOf text

def longer (chosen : Option (Location Body)) (location : Location Body) : Option (Location Body) :=
  match chosen with
  | some held => if held.path.length < location.path.length then some location else some held
  | none => some location

def longest (locations : List (Location Body)) (text : List Char) : Option (Location Body) :=
  (locations.filter (fun location => location.begins text)).foldl longer none

def select (locations : List (Location Body)) (text : List Char) : Option (Location Body) :=
  (locations.find? (fun location => location.isExact && location.path == text)).or (longest locations text)

-- Where the path lacks only the slash of a location that appends it, and no
-- location has the path itself.
def slashed (appends : Location Body → Bool) (locations : List (Location Body)) (text : List Char) : Option (Location Body) :=
  if locations.any (fun location => location.path == text) then none
  else locations.find? (fun location => appends location && location.path == text ++ ['/'])

theorem slashed_spec (appends : Location Body → Bool) (locations : List (Location Body)) (text : List Char)
    (chosen : Location Body)
    (found : slashed appends locations text = some chosen) :
    chosen ∈ locations ∧ appends chosen = true ∧ chosen.path = text ++ ['/'] ∧ ∀ other ∈ locations, other.path ≠ text := by
  unfold slashed at found
  split at found
  · cases found
  · rename_i apart
    have test := List.find?_some found
    simp only [Bool.and_eq_true, beq_iff_eq] at test
    refine ⟨List.mem_of_find?_eq_some found, test.1, test.2, fun other member same => apart ?_⟩
    exact List.any_eq_true.mpr ⟨other, member, beq_iff_eq.mpr same⟩

theorem longer_run (candidates : List (Location Body)) (held : Location Body) :
    ∃ chosen, candidates.foldl longer (some held) = some chosen ∧ (chosen = held ∨ chosen ∈ candidates) ∧
      held.path.length ≤ chosen.path.length ∧ ∀ other ∈ candidates, other.path.length ≤ chosen.path.length := by
  induction candidates generalizing held with
  | nil => exact ⟨held, rfl, Or.inl rfl, Nat.le_refl _, fun other member => absurd member List.not_mem_nil⟩
  | cons first rest ih =>
      rw [List.foldl_cons]
      by_cases grows : held.path.length < first.path.length
      · rw [longer, if_pos grows]
        obtain ⟨chosen, found, source, above, all⟩ := ih first
        refine ⟨chosen, found, Or.inr ?_, by omega, ?_⟩
        · rcases source with same | later
          · rw [same]
            exact List.mem_cons_self
          · exact List.mem_cons_of_mem _ later
        · intro other member
          rcases List.mem_cons.mp member with same | later
          · rw [same]
            exact above
          · exact all other later
      · rw [longer, if_neg grows]
        obtain ⟨chosen, found, source, above, all⟩ := ih held
        refine ⟨chosen, found, source.imp_right (List.mem_cons_of_mem _), above, ?_⟩
        intro other member
        rcases List.mem_cons.mp member with same | later
        · rw [same]
          omega
        · exact all other later

theorem longest_spec (locations : List (Location Body)) (text : List Char) (chosen : Location Body)
    (found : longest locations text = some chosen) :
    chosen ∈ locations ∧ chosen.begins text = true ∧
      ∀ other ∈ locations, other.begins text = true → other.path.length ≤ chosen.path.length := by
  unfold longest at found
  cases filtered : locations.filter (fun location => location.begins text) with
  | nil =>
      rw [filtered] at found
      cases found
  | cons first rest =>
      have kept : ∀ other, other ∈ first :: rest ↔ other ∈ locations ∧ other.begins text = true := by
        intro other
        rw [← filtered, List.mem_filter]
      rw [filtered, List.foldl_cons, longer] at found
      obtain ⟨best, same, source, above, all⟩ := longer_run rest first
      rw [same, Option.some.injEq] at found
      rw [← found]
      have member : best ∈ first :: rest := by
        rcases source with here | later
        · rw [here]
          exact List.mem_cons_self
        · exact List.mem_cons_of_mem _ later
      refine ⟨((kept best).mp member).1, ((kept best).mp member).2, ?_⟩
      intro other inside begins
      rcases List.mem_cons.mp ((kept other).mpr ⟨inside, begins⟩) with here | later
      · rw [here]
        exact above
      · exact all other later

theorem select_spec (locations : List (Location Body)) (text : List Char) (chosen : Location Body)
    (found : select locations text = some chosen) :
    chosen ∈ locations ∧ ((chosen.isExact = true ∧ chosen.path = text) ∨ (chosen.begins text = true ∧
      ∀ other ∈ locations, other.begins text = true → other.path.length ≤ chosen.path.length)) := by
  rcases Option.or_eq_some_iff.mp found with exactly | ⟨-, fallback⟩
  · have test := List.find?_some exactly
    simp only [Bool.and_eq_true, beq_iff_eq] at test
    exact ⟨List.mem_of_find?_eq_some exactly, Or.inl test⟩
  · obtain ⟨member, begins, all⟩ := longest_spec locations text chosen fallback
    exact ⟨member, Or.inr ⟨begins, all⟩⟩

theorem select_under (locations : List (Location Body)) (text : List Char) (location chosen : Location Body)
    (member : location ∈ locations) (begins : location.begins text = true) (found : select locations text = some chosen) :
    location.path <+: chosen.path := by
  obtain ⟨inside, how⟩ := select_spec locations text chosen found
  have start : location.path <+: text := by
    simp only [Location.begins, Bool.and_eq_true] at begins
    exact List.isPrefixOf_iff_prefix.mp begins.2
  rcases how with ⟨-, same⟩ | ⟨starts, all⟩
  · rw [same]
    exact start
  · simp only [Location.begins, Bool.and_eq_true] at starts
    exact List.prefix_of_prefix_length_le start (List.isPrefixOf_iff_prefix.mp starts.2) (all location member begins)

-- A level with directives of its own drops those of the level above.
def inherited {Directive : Type} (own above : List Directive) : List Directive := if own.isEmpty then above else own

theorem inherited_member {Directive : Type} (own above : List Directive) (directive : Directive)
    (member : directive ∈ inherited own above) : directive ∈ own ∨ directive ∈ above := by
  rw [inherited] at member
  split at member
  · exact Or.inr member
  · exact Or.inl member

theorem inherited_keeps {Directive : Type} (own above : List Directive) (directive : Directive) (outside : directive ∈ above)
    (repeated : own ≠ [] → directive ∈ own) : directive ∈ inherited own above := by
  rw [inherited]
  split
  · exact outside
  · rename_i filled
    exact repeated fun empty => filled (List.isEmpty_iff.mpr empty)

end Locations
