import Tempmail.Api.Creation

set_option autoImplicit false

namespace Tempmail.Api

open Store (Db AddressRow)

def Atomic (before : Db) (outcome : Outcome) : Prop :=
  ∀ refusal, outcome.answer = .error refusal → outcome.writes = [] ∧ outcome.db.addresses = before.addresses

-- The table as the insert meets it.
def Creation.released (creation : Creation) (db : Db) : Db :=
  match creation.existing with
  | none => db
  | some existing => db.deleteAddress existing.id

-- The row can be computed and the constraints of the table accept it.
def Creation.Insertable (creation : Creation) (db : Db) (draws : Draws) : Prop :=
  ∃ row, creation.row draws = some row ∧ db.accepts row = true

-- The first commit of the request does not take effect.
def Creation.CommitsNothing (creation : Creation) (db : Db) (draws : Draws) (faults : Faults) : Prop :=
  (∃ existing, creation.existing = some existing ∧ faults.release = .failed) ∨
    (creation.existing = none ∧ ¬ (creation.Insertable db draws ∧ faults.insert ≠ .failed))

-- Nothing fails from the first commit to the validated response.
def Creation.CompletesAll (creation : Creation) (db : Db) (draws : Draws) (faults : Faults) (accepts : String → Bool) :
    Prop :=
  (creation.existing = none ∨ faults.release = .done) ∧ creation.Insertable (creation.released db) draws ∧
    faults.insert = .done ∧ faults.refreshFails = false ∧ accepts creation.email = true

section Atomicity

variable (db : Db) (draws : Draws) (faults : Faults) (accepts : String → Bool)

theorem creation_row_email (creation : Creation) (row : AddressRow) (built : creation.row draws = some row) :
    row.email = creation.email := by
  unfold Creation.row at built
  split at built
  · cases built
  · split at built
    · cases built
      rfl
    · cases built

theorem insert_refused (creation : Creation) (writes : List AddressWrite)
    (refused : ¬ (creation.Insertable db draws ∧ faults.insert ≠ .failed)) :
    creation.insert db draws faults writes = ⟨.error internalServerError, db, writes⟩ := by
  unfold Creation.insert
  cases built : creation.row draws with
  | none => rfl
  | some row =>
      dsimp only
      by_cases accepted : db.accepts row = true
      · have failed : faults.insert = .failed := by
          by_contra other
          exact refused ⟨⟨row, built, accepted⟩, other⟩
        simp [accepted, failed]
      · simp [accepted]

theorem insert_committed (creation : Creation) (writes : List AddressWrite) (insertable : creation.Insertable db draws)
    (takes : faults.insert ≠ .failed) :
    ∃ row, row.email = creation.email ∧ (creation.insert db draws faults writes).writes = writes ++ [.inserted row] ∧
      (creation.insert db draws faults writes).db = db.insertAddress row ∧
      (creation.insert db draws faults writes).answer =
        if faults.insert = .done ∧ faults.refreshFails = false then .ok row else .error internalServerError := by
  obtain ⟨row, built, accepted⟩ := insertable
  refine ⟨row, creation_row_email draws creation row built, ?_⟩
  unfold Creation.insert
  simp only [built, accepted, Bool.not_true, Bool.false_eq_true, if_false]
  cases outcome : faults.insert with
  | failed => exact absurd outcome takes
  | unconfirmed => simp
  | done => cases faults.refreshFails <;> simp

theorem respond_ok_iff (outcome : Outcome) (row : AddressRow) :
    (respond accepts outcome).answer = .ok row ↔ outcome.answer = .ok row ∧ accepts row.email = true := by
  unfold respond
  cases answer : outcome.answer with
  | error refusal => simp [answer]
  | ok found =>
      by_cases valid : accepts found.email = true
      · simp only [valid, if_true, answer, Except.ok.injEq]
        exact ⟨fun same => ⟨same, same ▸ valid⟩, And.left⟩
      · simp only [valid, Bool.false_eq_true, if_false, reduceCtorEq, Except.ok.injEq, false_iff, not_and]
        exact fun same => same ▸ valid

theorem respond_writes (outcome : Outcome) : (respond accepts outcome).writes = outcome.writes := by
  unfold respond
  split
  · rfl
  · split <;> rfl

theorem respond_db (outcome : Outcome) : (respond accepts outcome).db = outcome.db := by
  unfold respond
  split
  · rfl
  · split <;> rfl

theorem atomic_written (before : Db) (outcome : Outcome) (written : outcome.writes ≠ []) :
    Atomic before (respond accepts outcome) ↔ ∃ row, outcome.answer = .ok row ∧ accepts row.email = true := by
  constructor
  · intro atomic
    cases answer : (respond accepts outcome).answer with
    | error refusal => exact absurd (respond_writes accepts outcome ▸ (atomic refusal answer).1) written
    | ok row => exact ⟨row, (respond_ok_iff accepts outcome row).mp answer⟩
  · rintro ⟨row, found⟩ refusal failed
    rw [(respond_ok_iff accepts outcome row).mpr found] at failed
    cases failed

theorem atomic_unwritten (before : Db) (outcome : Outcome) (untouched : outcome.writes = [])
    (same : outcome.db = before) : Atomic before (respond accepts outcome) := by
  intro refusal _
  rw [respond_writes, respond_db, same]
  exact ⟨untouched, rfl⟩

theorem insert_atomic_iff (before : Db) (creation : Creation) (writes : List AddressWrite)
    (committed : writes ≠ [] ∨ (creation.Insertable db draws ∧ faults.insert ≠ .failed)) :
    Atomic before (respond accepts (creation.insert db draws faults writes)) ↔
      creation.Insertable db draws ∧ faults.insert = .done ∧ faults.refreshFails = false ∧ accepts creation.email = true := by
  by_cases takes : creation.Insertable db draws ∧ faults.insert ≠ .failed
  · obtain ⟨row, email, log, -, answer⟩ := insert_committed db draws faults creation writes takes.1 takes.2
    rw [atomic_written accepts before _ (by simp [log]), answer]
    constructor
    · rintro ⟨found, ok, valid⟩
      split at ok
      · rename_i done
        cases ok
        exact ⟨takes.1, done.1, done.2, email ▸ valid⟩
      · cases ok
    · rintro ⟨-, done, fresh, valid⟩
      exact ⟨row, if_pos ⟨done, fresh⟩, email ▸ valid⟩
  · have written := committed.resolve_right takes
    rw [insert_refused db draws faults creation writes takes, atomic_written accepts before _ written]
    constructor
    · rintro ⟨row, ok, -⟩
      cases ok
    · rintro ⟨insertable, done, -⟩
      exact absurd ⟨insertable, by simp [done]⟩ takes

theorem perform_atomic_iff (creation : Creation) :
    Atomic db (respond accepts (creation.perform db draws faults)) ↔
      creation.CommitsNothing db draws faults ∨ creation.CompletesAll db draws faults accepts := by
  unfold Creation.perform Creation.CommitsNothing Creation.CompletesAll Creation.released
  cases creation.existing with
  | none =>
      by_cases takes : creation.Insertable db draws ∧ faults.insert ≠ .failed
      · rw [insert_atomic_iff db draws faults accepts db creation [] (Or.inr takes)]
        simp [takes]
      · rw [insert_refused db draws faults creation [] takes]
        simp only [reduceCtorEq, false_and, exists_false, takes, not_false_eq_true, and_self, false_or, true_or, iff_true]
        exact atomic_unwritten accepts db _ rfl rfl
  | some existing =>
      cases released : faults.release with
      | failed =>
          simp only [reduceCtorEq, Option.some.injEq, and_true, exists_eq', true_or, iff_true]
          exact atomic_unwritten accepts db _ rfl rfl
      | unconfirmed =>
          dsimp only
          rw [atomic_written accepts db _ (by simp)]
          simp
      | done =>
          dsimp only
          rw [insert_atomic_iff (db.deleteAddress existing.id) draws faults accepts db creation [.deleted existing]
            (Or.inl (by simp))]
          simp

end Atomicity

-- For each of the four routes, every database, settings, body and failure.
theorem creation_atomic_iff (python : Python) (settings : CreationSettings) (emailStr : String → Bool)
    (dependencies : Except HTTPException Unit) (db : Db) (draws : Draws) (faults : Faults) (route : CreationRoute) :
    Atomic db (route.handle python settings emailStr dependencies db draws faults) ↔
      faults.queryFails = true ∨
        ∀ creation, route.prepare python settings dependencies db draws = .ok creation →
          creation.CommitsNothing db draws faults ∨
            creation.CompletesAll db draws faults (route.responseAccepts emailStr) := by
  unfold CreationRoute.handle perform
  by_cases queries : faults.queryFails = true
  · simp only [queries, if_true, true_or, iff_true]
    exact atomic_unwritten _ db _ rfl rfl
  · simp only [queries, Bool.false_eq_true, if_false, false_or]
    cases prepared : route.prepare python settings dependencies db draws with
    | error refusal =>
        simp only [reduceCtorEq, IsEmpty.forall_iff, implies_true, iff_true]
        exact atomic_unwritten _ db _ rfl rfl
    | ok creation =>
        simp only [Except.ok.injEq, forall_eq']
        exact perform_atomic_iff db draws faults (route.responseAccepts emailStr) creation

def asciiPython : Python where
  lower := Text.mapChars Char.toLower
  ascii _ _ := rfl
  noUpper text c member := by
    rw [Text.map_chars_list] at member
    obtain ⟨original, -, same⟩ := List.mem_map.mp member
    rw [← same, Text.lower_not_upper]
  newline text last := by
    rw [Text.map_chars_list, List.getLast?_map] at last
    obtain ⟨original, found, same⟩ := Option.map_eq_some_iff.mp last
    rw [found, Text.lower_newline original same]

def sampleSettings : CreationSettings where
  domains := ["example.com"]
  allowCustomUsernames := true
  reservedUsernames := ["admin", "postmaster"]
  minUsernameLength := 3
  maxUsernameLength := 64
  addressLifetimeHours := 24
  maxPermanentAddresses := 0
  integrationApiKey := ""

def sampleDraws : Draws := ⟨1, "token", fun _ => "a8f3k9x2", fun _ => by decide, 0⟩

def plainEmailStr (email : String) : Bool :=
  match email.toList.splitOn '@' with
  | [username, domain] => Text.dotAtom username && domainPattern domain && domain.contains '.'
  | _ => false

theorem double_dot_kept :
    ¬ Atomic {} ((CreationRoute.createAddress ⟨some "a..b", none⟩).handle asciiPython sampleSettings plainEmailStr (.ok ())
      {} sampleDraws {}) := by
  intro atomic
  have kept := (atomic internalServerError (by rfl)).1
  exact absurd kept (by decide)

end Tempmail.Api
