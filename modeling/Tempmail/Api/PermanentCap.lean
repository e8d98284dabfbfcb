import Mathlib.Logic.Function.Basic
import Tempmail.Api.Atomicity
import Tempmail.Lib.Machine

set_option autoImplicit false

namespace Tempmail.Api

open Store (AddressRow Db)

inductive PermanentRoute where
  | createPermanentAddressPublic
  | createPermanentAddressApi (xApiKey : Option String)
  | createPermanentAddressAdmin
deriving DecidableEq, Repr

structure PermanentRequest where
  route : PermanentRoute
  body : PermanentAddressCreate
  dependencies : Except HTTPException Unit
  draws : Draws

def PermanentRequest.creationRoute (request : PermanentRequest) : CreationRoute :=
  match request.route with
  | .createPermanentAddressPublic => .createPermanentAddressPublic request.body
  | .createPermanentAddressApi xApiKey => .createPermanentAddressApi request.body xApiKey
  | .createPermanentAddressAdmin => .createPermanentAddressAdmin request.body

section Statements

variable (python : Python) (settings : CreationSettings)

def PermanentRequest.enter (request : PermanentRequest) : Except HTTPException PermanentAddressCreate := do
  request.dependencies
  match request.route with
  | .createPermanentAddressPublic => match request.body.validate python with
      | .error message => .error (unprocessable message)
      | .ok body => .ok body
  | .createPermanentAddressApi xApiKey => match request.body.validate python with
      | .error message => .error (unprocessable message)
      | .ok body => do
          checkApiKey settings xApiKey
          .ok body
  | .createPermanentAddressAdmin => match request.body.validate python with
      | .error _ => .error internalServerError
      | .ok body => .ok body

def capReached (current : Nat) : Bool := settings.maxPermanentAddresses > 0 && (current : Int) ≥ settings.maxPermanentAddresses

def afterCount (db : Db) (draws : Draws) (request : PermanentAddressCreate) (domain : String) : Except HTTPException Creation :=
  if !settings.allowCustomUsernames then .error customUsernamesDisabled
  else
    let username := python.lower (strip request.username)
    if (username.length : Int) < settings.minUsernameLength ∨ (username.length : Int) > settings.maxUsernameLength then
      .error (usernameLength settings)
    else if (settings.reservedUsernames.map python.lower).contains username then .error (usernameKept username)
    else
      let email := username ++ "@" ++ domain
      match findEmail db email with
      | none => .ok ⟨email, none, .permanent, some none⟩
      | some existing =>
          if existing.addressType = .temp ∧ existing.isExpired draws.now = true then
            .ok ⟨email, some existing, .permanent, some none⟩
          else .error (emailOccupied email)

-- Both queries on one state of the table are the handler's preparation.
theorem prepare_statements (request : PermanentRequest) (db : Db) :
    request.creationRoute.prepare python settings request.dependencies db request.draws = (do
      let body ← request.enter python settings
      let domain ← permanentDomain settings body.domain
      if capReached settings (permanentCount db) then .error permanentLimitReached
      else afterCount python settings db request.draws body domain) := by
  have split : ∀ body, preparePermanent python settings db request.draws body = (do
      let domain ← permanentDomain settings body.domain
      if capReached settings (permanentCount db) then .error permanentLimitReached
      else afterCount python settings db request.draws body domain) := by
    intro body
    rw [preparePermanent]
    cases permanentDomain settings body.domain with
    | error refusal => rfl
    | ok domain => exact if_congr (by simp [capReached]) rfl rfl
  obtain ⟨route, body, dependencies, draws⟩ := request
  cases dependencies with
  | error refusal => cases route <;> rfl
  | ok passed =>
      cases route with
      | createPermanentAddressPublic =>
          simp only [PermanentRequest.creationRoute, CreationRoute.prepare, PermanentRequest.enter, bind, Except.bind]
          cases body.validate python with
          | error message => rfl
          | ok valid => exact split valid
      | createPermanentAddressApi xApiKey =>
          simp only [PermanentRequest.creationRoute, CreationRoute.prepare, PermanentRequest.enter, bind, Except.bind]
          cases body.validate python with
          | error message => rfl
          | ok valid =>
              dsimp only
              cases checkApiKey settings xApiKey with
              | error refusal => rfl
              | ok known => exact split valid
      | createPermanentAddressAdmin =>
          simp only [PermanentRequest.creationRoute, CreationRoute.prepare, PermanentRequest.enter, bind, Except.bind]
          cases body.validate python with
          | error message => rfl
          | ok valid => exact split valid

end Statements

-- Where a request stands between two of its statements; current is what its
-- count returned, 0 when the cap is off and nothing is counted.
inductive CreationPhase where
  | received
  | counted (body : PermanentAddressCreate) (domain : String) (current : Nat)
  | found (creation : Creation) (current : Nat)
  | released (creation : Creation) (current : Nat)
  | inserted (row : AddressRow) (current : Nat)
  | committed (row : AddressRow)
  | answered (answer : Except HTTPException AddressRow)

-- uncommitted holds the inserted rows of open transactions. overtaken is not in
-- the program: the permanent addresses others committed since a request counted.
structure CreationWorld (Client : Type) where
  db : Db
  phase : Client → CreationPhase
  uncommitted : List (Client × AddressRow)
  overtaken : Client → Nat

structure CreationTurn (Client : Type) where
  client : Client
  fails : Bool
  commit : Mx.CommitOutcome

section Interleaving

variable {Client : Type} [DecidableEq Client] (python : Python) (settings : CreationSettings) (emailStr : String → Bool)
variable (requests : Client → PermanentRequest)

def CreationWorld.enter (world : CreationWorld Client) (client : Client) (phase : CreationPhase) : CreationWorld Client :=
  { world with phase := Function.update world.phase client phase }

def CreationWorld.count (world : CreationWorld Client) (client : Client) : CreationWorld Client :=
  { world with overtaken := Function.update world.overtaken client 0 }

def CreationWorld.close (world : CreationWorld Client) (client : Client) : CreationWorld Client :=
  { world with uncommitted := world.uncommitted.filter (fun entry => entry.1 ≠ client) }

def CreationWorld.store (world : CreationWorld Client) (client : Client) (row : AddressRow) : CreationWorld Client :=
  { world.close client with
    db := world.db.insertAddress row
    overtaken := fun other => if other = client then world.overtaken other else world.overtaken other + 1 }

def CreationWorld.release (world : CreationWorld Client) (existing : AddressRow) : CreationWorld Client :=
  { world with db := world.db.deleteAddress existing.id }

-- A row that clashes with an open transaction's row waits for that transaction.
def CreationWorld.waits (world : CreationWorld Client) (row : AddressRow) : Bool :=
  !({ addresses := world.uncommitted.map Prod.snd } : Db).accepts row

def failedAnswer : CreationPhase := .answered (.error internalServerError)

def statement (world : CreationWorld Client) (turn : CreationTurn Client) : CreationWorld Client :=
  let request := requests turn.client
  match world.phase turn.client with
  | .received => match request.enter python settings with
      | .error refusal => world.enter turn.client (.answered (.error refusal))
      | .ok body => match permanentDomain settings body.domain with
        | .error refusal => world.enter turn.client (.answered (.error refusal))
        | .ok domain =>
            if settings.maxPermanentAddresses > 0 then
              if turn.fails then world.enter turn.client failedAnswer
              else if capReached settings (permanentCount world.db) then
                world.enter turn.client (.answered (.error permanentLimitReached))
              else (world.count turn.client).enter turn.client (.counted body domain (permanentCount world.db))
            else world.enter turn.client (.counted body domain 0)
  | .counted body domain current =>
      if turn.fails then world.enter turn.client failedAnswer
      else match afterCount python settings world.db request.draws body domain with
        | .error refusal => world.enter turn.client (.answered (.error refusal))
        | .ok creation => world.enter turn.client (.found creation current)
  | .found creation current => match creation.existing with
      | none => world.enter turn.client (.released creation current)
      | some existing => match turn.commit with
        | .failed => world.enter turn.client failedAnswer
        | .unconfirmed => (world.release existing).enter turn.client failedAnswer
        | .done => (world.release existing).enter turn.client (.released creation current)
  | .released creation current => match creation.row request.draws with
      | none => world.enter turn.client failedAnswer
      | some row =>
          if turn.fails || !world.db.accepts row then world.enter turn.client failedAnswer
          else if world.waits row then world
          else { world with uncommitted := (turn.client, row) :: world.uncommitted }.enter turn.client (.inserted row current)
  | .inserted row _ => match turn.commit with
      | .failed => (world.close turn.client).enter turn.client failedAnswer
      | .unconfirmed => (world.store turn.client row).enter turn.client failedAnswer
      | .done => (world.store turn.client row).enter turn.client (.committed row)
  | .committed row =>
      if turn.fails || !request.creationRoute.responseAccepts emailStr row.email then world.enter turn.client failedAnswer
      else world.enter turn.client (.answered (.ok row))
  | .answered _ => world

def creations : Machine (CreationWorld Client) (CreationTurn Client) Unit where
  step world turn := (statement python settings emailStr requests world turn, ())

def opening (db : Db) : CreationWorld Client := ⟨db, fun _ => .received, [], fun _ => 0⟩

def CreationPhase.counts : CreationPhase → Option Nat
  | .counted _ _ current => some current
  | .found _ current => some current
  | .released _ current => some current
  | .inserted _ current => some current
  | _ => none

def Accounted (world : CreationWorld Client) : Prop :=
  ∀ client current, (world.phase client).counts = some current → permanentCount world.db ≤ current + world.overtaken client

-- Where a request commits its row, the mailboxes it counted and those committed
-- since by others leave room for it.
def LeavesRoom (world : CreationWorld Client) (turn : CreationTurn Client) : Prop :=
  ∀ row current, world.phase turn.client = .inserted row current → turn.commit ≠ .failed →
    ((current + world.overtaken turn.client : Nat) : Int) < settings.maxPermanentAddresses

def leavesRoom (world : CreationWorld Client) (turn : CreationTurn Client) : Bool :=
  match world.phase turn.client with
  | .inserted _ current => ((current + world.overtaken turn.client : Nat) : Int) < settings.maxPermanentAddresses
  | _ => true

omit [DecidableEq Client] in
theorem leaves_room_checked (world : CreationWorld Client) (turn : CreationTurn Client)
    (checked : leavesRoom settings world turn = true) : LeavesRoom settings world turn := by
  intro row current standing _
  simpa only [leavesRoom, standing, decide_eq_true_eq] using checked

theorem release_count (db : Db) (existing : AddressRow) : permanentCount (db.deleteAddress existing.id) ≤ permanentCount db := by
  rw [permanentCount, permanentCount, Db.deleteAddress, Store.delete_addresses_addresses, Store.delete_recipients_addresses]
  exact List.Sublist.countP_le List.filter_sublist

theorem insert_count (db : Db) (row : AddressRow) : permanentCount (db.insertAddress row) ≤ permanentCount db + 1 := by
  rw [permanentCount, permanentCount, Db.insertAddress, List.countP_append]
  exact Nat.add_le_add_left List.countP_le_length _

theorem creation_enter_here (world : CreationWorld Client) (client : Client) (phase : CreationPhase) :
    (world.enter client phase).phase client = phase := Function.update_self ..

theorem creation_enter_other (world : CreationWorld Client) (client other : Client) (phase : CreationPhase)
    (apart : other ≠ client) : (world.enter client phase).phase other = world.phase other := Function.update_of_ne apart ..

theorem accounted_enter (world : CreationWorld Client) (client : Client) (phase : CreationPhase)
    (kept : ∀ current, phase.counts = some current → (world.phase client).counts = some current) (accounted : Accounted world) :
    Accounted (world.enter client phase) := by
  intro other current counts
  by_cases same : other = client
  · subst same
    rw [creation_enter_here] at counts
    exact accounted other current (kept current counts)
  · rw [creation_enter_other world client other phase same] at counts
    exact accounted other current counts

omit [DecidableEq Client] in
theorem accounted_release (world : CreationWorld Client) (existing : AddressRow) (accounted : Accounted world) :
    Accounted (world.release existing) :=
  fun client current counts => (release_count world.db existing).trans (accounted client current counts)

theorem accounted_store (world : CreationWorld Client) (client : Client) (row : AddressRow) (phase : CreationPhase)
    (done : phase.counts = none) (accounted : Accounted world) : Accounted ((world.store client row).enter client phase) := by
  intro other current counts
  by_cases same : other = client
  · subst same
    rw [creation_enter_here, done] at counts
    cases counts
  · rw [creation_enter_other _ client other phase same] at counts
    have before := accounted other current counts
    have grown := insert_count world.db row
    simp only [CreationWorld.enter, CreationWorld.store, CreationWorld.close, if_neg same]
    omega

theorem accounted_count (world : CreationWorld Client) (client : Client) (body : PermanentAddressCreate) (domain : String)
    (accounted : Accounted world) :
    Accounted ((world.count client).enter client (.counted body domain (permanentCount world.db))) := by
  intro other current counts
  by_cases same : other = client
  · subst same
    rw [creation_enter_here, CreationPhase.counts, Option.some.injEq] at counts
    rw [← counts]
    exact Nat.le_add_right _ _
  · rw [creation_enter_other _ client other _ same] at counts
    have before := accounted other current counts
    simpa only [CreationWorld.enter, CreationWorld.count, Function.update_of_ne same] using before

def Capped (world : CreationWorld Client) : Prop :=
  Accounted world ∧ (permanentCount world.db : Int) ≤ settings.maxPermanentAddresses

section Statement

variable (world : CreationWorld Client) (turn : CreationTurn Client) (kept : Capped settings world)

include kept

theorem settle_capped (phase : CreationPhase) (done : phase.counts = none) : Capped settings (world.enter turn.client phase) :=
  ⟨accounted_enter world turn.client phase (by simp [done]) kept.1, kept.2⟩

theorem received_capped (capped : 0 < settings.maxPermanentAddresses) (standing : world.phase turn.client = .received) :
    Capped settings (statement python settings emailStr requests world turn) := by
  have accounted := kept.1
  have within := kept.2
  simp only [statement, standing, gt_iff_lt, capped, if_true]
  split
  · exact settle_capped settings world turn kept _ rfl
  · split
    · exact settle_capped settings world turn kept _ rfl
    · split_ifs
      · exact settle_capped settings world turn kept _ rfl
      · exact settle_capped settings world turn kept _ rfl
      · exact ⟨accounted_count world turn.client _ _ accounted, within⟩

theorem counted_capped (body : PermanentAddressCreate) (domain : String) (current : Nat)
    (standing : world.phase turn.client = .counted body domain current) :
    Capped settings (statement python settings emailStr requests world turn) := by
  have accounted := kept.1
  have within := kept.2
  simp only [statement, standing]
  split
  · exact settle_capped settings world turn kept _ rfl
  · split
    · exact settle_capped settings world turn kept _ rfl
    · refine ⟨accounted_enter world turn.client _ (fun read same => ?_) accounted, within⟩
      rw [standing]
      exact same

theorem found_capped (creation : Creation) (current : Nat) (standing : world.phase turn.client = .found creation current) :
    Capped settings (statement python settings emailStr requests world turn) := by
  have accounted := kept.1
  have within := kept.2
  have carried : ∀ read, (CreationPhase.released creation current).counts = some read →
      (world.phase turn.client).counts = some read := by
    intro read same
    rw [standing]
    exact same
  simp only [statement, standing]
  split
  · exact ⟨accounted_enter world turn.client _ carried accounted, within⟩
  · rename_i existing holds
    have fewer : (permanentCount (world.release existing).db : Int) ≤ settings.maxPermanentAddresses := by
      have shrunk := release_count world.db existing
      simp only [CreationWorld.release]
      omega
    have counted := accounted_release world existing accounted
    split
    · exact settle_capped settings world turn kept _ rfl
    · exact ⟨accounted_enter _ turn.client _ (by simp [failedAnswer, CreationPhase.counts]) counted, fewer⟩
    · exact ⟨accounted_enter _ turn.client _ carried counted, fewer⟩

theorem released_capped (creation : Creation) (current : Nat) (standing : world.phase turn.client = .released creation current) :
    Capped settings (statement python settings emailStr requests world turn) := by
  have accounted := kept.1
  have within := kept.2
  simp only [statement, standing]
  split
  · exact settle_capped settings world turn kept _ rfl
  · rename_i row built
    split_ifs
    · exact settle_capped settings world turn kept _ rfl
    · exact ⟨accounted, within⟩
    · refine ⟨accounted_enter { world with uncommitted := (turn.client, row) :: world.uncommitted } turn.client _
        (fun read same => ?_) accounted, within⟩
      change (world.phase turn.client).counts = some read
      rw [standing]
      exact same

theorem inserted_capped (row : AddressRow) (current : Nat) (room : LeavesRoom settings world turn)
    (standing : world.phase turn.client = .inserted row current) :
    Capped settings (statement python settings emailStr requests world turn) := by
  have accounted := kept.1
  have within := kept.2
  have bound := accounted turn.client current (by rw [standing]; rfl)
  have fits := room row current standing
  have grown := insert_count world.db row
  simp only [statement, standing]
  split
  · exact ⟨accounted_enter (world.close turn.client) turn.client _ (by simp [failedAnswer, CreationPhase.counts]) accounted,
      within⟩
  · rename_i unconfirmed
    have left := fits (by simp [unconfirmed])
    refine ⟨accounted_store world turn.client row _ rfl accounted, ?_⟩
    simp only [CreationWorld.enter, CreationWorld.store]
    omega
  · rename_i done
    have left := fits (by simp [done])
    refine ⟨accounted_store world turn.client row _ rfl accounted, ?_⟩
    simp only [CreationWorld.enter, CreationWorld.store]
    omega

theorem statement_capped (capped : 0 < settings.maxPermanentAddresses) (room : LeavesRoom settings world turn) :
    Capped settings (statement python settings emailStr requests world turn) := by
  cases standing : world.phase turn.client with
  | received => exact received_capped python settings emailStr requests world turn kept capped standing
  | counted body domain current =>
      exact counted_capped python settings emailStr requests world turn kept body domain current standing
  | found creation current => exact found_capped python settings emailStr requests world turn kept creation current standing
  | released creation current => exact released_capped python settings emailStr requests world turn kept creation current standing
  | inserted row current => exact inserted_capped python settings emailStr requests world turn kept row current room standing
  | committed row =>
      simp only [statement, standing]
      split
      · exact settle_capped settings world turn kept _ rfl
      · exact settle_capped settings world turn kept _ rfl
  | answered answer =>
      simp only [statement, standing]
      exact kept

end Statement

-- Every state of every interleaving.
theorem permanent_cap_holds (db : Db) (turns : List (CreationTurn Client)) (capped : 0 < settings.maxPermanentAddresses)
    (within : (permanentCount db : Int) ≤ settings.maxPermanentAddresses)
    (room : ∀ moment ∈ (creations python settings emailStr requests).trace (opening db) turns,
      LeavesRoom settings moment.before moment.event) (earlier later : List (CreationTurn Client))
    (split : turns = earlier ++ later) :
    (permanentCount ((creations python settings emailStr requests).final (opening db) earlier).db : Int) ≤
      settings.maxPermanentAddresses := by
  refine (Machine.invariant_along (creations python settings emailStr requests)
    (Capped settings) (LeavesRoom settings) ?_ (opening db) earlier ?_ ?_).2
  · exact fun world turn room kept => statement_capped python settings emailStr requests world turn kept capped room
  · intro moment member
    exact room moment (split ▸ Machine.trace_prefix _ _ _ _ _ member)
  · refine ⟨fun client current counts => ?_, within⟩
    cases counts

end Interleaving

def oneMailbox : CreationSettings := { sampleSettings with maxPermanentAddresses := 1 }

def twoRequests : Bool → PermanentRequest
  | false => ⟨.createPermanentAddressPublic, ⟨"capfirst", none⟩, .ok (), sampleDraws⟩
  | true => ⟨.createPermanentAddressPublic, ⟨"capsecond", none⟩, .ok (), { sampleDraws with id := 2, token := "second" }⟩

def ready (client : Bool) : CreationTurn Bool := ⟨client, false, .done⟩

def inStep : List (CreationTurn Bool) := (List.replicate 5 [ready false, ready true]).flatten

def oneAfterTheOther : List (CreationTurn Bool) := List.replicate 6 (ready false) ++ List.replicate 6 (ready true)

theorem cap_exceeded :
    (permanentCount ({} : Db) : Int) ≤ oneMailbox.maxPermanentAddresses ∧
      ¬ (permanentCount ((creations asciiPython oneMailbox plainEmailStr twoRequests).final (opening {}) inStep).db : Int) ≤
        oneMailbox.maxPermanentAddresses := by
  have two : permanentCount
    ((creations asciiPython oneMailbox plainEmailStr twoRequests).final (opening {}) inStep).db = 2 := by rfl
  refine ⟨by decide, ?_⟩
  rw [two]
  decide

theorem one_after_the_other_capped :
    (permanentCount ((creations asciiPython oneMailbox plainEmailStr twoRequests).final (opening {}) oneAfterTheOther).db : Int) ≤
      oneMailbox.maxPermanentAddresses := by
  refine permanent_cap_holds asciiPython oneMailbox plainEmailStr twoRequests {} oneAfterTheOther (by decide) (by decide) ?_
    oneAfterTheOther [] (by simp)
  have checked : ((creations asciiPython oneMailbox plainEmailStr twoRequests).trace (opening {}) oneAfterTheOther).all
      (fun moment => leavesRoom oneMailbox moment.before moment.event) = true := by rfl
  exact fun moment member => leaves_room_checked oneMailbox moment.before moment.event (List.all_eq_true.mp checked moment member)

end Tempmail.Api
