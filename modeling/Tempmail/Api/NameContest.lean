import Tempmail.Api.PermanentCap
import Tempmail.Store.Triggers

set_option autoImplicit false

namespace Tempmail.Api

open Store (AddressRow Db)

inductive NameRequest where
  | temporary (body : AddressCreate) (dependencies : Except HTTPException Unit) (draws : Draws)
  | permanent (request : PermanentRequest)

namespace NameRequest

def route : NameRequest → CreationRoute
  | .temporary body _ _ => .createAddress body
  | .permanent request => request.creationRoute

def dependencies : NameRequest → Except HTTPException Unit
  | .temporary _ dependencies _ => dependencies
  | .permanent request => request.dependencies

def draws : NameRequest → Draws
  | .temporary _ _ draws => draws
  | .permanent request => request.draws

-- A temporary address without a username gets a random one.
def named : NameRequest → Bool
  | .temporary body _ _ => body.username.isSome
  | .permanent _ => true

end NameRequest

section Machine

variable {Client : Type} [DecidableEq Client] (python : Python) (settings : CreationSettings) (emailStr : String → Bool)
variable (requests : Client → NameRequest)

-- The statements of a request over a database that answers all of them. A
-- release shows to others when it commits, so it is one step.
def nameStatement (world : CreationWorld Client) (client : Client) : CreationWorld Client :=
  let request := requests client
  match world.phase client with
  | .received => match request with
      | .temporary body dependencies draws =>
          match (CreationRoute.createAddress body).prepare python settings dependencies world.db draws with
          | .error refusal => world.enter client (.answered (.error refusal))
          | .ok creation => world.enter client (.found creation 0)
      | .permanent request => match request.enter python settings with
        | .error refusal => world.enter client (.answered (.error refusal))
        | .ok body => match permanentDomain settings body.domain with
          | .error refusal => world.enter client (.answered (.error refusal))
          | .ok domain =>
              if settings.maxPermanentAddresses > 0 then
                if capReached settings (permanentCount world.db) then
                  world.enter client (.answered (.error permanentLimitReached))
                else (world.count client).enter client (.counted body domain (permanentCount world.db))
              else world.enter client (.counted body domain 0)
  | .counted body domain current => match afterCount python settings world.db request.draws body domain with
      | .error refusal => world.enter client (.answered (.error refusal))
      | .ok creation => world.enter client (.found creation current)
  | .found creation current => match creation.existing with
      | none => world.enter client (.released creation current)
      | some existing => (world.release existing).enter client (.released creation current)
  | .released creation current => match creation.row request.draws with
      | none => world.enter client failedAnswer
      | some row =>
          if !world.db.accepts row then world.enter client failedAnswer
          else if world.waits row then world
          else { world with uncommitted := (client, row) :: world.uncommitted }.enter client (.inserted row current)
  | .inserted row _ => (world.store client row).enter client (.committed row)
  | .committed row =>
      if !request.route.responseAccepts emailStr row.email then world.enter client failedAnswer
      else world.enter client (.answered (.ok row))
  | .answered _ => world

def nameRequests : Machine (CreationWorld Client) Client Unit where
  step world client := (nameStatement python settings emailStr requests world client, ())

-- Permanent requests run as on the machine that also lets statements fail.
theorem permanent_statement (permanents : Client → PermanentRequest) (world : CreationWorld Client) (client : Client) :
    nameStatement python settings emailStr (fun other => .permanent (permanents other)) world client =
      statement python settings emailStr permanents world ⟨client, false, .done⟩ := by
  cases standing : world.phase client with
  | received =>
      cases entered : (permanents client).enter python settings with
      | error refusal => simp only [nameStatement, statement, standing, entered]
      | ok body =>
          cases offered : permanentDomain settings body.domain <;>
            simp only [nameStatement, statement, standing, entered, offered, Bool.false_eq_true, if_false]
  | counted body domain current =>
      simp only [nameStatement, statement, standing, Bool.false_eq_true, if_false]
      rfl
  | released creation current =>
      simp only [nameStatement, statement, standing, Bool.false_or]
      rfl
  | committed row =>
      simp only [nameStatement, statement, standing, Bool.false_or]
      rfl
  | found creation current =>
      cases held : creation.existing <;> simp only [nameStatement, statement, standing, held]
  | inserted row current => simp only [nameStatement, statement, standing]
  | answered answer => simp only [nameStatement, statement, standing]

end Machine

def Conflict (email : String) (refusal : HTTPException) : Prop := refusal = emailTaken email ∨ refusal = emailOccupied email

section Lookup

variable (python : Python) (settings : CreationSettings)

structure LooksUp (draws : Draws) (row : AddressRow) (db : Db) (result : Except HTTPException Creation) : Prop where
  builds : ∀ creation, result = .ok creation → creation.row draws = some row
  reuses : ∀ creation existing, result = .ok creation → creation.existing = some existing →
    existing ∈ db.addresses ∧ existing.email = row.email ∧ existing.isExpired draws.now = true
  refuses : ∀ refusal, result = .error refusal → Conflict row.email refusal ∧
    ∃ existing ∈ db.addresses, existing.email = row.email ∧ ¬ (existing.addressType = .temp ∧ existing.isExpired draws.now = true)

theorem find_email_some (db : Db) (email : String) (existing : AddressRow) (found : findEmail db email = some existing) :
    existing ∈ db.addresses ∧ existing.email = email :=
  ⟨List.mem_of_find?_eq_some found, by simpa using List.find?_some found⟩

theorem row_reused (plan : Creation) (draws : Draws) (existing : Option AddressRow) :
    ({ plan with existing } : Creation).row draws = plan.row draws := by
  rw [Creation.row, Creation.row]

theorem looks_up (draws : Draws) (row : AddressRow) (db : Db) (plan : Creation) (bare : plan.existing = none)
    (built : plan.row draws = some row) (conflict : HTTPException) (named : Conflict row.email conflict)
    (free : AddressRow → Bool)
    (idle : ∀ existing, free existing = true → existing.isExpired draws.now = true)
    (spared : ∀ existing, existing.addressType = .temp ∧ existing.isExpired draws.now = true → free existing = true)
    (result : Except HTTPException Creation) (absent : findEmail db plan.email = none → result = .ok plan)
    (present : ∀ existing, findEmail db plan.email = some existing →
      result = if free existing then .ok { plan with existing := some existing } else .error conflict) :
    LooksUp draws row db result := by
  have email := creation_row_email draws plan row built
  cases found : findEmail db plan.email with
  | none =>
      rw [absent found]
      refine ⟨?_, ?_, nofun⟩
      · intro creation same
        cases same
        exact built
      · intro creation existing same held
        cases same
        rw [bare] at held
        cases held
  | some existing =>
      obtain ⟨member, same⟩ := find_email_some db plan.email existing found
      rw [present existing found]
      by_cases released : free existing = true
      · rw [if_pos released]
        refine ⟨?_, ?_, nofun⟩
        · intro creation done
          cases done
          exact (row_reused plan draws (some existing)).trans built
        · intro creation other done held
          cases done
          cases held
          exact ⟨member, same.trans email.symm, idle existing released⟩
      · rw [if_neg released]
        refine ⟨nofun, (fun _ _ made => by cases made), ?_⟩
        intro refusal done
        cases done
        exact ⟨named, existing, member, same.trans email.symm, fun expired => released (spared existing expired)⟩

theorem validated_named (body request : AddressCreate) (named : body.username.isSome = true)
    (valid : body.validate python settings = .ok request) : request.username.isSome = true := by
  obtain ⟨given, username⟩ := Option.isSome_iff_exists.mp named
  simp only [AddressCreate.validate, username, AddressCreate.validateUsername] at valid
  grind

-- A named request that would create its row in an empty table.
theorem temporary_looks_up (body : AddressCreate) (dependencies : Except HTTPException Unit) (draws : Draws) (plan : Creation)
    (row : AddressRow) (named : body.username.isSome = true)
    (planned : (CreationRoute.createAddress body).prepare python settings dependencies {} draws = .ok plan)
    (built : plan.row draws = some row) (db : Db) :
    LooksUp draws row db ((CreationRoute.createAddress body).prepare python settings dependencies db draws) := by
  cases dependencies with
  | error refusal => cases planned
  | ok passed =>
      simp only [CreationRoute.prepare, bind, Except.bind] at planned ⊢
      cases valid : body.validate python settings with
      | error message => simp [valid] at planned
      | ok request =>
          simp only [valid] at planned ⊢
          obtain ⟨username, given⟩ := Option.isSome_iff_exists.mp (validated_named python settings body request named valid)
          unfold prepareAddress at planned ⊢
          cases located : addressDomain settings request.domain with
          | error refusal => simp [located] at planned
          | ok domain =>
              simp only [located, given] at planned ⊢
              cases allowed : validateUsername python settings username with
              | error refusal => simp [allowed] at planned
              | ok passed =>
                  simp only [allowed] at planned ⊢
                  change Except.ok _ = Except.ok plan at planned
                  cases planned
                  refine looks_up draws row db _ rfl built _ (Or.inl (by rw [creation_row_email draws _ row built]))
                    (fun existing => existing.isExpired draws.now) (fun _ idle => idle) (fun _ idle => idle.2) _ ?_ ?_
                  · intro absent
                    rw [absent]
                  · intro existing found
                    rw [found]

theorem permanent_looks_up (draws : Draws) (body : PermanentAddressCreate) (domain : String) (plan : Creation) (row : AddressRow)
    (planned : afterCount python settings {} draws body domain = .ok plan) (built : plan.row draws = some row) (db : Db) :
    LooksUp draws row db (afterCount python settings db draws body domain) := by
  unfold afterCount at planned ⊢
  split
  · rename_i refused
    simp [refused] at planned
  · rename_i allowed
    simp only [allowed, Bool.false_eq_true, if_false] at planned
    dsimp only at planned ⊢
    split
    · rename_i refused
      simp [refused] at planned
    · rename_i fits
      simp only [fits, if_false] at planned
      split
      · rename_i refused
        rw [if_pos refused] at planned
        cases planned
      · rename_i unreserved
        rw [if_neg unreserved] at planned
        change Except.ok _ = Except.ok plan at planned
        cases planned
        refine looks_up draws row db _ rfl built _ (Or.inr (by rw [creation_row_email draws _ row built]))
          (fun existing => decide (existing.addressType = .temp ∧ existing.isExpired draws.now = true))
          (fun _ idle => (of_decide_eq_true idle).2) (fun _ idle => decide_eq_true idle) _ ?_ ?_
        · intro absent
          rw [absent]
        · intro existing found
          rw [found]
          simp only [decide_eq_true_eq]

def NameRequest.alone (emailStr : String → Bool) (request : NameRequest) : Except HTTPException AddressRow :=
  (request.route.handle python settings emailStr request.dependencies {} request.draws {}).answer

theorem alone_plan (emailStr : String → Bool) (request : NameRequest) (row : AddressRow)
    (alone : request.alone python settings emailStr = .ok row) :
    ∃ plan, request.route.prepare python settings request.dependencies {} request.draws = .ok plan ∧
      plan.row request.draws = some row ∧
      request.route.responseAccepts emailStr row.email = true := by
  obtain ⟨performed, accepted⟩ := (respond_ok_iff _ _ row).mp alone
  simp only [perform, Bool.false_eq_true, if_false] at performed
  cases prepared : request.route.prepare python settings request.dependencies {} request.draws with
  | error refusal => simp [prepared] at performed
  | ok plan =>
      refine ⟨plan, rfl, ?_, accepted⟩
      rw [prepared] at performed
      simp only [Creation.perform] at performed
      cases held : plan.existing with
      | some existing =>
          have found := (prepare_existing python settings {} request.draws request.dependencies request.route plan
            prepared existing held).1
          cases found
      | none =>
          simp only [held, Creation.insert] at performed
          cases built : plan.row request.draws with
          | none => simp [built] at performed
          | some other =>
              simp only [built, Store.Db.accepts, List.any_nil, Bool.not_false, Bool.not_true, Bool.false_eq_true, if_false,
                Except.ok.injEq] at performed
              rw [performed]

end Lookup

section Contest

variable {Client : Type} [DecidableEq Client] (python : Python) (settings : CreationSettings) (emailStr : String → Bool)
variable (requests : Client → NameRequest) (email : String) (start : Db) (rows : Client → AddressRow)

-- Requests made at one time for one name: each would create its row on its own,
-- and none comes so late that another's row has expired.
structure Contenders : Prop where
  named : ∀ client, (requests client).named = true
  alone : ∀ client, (requests client).alone python settings emailStr = .ok (rows client)
  aims : ∀ client, (rows client).email = email
  lasting : ∀ client other, (rows client).isExpired (requests other).draws.now = false

-- The table has the name free or held by an expired temporary address, and
-- uuid4 draws ids that are not in it.
structure Vacant : Prop where
  single : (start.addresses.filter (fun row => row.email == email)).length ≤ 1
  expired : ∀ row ∈ start.addresses, row.email = email →
    row.addressType = .temp ∧ ∀ client, row.isExpired (requests client).draws.now = true
  fresh : ∀ row ∈ start.addresses, ∀ client, (rows client).id ≠ row.id

namespace CreationPhase

def won : CreationPhase → Bool
  | .committed _ => true
  | .answered (.ok _) => true
  | _ => false

def pending : CreationPhase → Option AddressRow
  | .inserted row _ => some row
  | _ => none

def refusal : CreationPhase → Option HTTPException
  | .answered (.error refusal) => some refusal
  | _ => none

end CreationPhase

def Promised (client : Client) : CreationPhase → Prop
  | .counted body domain _ => ∃ plan, afterCount python settings {} (requests client).draws body domain = .ok plan ∧
      plan.row (requests client).draws = some (rows client)
  | .found creation _ => creation.row (requests client).draws = some (rows client) ∧
      ∀ existing, creation.existing = some existing → existing ∈ start.addresses
  | .released creation _ => creation.row (requests client).draws = some (rows client)
  | .inserted row _ => row = rows client
  | .committed row => row = rows client
  | .answered (.ok row) => row = rows client
  | _ => True

structure Contest (world : CreationWorld Client) : Prop where
  stored : ∀ row ∈ world.db.addresses, row.email = email →
    row ∈ start.addresses ∨ ∃ client, (world.phase client).won = true ∧ row = rows client
  kept : ∀ client, (world.phase client).won = true → rows client ∈ world.db.addresses
  single : (world.db.addresses.filter (fun row => row.email == email)).length ≤ 1
  promised : ∀ client, Promised python settings requests start rows client (world.phase client)
  inserting : ∀ client row, (world.phase client).pending = some row → (client, row) ∈ world.uncommitted
  pending : ∀ entry ∈ world.uncommitted, (world.phase entry.1).pending = some entry.2
  lone : ∀ first ∈ world.uncommitted, ∀ second ∈ world.uncommitted, first = second
  unclaimed : ∀ entry ∈ world.uncommitted, ∀ row ∈ world.db.addresses, row.email ≠ email
  sole : ∀ first second, (world.phase first).won = true → (world.phase second).won = true → first = second
  beaten : ∀ client refusal, (world.phase client).refusal = some refusal → Conflict email refusal →
    ∃ winner, (world.phase winner).won = true

omit [DecidableEq Client] in
theorem contest_opening (vacant : Vacant requests email start rows) :
    Contest python settings requests email start rows (opening start) := by
  refine ⟨fun _ member _ => Or.inl member, ?_, vacant.single, fun _ => trivial, ?_, ?_, ?_, ?_, ?_, ?_⟩
  · intro client wins
    cases wins
  · intro client row inserts
    cases inserts
  · intro entry member
    cases member
  · intro entry member
    cases member
  · intro entry member
    cases member
  · intro first second wins
    cases wins
  · intro client refusal refused
    cases refused

theorem entered (world : CreationWorld Client) (client : Client) (next : CreationPhase) (promise : Client → CreationPhase → Prop)
    (before : ∀ other, promise other (world.phase other)) (now : promise client next) (other : Client) :
    promise other ((world.enter client next).phase other) := by
  by_cases here : other = client
  · rw [here, creation_enter_here]
    exact now
  · rw [creation_enter_other world client other next here]
    exact before other

theorem accepts_free (db : Db) (row : AddressRow) (accepts : db.accepts row = true) (other : AddressRow)
    (member : other ∈ db.addresses) :
    other.email ≠ row.email := by
  intro same
  simp only [Store.Db.accepts, Bool.not_eq_true', List.any_eq_false] at accepts
  exact accepts other member (by simp [same])

omit [DecidableEq Client] in
theorem pending_promise (client : Client) (phase : CreationPhase) (row : AddressRow)
    (promised : Promised python settings requests start rows client phase) (inserts : phase.pending = some row) :
    row = rows client := by
  cases phase with
  | inserted found current =>
      cases inserts
      exact promised
  | _ => cases inserts

section Moves

variable (world : CreationWorld Client) (client : Client) (contest : Contest python settings requests email start rows world)

include contest

theorem contest_enter (next : CreationPhase) (same : next.won = (world.phase client).won)
    (settled : (world.phase client).pending = none) (idle : next.pending = none)
    (promised : Promised python settings requests start rows client next)
    (beaten : ∀ refusal, next.refusal = some refusal → Conflict email refusal → ∃ winner, (world.phase winner).won = true) :
    Contest python settings requests email start rows (world.enter client next) := by
  have moved := entered world client next
  have won : ∀ other, ((world.enter client next).phase other).won = (world.phase other).won :=
    moved (fun other phase => phase.won = (world.phase other).won) (fun _ => rfl) same
  have pending : ∀ other, ((world.enter client next).phase other).pending = (world.phase other).pending :=
    moved (fun other phase => phase.pending = (world.phase other).pending) (fun _ => rfl) (idle.trans settled.symm)
  refine ⟨?_, ?_, contest.single, moved _ contest.promised promised, ?_, ?_, contest.lone, contest.unclaimed, ?_, ?_⟩
  · intro row member name
    refine (contest.stored row member name).imp_right fun found => ?_
    obtain ⟨other, wins, mine⟩ := found
    exact ⟨other, (won other).trans wins, mine⟩
  · exact fun other wins => contest.kept other ((won other).symm.trans wins)
  · exact fun other row inserts => contest.inserting other row ((pending other).symm.trans inserts)
  · exact fun entry member => (pending entry.1).trans (contest.pending entry member)
  · intro first second firstWins secondWins
    exact contest.sole first second ((won first).symm.trans firstWins) ((won second).symm.trans secondWins)
  · intro other refusal answered conflict
    obtain ⟨winner, wins⟩ := moved (fun _ phase => ∀ refusal, phase.refusal = some refusal → Conflict email refusal →
      ∃ winner, (world.phase winner).won = true) contest.beaten beaten other refusal answered conflict
    exact ⟨winner, (won winner).trans wins⟩

theorem contest_count : Contest python settings requests email start rows (world.count client) :=
  ⟨contest.stored, contest.kept, contest.single, contest.promised, contest.inserting, contest.pending,
    contest.lone, contest.unclaimed,
    contest.sole, contest.beaten⟩

omit [DecidableEq Client] in
theorem contest_release (vacant : Vacant requests email start rows) (existing : AddressRow) (known : existing ∈ start.addresses) :
    Contest python settings requests email start rows (world.release existing) := by
  have left : (world.release existing).db.addresses = world.db.addresses.filter (fun row => !(row.id == existing.id)) := by
    rw [CreationWorld.release, Db.deleteAddress, Store.delete_addresses_addresses, Store.delete_recipients_addresses]
  have fewer : ∀ row ∈ (world.release existing).db.addresses, row ∈ world.db.addresses := by
    intro row member
    rw [left] at member
    exact (List.mem_filter.mp member).1
  refine ⟨fun row member => contest.stored row (fewer row member), ?_, ?_, contest.promised, contest.inserting, contest.pending,
    contest.lone, fun entry held row member => contest.unclaimed entry held row (fewer row member), contest.sole, contest.beaten⟩
  · intro other wins
    rw [left]
    exact List.mem_filter.mpr ⟨contest.kept other wins, by simpa using vacant.fresh existing known other⟩
  · rw [left]
    exact ((List.filter_sublist.filter _).length_le).trans contest.single

-- An INSERT that the table takes and that waits for nobody is the only one open.
theorem contest_insert (current : Nat) (losing : (world.phase client).won = false)
    (contenders : Contenders python settings emailStr requests email rows) (accepts : world.db.accepts (rows client) = true)
    (waits : world.waits (rows client) = false) : Contest python settings requests email start rows
      ({ world with uncommitted := (client, rows client) :: world.uncommitted }.enter client
        (.inserted (rows client) current)) := by
  have nobody : world.uncommitted = [] := by
    refine List.eq_nil_iff_forall_not_mem.mpr fun entry member => ?_
    have mine := pending_promise python settings requests start rows entry.1 _ entry.2 (contest.promised entry.1)
      (contest.pending entry member)
    rw [CreationWorld.waits, Bool.not_eq_false'] at waits
    refine accepts_free _ _ waits entry.2 (List.mem_map_of_mem member) ?_
    rw [mine, contenders.aims, contenders.aims]
  have free : ∀ row ∈ world.db.addresses, row.email ≠ email := by
    intro row member
    rw [← contenders.aims client]
    exact accepts_free world.db (rows client) accepts row member
  have moved := entered { world with uncommitted := (client, rows client) :: world.uncommitted } client
    (.inserted (rows client) current)
  have won : ∀ other, ((world.enter client (.inserted (rows client) current)).phase other).won = (world.phase other).won :=
    moved (fun other phase => phase.won = (world.phase other).won) (fun _ => rfl) losing.symm
  have single : ∀ entry ∈ (client, rows client) :: world.uncommitted, entry = (client, rows client) := by
    rw [nobody]
    exact fun entry member => List.mem_singleton.mp member
  refine ⟨?_, ?_, contest.single, moved _ contest.promised rfl, ?_, ?_, ?_, fun _ _ => free, ?_, ?_⟩
  · exact fun row member name => absurd name (free row member)
  · exact fun other wins => contest.kept other ((won other).symm.trans wins)
  · refine moved (fun other phase => ∀ row, phase.pending = some row →
      (other, row) ∈ (client, rows client) :: world.uncommitted) ?_ ?_
    · exact fun other row inserts => List.mem_cons_of_mem _ (contest.inserting other row inserts)
    · intro row now
      cases now
      exact List.mem_cons_self
  · intro entry member
    rw [single entry member, creation_enter_here]
    rfl
  · intro first firstIn second secondIn
    rw [single first firstIn, single second secondIn]
  · intro first second firstWins secondWins
    exact contest.sole first second ((won first).symm.trans firstWins) ((won second).symm.trans secondWins)
  · intro other refusal answered conflict
    obtain ⟨winner, wins⟩ := moved (fun _ phase => ∀ refusal, phase.refusal = some refusal → Conflict email refusal →
      ∃ winner, (world.phase winner).won = true) contest.beaten nofun other refusal answered conflict
    exact ⟨winner, (won winner).trans wins⟩

-- The commit of the only open INSERT makes its request the winner.
theorem contest_store (row : AddressRow) (inserts : (world.phase client).pending = some row)
    (contenders : Contenders python settings emailStr requests email rows) :
    Contest python settings requests email start rows ((world.store client row).enter client (.committed row)) := by
  have mine := pending_promise python settings requests start rows client _ row (contest.promised client) inserts
  have opened := contest.inserting client row inserts
  have free := contest.unclaimed (client, row) opened
  have closed : ((world.store client row).enter client (.committed row)).uncommitted = [] := by
    refine List.eq_nil_iff_forall_not_mem.mpr fun entry member => ?_
    obtain ⟨member, apart⟩ := List.mem_filter.mp member
    rw [contest.lone entry member (client, row) opened] at apart
    simp at apart
  have losing : ∀ other, (world.phase other).won = false := by
    intro other
    rw [← Bool.not_eq_true]
    exact fun wins => free (rows other) (contest.kept other wins) (contenders.aims other)
  have stored : (world.store client row).db.addresses = world.db.addresses ++ [row] := rfl
  have moved := entered (world.store client row) client (.committed row)
  have winner : ∀ other, (((world.store client row).enter client (.committed row)).phase other).won = true → other = client := by
    refine moved (fun other phase => phase.won = true → other = client) (fun other wins => ?_) (fun _ => rfl)
    have lost : ((world.store client row).phase other).won = false := losing other
    rw [lost] at wins
    cases wins
  have first : (((world.store client row).enter client (.committed row)).phase client).won = true := by
    rw [creation_enter_here]
    rfl
  refine ⟨?_, ?_, ?_, moved _ contest.promised mine, ?_, ?_, ?_, ?_, ?_, fun _ _ _ _ => ⟨client, first⟩⟩
  · intro other member name
    refine Or.inr ⟨client, first, ?_⟩
    rcases List.mem_append.mp (stored ▸ member) with before | now
    · exact absurd name (free other before)
    · rw [List.mem_singleton.mp now, mine]
  · intro other wins
    rw [winner other wins, ← mine]
    exact List.mem_append_right _ List.mem_cons_self
  · have none : world.db.addresses.filter (fun other => other.email == email) = [] :=
      List.filter_eq_nil_iff.mpr fun other member => by simpa using free other member
    change ((world.db.addresses ++ [row]).filter (fun other => other.email == email)).length ≤ 1
    rw [List.filter_append, none, List.nil_append]
    exact List.length_filter_le _ _
  · intro other found pending
    by_cases here : other = client
    · rw [here, creation_enter_here] at pending
      cases pending
    · rw [creation_enter_other _ client other _ here] at pending
      have both := contest.lone (other, found) (contest.inserting other found pending) (client, row) opened
      exact absurd (congrArg Prod.fst both) here
  · rw [closed]
    exact fun _ member => absurd member List.not_mem_nil
  · rw [closed]
    exact fun _ member => absurd member List.not_mem_nil
  · rw [closed]
    exact fun _ member => absurd member List.not_mem_nil
  · intro left right leftWins rightWins
    rw [winner left leftWins, winner right rightWins]

end Moves

-- An answer the contest allows: the address, or the conflict.
def FairPhase : CreationPhase → Prop
  | .answered (.error refusal) => Conflict email refusal
  | _ => True

def Fair (world : CreationWorld Client) : Prop := ∀ client, FairPhase email (world.phase client)

def ClearPhase (db : Db) (client : Client) : CreationPhase → Prop
  | .received => ∀ request, requests client = .permanent request → settings.maxPermanentAddresses > 0 →
      capReached settings (permanentCount db) = false
  | .released _ _ => db.accepts (rows client) = true
  | _ => True

-- No INSERT meets a row of its name (nor of its id or token) that was committed
-- since the name was looked up, and no count finds the cap reached.
def Clear (world : CreationWorld Client) (client : Client) : Prop :=
  ClearPhase settings requests rows world.db client (world.phase client)

def clear (world : CreationWorld Client) (client : Client) : Bool :=
  match requests client, world.phase client with
  | .permanent _, .received => !(settings.maxPermanentAddresses > 0 && capReached settings (permanentCount world.db))
  | _, .released _ _ => world.db.accepts (rows client)
  | _, _ => true

omit [DecidableEq Client] in
theorem clear_checked (world : CreationWorld Client) (client : Client)
    (checked : clear settings requests rows world client = true) :
    Clear settings requests rows world client := by
  rw [Clear]
  cases standing : world.phase client with
  | received =>
      intro request same capped
      simpa [clear, standing, same, capped] using checked
  | released creation current =>
      cases same : requests client <;> simpa [clear, standing, same, ClearPhase] using checked
  | _ => exact trivial

theorem fair_enter_iff (world : CreationWorld Client) (client : Client) (next : CreationPhase) (fair : Fair email world) :
    Fair email (world.enter client next) ↔ FairPhase email next := by
  constructor
  · intro after
    have now := after client
    rwa [creation_enter_here] at now
  · exact fun now => entered world client next (fun _ phase => FairPhase email phase) fair now

theorem conflict_status (refusal : HTTPException) (conflict : Conflict email refusal) : refusal.statusCode = 409 := by
  rcases conflict with rfl | rfl <;> rfl

def GoesOn (world : CreationWorld Client) (client : Client) (next : CreationWorld Client) : Prop :=
  Contest python settings requests email start rows next ∧
    (Fair email world → (Fair email next ↔ Clear settings requests rows world client))

theorem goes_on_enter (world before : CreationWorld Client) (client : Client) (next : CreationPhase)
    (same : before.phase = world.phase)
    (fair : FairPhase email next ↔ ClearPhase settings requests rows world.db client (world.phase client))
    (entering : Contest python settings requests email start rows (before.enter client next)) :
    GoesOn python settings requests email start rows world client (before.enter client next) := by
  refine ⟨entering, fun held => (fair_enter_iff email before client next fun other => ?_).trans fair⟩
  rw [same]
  exact held other

section Step

variable (world : CreationWorld Client) (client : Client) (contest : Contest python settings requests email start rows world)
variable (contenders : Contenders python settings emailStr requests email rows) (vacant : Vacant requests email start rows)

include contest

theorem refused_goes_on (refusal : HTTPException) (other : refusal.statusCode ≠ 409) (losing : (world.phase client).won = false)
    (settled : (world.phase client).pending = none)
    (blocked : ¬ ClearPhase settings requests rows world.db client (world.phase client)) :
    GoesOn python settings requests email start rows world client (world.enter client (.answered (.error refusal))) := by
  have unfair : ¬ Conflict email refusal := fun conflict => other (conflict_status email refusal conflict)
  refine goes_on_enter python settings requests email start rows world world client _ rfl (iff_of_false unfair blocked) ?_
  refine contest_enter python settings requests email start rows world client contest _ losing.symm settled rfl trivial ?_
  intro found same conflict
  cases same
  exact absurd conflict unfair

include contenders vacant

theorem lookup_goes_on (result : Except HTTPException Creation) (current : Nat)
    (looked : LooksUp (requests client).draws (rows client) world.db result) (losing : (world.phase client).won = false)
    (settled : (world.phase client).pending = none)
    (clear : ClearPhase settings requests rows world.db client (world.phase client)) :
    (∀ refusal, result = .error refusal →
      GoesOn python settings requests email start rows world client (world.enter client (.answered (.error refusal)))) ∧
    ∀ creation, result = .ok creation →
      GoesOn python settings requests email start rows world client (world.enter client (.found creation current)) := by
  constructor
  · intro refusal refused
    obtain ⟨conflict, existing, member, name, holds⟩ := looked.refuses refusal refused
    rw [contenders.aims] at conflict name
    refine goes_on_enter python settings requests email start rows world world client _ rfl (iff_of_true conflict clear) ?_
    refine contest_enter python settings requests email start rows world client contest _ losing.symm settled rfl trivial
      fun _ _ _ => ?_
    rcases contest.stored existing member name with old | ⟨winner, wins, -⟩
    · obtain ⟨temporary, expired⟩ := vacant.expired existing old name
      exact absurd ⟨temporary, expired client⟩ holds
    · exact ⟨winner, wins⟩
  · intro creation built
    refine goes_on_enter python settings requests email start rows world world client _ rfl (iff_of_true trivial clear) ?_
    refine contest_enter python settings requests email start rows world client contest _ losing.symm settled rfl
      ⟨looked.builds creation built, fun existing held => ?_⟩ nofun
    obtain ⟨member, name, expired⟩ := looked.reuses creation existing built held
    rw [contenders.aims] at name
    rcases contest.stored existing member name with old | ⟨winner, -, mine⟩
    · exact old
    · rw [mine, contenders.lasting winner client] at expired
      cases expired

theorem received_goes_on (standing : world.phase client = .received) :
    GoesOn python settings requests email start rows world client
      (nameStatement python settings emailStr requests world client) := by
  obtain ⟨plan, planned, built, -⟩ :=
    alone_plan python settings emailStr (requests client) (rows client) (contenders.alone client)
  have losing : (world.phase client).won = false := by rw [standing]; rfl
  have settled : (world.phase client).pending = none := by rw [standing]; rfl
  cases request_eq : requests client with
  | temporary body dependencies draws =>
      have named := contenders.named client
      rw [request_eq] at named planned built
      have looked := temporary_looks_up python settings body dependencies draws plan (rows client) named planned built world.db
      have clear : ClearPhase settings requests rows world.db client (world.phase client) := by
        rw [standing]
        intro request other
        rw [request_eq] at other
        cases other
      have lookup := lookup_goes_on python settings emailStr requests email start rows world client contest contenders vacant
        ((CreationRoute.createAddress body).prepare python settings dependencies world.db draws) 0
        (by rw [request_eq]; exact looked)
        losing settled clear
      simp only [nameStatement, standing, request_eq]
      split
      · rename_i refusal refused
        exact lookup.1 refusal refused
      · rename_i creation made
        exact lookup.2 creation made
  | permanent request =>
      rw [request_eq] at planned built
      have parts : request.creationRoute.prepare python settings request.dependencies {} request.draws = .ok plan := planned
      rw [prepare_statements] at parts
      cases entering : request.enter python settings with
      | error refusal => simp [entering, bind, Except.bind] at parts
      | ok body =>
          simp only [entering, bind, Except.bind] at parts
          cases located : permanentDomain settings body.domain with
          | error refusal => simp [located] at parts
          | ok domain =>
              simp only [located] at parts
              have checked : afterCount python settings {} request.draws body domain = .ok plan := by
                split at parts
                · cases parts
                · exact parts
              have promised : ∀ current, Promised python settings requests start rows client (.counted body domain current) := by
                intro current
                exact ⟨plan, by rw [request_eq]; exact checked, by rw [request_eq]; exact built⟩
              simp only [nameStatement, standing, request_eq, entering, located]
              split_ifs with capped reached
              · refine refused_goes_on python settings requests email start rows world client contest _
                  (by decide) losing settled ?_
                rw [standing]
                intro clear
                rw [clear request request_eq capped] at reached
                cases reached
              · refine goes_on_enter python settings requests email start rows world (world.count client) client _ rfl
                  (iff_of_true trivial ?_) ?_
                · rw [standing]
                  exact fun _ _ _ => by simpa using reached
                · exact contest_enter python settings requests email start rows (world.count client) client
                    (contest_count python settings requests email start rows world client contest) _ losing.symm settled rfl
                      (promised _) nofun
              · refine goes_on_enter python settings requests email start rows world world client _ rfl
                  (iff_of_true trivial ?_) ?_
                · rw [standing]
                  exact fun _ _ on => absurd on capped
                · exact contest_enter python settings requests email start rows world client contest _ losing.symm settled rfl
                      (promised 0) nofun

theorem counted_goes_on (body : PermanentAddressCreate) (domain : String) (current : Nat)
    (standing : world.phase client = .counted body domain current) : GoesOn python settings requests email start rows world client
      (nameStatement python settings emailStr requests world client) := by
  have promised := contest.promised client
  rw [standing] at promised
  obtain ⟨plan, checked, built⟩ := promised
  have looked := permanent_looks_up python settings (requests client).draws body domain plan
    (rows client) checked built world.db
  have lookup := lookup_goes_on python settings emailStr requests email start rows world client contest contenders vacant
    (afterCount python settings world.db (requests client).draws body domain) current looked (by rw [standing]; rfl)
    (by rw [standing]; rfl) (by rw [standing]; exact trivial)
  simp only [nameStatement, standing]
  split
  · rename_i refusal refused
    exact lookup.1 refusal refused
  · rename_i creation made
    exact lookup.2 creation made

omit contenders in
theorem found_goes_on (creation : Creation) (current : Nat)
    (standing : world.phase client = .found creation current) : GoesOn python settings requests email start rows world client
      (nameStatement python settings emailStr requests world client) := by
  have promised := contest.promised client
  rw [standing] at promised
  obtain ⟨mine, known⟩ := promised
  have releases : ∀ before : CreationWorld Client, Contest python settings requests email start rows before →
      before.phase = world.phase → GoesOn python settings requests email start rows world client
        (before.enter client (.released creation current)) := by
    intro before held same
    refine goes_on_enter python settings requests email start rows world before client _ same
      (iff_of_true trivial (by rw [standing]; exact trivial)) ?_
    exact contest_enter python settings requests email start rows before client held _ (by rw [same, standing]; rfl)
      (by rw [same, standing]; rfl) rfl mine nofun
  simp only [nameStatement, standing]
  split
  · exact releases world contest rfl
  · rename_i existing held
    exact releases _ (contest_release python settings requests email start rows world contest vacant existing
      (known existing held)) rfl

omit vacant in
theorem released_goes_on (creation : Creation) (current : Nat)
    (standing : world.phase client = .released creation current) : GoesOn python settings requests email start rows world client
      (nameStatement python settings emailStr requests world client) := by
  have promised := contest.promised client
  rw [standing] at promised
  have built : creation.row (requests client).draws = some (rows client) := promised
  simp only [nameStatement, standing, built]
  split_ifs with refused waits
  · refine refused_goes_on python settings requests email start rows world client contest _ (by decide)
      (by rw [standing]; rfl)
      (by rw [standing]; rfl) ?_
    rw [standing]
    intro taken
    rw [show world.db.accepts (rows client) = true from taken] at refused
    cases refused
  all_goals
    have taken : world.db.accepts (rows client) = true := by simpa using refused
    have clear : ClearPhase settings requests rows world.db client (world.phase client) := by
      rw [standing]
      exact taken
  · exact ⟨contest, fun fair => iff_of_true fair clear⟩
  · refine goes_on_enter python settings requests email start rows world
      { world with uncommitted := (client, rows client) :: world.uncommitted } client _ rfl (iff_of_true trivial clear) ?_
    exact contest_insert python settings emailStr requests email start rows world client contest current
      (by rw [standing]; rfl)
      contenders taken (by simpa using waits)

omit vacant in
theorem inserted_goes_on (row : AddressRow) (current : Nat)
    (standing : world.phase client = .inserted row current) : GoesOn python settings requests email start rows world client
      (nameStatement python settings emailStr requests world client) := by
  simp only [nameStatement, standing]
  refine goes_on_enter python settings requests email start rows world (world.store client row) client _ rfl
    (iff_of_true trivial (by rw [standing]; exact trivial)) ?_
  exact contest_store python settings emailStr requests email start rows world client contest row
    (by rw [standing]; rfl) contenders

omit vacant in
theorem committed_goes_on (row : AddressRow)
    (standing : world.phase client = .committed row) : GoesOn python settings requests email start rows world client
      (nameStatement python settings emailStr requests world client) := by
  have promised := contest.promised client
  rw [standing] at promised
  have mine : row = rows client := promised
  obtain ⟨-, -, -, accepted⟩ := alone_plan python settings emailStr (requests client) (rows client) (contenders.alone client)
  simp only [nameStatement, standing, mine, accepted, Bool.not_true, Bool.false_eq_true, if_false]
  refine goes_on_enter python settings requests email start rows world world client _ rfl
    (iff_of_true trivial (by rw [standing]; exact trivial)) ?_
  exact contest_enter python settings requests email start rows world client contest _ (by rw [standing]; rfl)
    (by rw [standing]; rfl)
    rfl rfl nofun

theorem statement_goes_on :
    GoesOn python settings requests email start rows world client
      (nameStatement python settings emailStr requests world client) := by
  cases standing : world.phase client with
  | received =>
    exact received_goes_on python settings emailStr requests email start rows world client contest contenders vacant standing
  | counted body domain current =>
    exact counted_goes_on python settings emailStr requests email start rows world client contest contenders vacant
      body domain current standing
  | found creation current =>
    exact found_goes_on python settings emailStr requests email start rows world client contest vacant creation current standing
  | released creation current =>
    exact released_goes_on python settings emailStr requests email start rows world client contest contenders
      creation current standing
  | inserted row current =>
    exact inserted_goes_on python settings emailStr requests email start rows world client contest contenders row current standing
  | committed row =>
    exact committed_goes_on python settings emailStr requests email start rows world client contest contenders row standing
  | answered answer =>
      simp only [nameStatement, standing]
      exact ⟨contest, fun fair => iff_of_true fair (by rw [Clear, standing]; exact trivial)⟩

end Step

structure OneWinner (world : CreationWorld Client) : Prop where
  single : (world.db.addresses.filter (fun row => row.email == email)).length ≤ 1
  answers : ∀ client answer, world.phase client = .answered answer →
    (∃ row, answer = .ok row ∧ row.email = email) ∨ ∃ refusal, answer = .error refusal ∧ Conflict email refusal
  sole : ∀ first second left right, world.phase first = .answered (.ok left) →
    world.phase second = .answered (.ok right) → first = second
  winner : Nonempty Client → (∀ client, ∃ answer, world.phase client = .answered answer) →
    ∃ winner row, world.phase winner = .answered (.ok row)

omit [DecidableEq Client] in
theorem one_winner_iff (world : CreationWorld Client) (contest : Contest python settings requests email start rows world)
    (contenders : Contenders python settings emailStr requests email rows) : OneWinner email world ↔ Fair email world := by
  constructor
  · intro one client
    cases standing : world.phase client with
    | answered answer =>
        rcases one.answers client answer standing with ⟨row, rfl, -⟩ | ⟨refusal, rfl, conflict⟩
        · exact trivial
        · exact conflict
    | _ => exact trivial
  · intro fair
    refine ⟨contest.single, ?_, ?_, ?_⟩
    · intro client answer standing
      have promised := contest.promised client
      have answered := fair client
      rw [standing] at promised answered
      cases answer with
      | ok row => exact Or.inl ⟨row, rfl, (congrArg AddressRow.email promised).trans (contenders.aims client)⟩
      | error refusal => exact Or.inr ⟨refusal, rfl, answered⟩
    · intro first second left right firstWins secondWins
      exact contest.sole first second (by rw [firstWins]; rfl) (by rw [secondWins]; rfl)
    · intro someone answered
      obtain ⟨client⟩ := someone
      obtain ⟨answer, standing⟩ := answered client
      cases answer with
      | ok row => exact ⟨client, row, standing⟩
      | error refusal =>
          have conflict := fair client
          rw [standing] at conflict
          obtain ⟨winner, wins⟩ := contest.beaten client refusal (by rw [standing]; rfl) conflict
          obtain ⟨last, ended⟩ := answered winner
          rw [ended] at wins
          cases last with
          | ok row => exact ⟨winner, row, ended⟩
          | error other => cases wins

-- Every interleaving keeps one row at most. It has one winner and refuses all
-- others with a conflict exactly when each of its steps is clear.
theorem name_contest_iff (turns : List Client) (contenders : Contenders python settings emailStr requests email rows)
    (vacant : Vacant requests email start rows) :
    (∀ earlier later, turns = earlier ++ later →
        OneWinner email ((nameRequests python settings emailStr requests).final (opening start) earlier)) ↔
      ∀ moment ∈ (nameRequests python settings emailStr requests).trace (opening start) turns,
        Clear settings requests rows moment.before moment.event := by
  have opened := contest_opening python settings requests email start rows vacant
  refine Machine.held_iff_clear (nameRequests python settings emailStr requests)
    (Contest python settings requests email start rows)
    (OneWinner email) (Clear settings requests rows) ?_ ?_ (opening start) turns opened ?_
  · exact fun world client contest =>
      (statement_goes_on python settings emailStr requests email start rows world client contest contenders vacant).1
  · intro world client contest one
    obtain ⟨next, fair⟩ :=
      statement_goes_on python settings emailStr requests email start rows world client contest contenders vacant
    refine (one_winner_iff python settings emailStr requests email start rows _ next contenders).trans (fair ?_)
    exact (one_winner_iff python settings emailStr requests email start rows world contest contenders).mp one
  · exact (one_winner_iff python settings emailStr requests email start rows _ opened contenders).mpr fun _ => trivial

theorem single_row (turns : List Client) (contenders : Contenders python settings emailStr requests email rows)
    (vacant : Vacant requests email start rows) :
    (((nameRequests python settings emailStr requests).final (opening start) turns).db.addresses.filter
      (fun row => row.email == email)).length ≤ 1 := by
  have opened := contest_opening python settings requests email start rows vacant
  refine (Machine.invariant_run (nameRequests python settings emailStr requests)
    (Contest python settings requests email start rows)
    (fun _ => True) ?_ (opening start) turns (fun _ _ => trivial) opened).1.single
  exact fun world client _ contest =>
    (statement_goes_on python settings emailStr requests email start rows world client contest contenders vacant).1

end Contest

section Sample

def firstDraws : Draws := { sampleDraws with token := "first" }

def secondDraws : Draws := { sampleDraws with id := 2, token := "second" }

def bothTake : Bool → NameRequest
  | false => .temporary ⟨some "taken", none⟩ (.ok ()) firstDraws
  | true => .permanent ⟨.createPermanentAddressPublic, ⟨"taken", none⟩, .ok (), secondDraws⟩

def takenRow : Bool → AddressRow
  | false => ⟨1, "taken@example.com", "first", .temp, 0, some (24 * Mx.hour), by decide +kernel, by decide +kernel⟩
  | true => ⟨2, "taken@example.com", "second", .permanent, 0, none, by decide +kernel, by decide +kernel⟩

def expiredHolder : Db where
  addresses := [Store.sampleAddress 3 "taken@example.com" "old" .temp (some (-1)) (by decide +kernel) (by decide +kernel)]

theorem both_contend : Contenders asciiPython sampleSettings plainEmailStr bothTake "taken@example.com" takenRow := by
  refine ⟨?_, ?_, ?_, ?_⟩
  · intro client
    cases client <;> rfl
  · intro client
    cases client <;> rfl
  · intro client
    cases client <;> rfl
  · intro client other
    cases client <;> cases other <;> decide

theorem holder_expired : Vacant bothTake "taken@example.com" expiredHolder takenRow := by
  refine ⟨by decide +kernel, ?_, ?_⟩
  · intro row member _
    rw [List.mem_singleton.mp member]
    refine ⟨rfl, fun client => ?_⟩
    cases client <;> decide
  · intro row member client
    rw [List.mem_singleton.mp member]
    cases client <;> decide

def inOrder : List Bool := List.replicate 6 false ++ List.replicate 2 true

def abreast : List Bool := (List.replicate 7 [false, true]).flatten

theorem in_order_one_winner :
    OneWinner "taken@example.com"
      ((nameRequests asciiPython sampleSettings plainEmailStr bothTake).final (opening expiredHolder) inOrder) := by
  refine (name_contest_iff asciiPython sampleSettings plainEmailStr bothTake "taken@example.com" expiredHolder takenRow
    inOrder both_contend holder_expired).mpr ?_ inOrder [] rfl
  have checked : ((nameRequests asciiPython sampleSettings plainEmailStr bothTake).trace (opening expiredHolder) inOrder).all
      (fun moment => clear sampleSettings bothTake takenRow moment.before moment.event) = true := by rfl
  exact fun moment member => clear_checked sampleSettings bothTake takenRow _ _ (List.all_eq_true.mp checked moment member)

-- Both find the expired address and release it; the second INSERT is refused.
theorem second_gets_500 :
    Contenders asciiPython sampleSettings plainEmailStr bothTake "taken@example.com" takenRow ∧
      Vacant bothTake "taken@example.com" expiredHolder takenRow ∧
      ((nameRequests asciiPython sampleSettings plainEmailStr bothTake).final (opening expiredHolder) abreast).phase false =
        .answered (.ok (takenRow false)) ∧
      ((nameRequests asciiPython sampleSettings plainEmailStr bothTake).final (opening expiredHolder) abreast).phase true =
        .answered (.error internalServerError) :=
  ⟨both_contend, holder_expired, by rfl, by rfl⟩

end Sample

end Tempmail.Api
