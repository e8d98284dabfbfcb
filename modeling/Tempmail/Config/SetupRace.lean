import Tempmail.Config.SetupAtomicity

set_option autoImplicit false

namespace Tempmail.Config

open Api (HTTPException Python internalServerError)

structure SetupWorld (Client : Type) where
  files : ConfigFiles
  settings : Settings
  phase : Client → SetupPhase

structure SetupTurn (Client : Type) where
  client : Client
  faults : SetupFaults

variable {Client : Type} [DecidableEq Client] (yaml : Yaml) (python : Python) (requests : Client → SetupRequest)

def SetupWorld.stepped (world : SetupWorld Client) (turn : SetupTurn Client) : SetupPhase × ConfigFiles × Settings :=
  (world.phase turn.client).step yaml python (requests turn.client) turn.faults world.files world.settings

def advanceSetup (world : SetupWorld Client) (turn : SetupTurn Client) : SetupWorld Client :=
  ⟨(world.stepped yaml python requests turn).2.1, (world.stepped yaml python requests turn).2.2,
    Function.update world.phase turn.client (world.stepped yaml python requests turn).1⟩

def wizards : Machine (SetupWorld Client) (SetupTurn Client) Unit where
  step world turn := (advanceSetup yaml python requests world turn, ())

def arriveSetup (files : ConfigFiles) (settings : Settings) : SetupWorld Client := ⟨files, settings, fun _ => .received⟩

def SetupPhase.wrote : SetupPhase → Option String
  | .written token => some token
  | .reloaded token => some token
  | .answered (.ok response) => some response.adminToken
  | _ => none

def SetupPhase.writes (request : SetupRequest) (settings : Settings) : SetupPhase → Prop
  | .opened _ config => ∃ key, expectedKey config settings = .ok key ∧ key.truthy = false
  | .keyed body config key => ∃ edited, body.edit config key (request.token body) = .ok edited
  | _ => False

def WritesAlone (world : SetupWorld Client) (turn : SetupTurn Client) : Prop :=
  (world.phase turn.client).writes (requests turn.client) world.settings →
    ∀ other, other ≠ turn.client → (world.phase other).wrote = none

def SetupReadsBack (world : SetupWorld Client) (turn : SetupTurn Client) : Prop :=
  ∀ body config key edited, world.phase turn.client = .keyed body config key →
    body.edit config key ((requests turn.client).token body) = .ok edited → yaml.Reads edited

-- A file that holds the configuration some request wrote with this token.
def Owned (token : String) (files : ConfigFiles) : Prop :=
  ∃ body config, Completed body token config ∧ opened yaml files.main = .ok config

def SetupPhase.past : SetupPhase → Bool
  | .written _ => true
  | .reloaded _ => true
  | .answered _ => true
  | _ => false

def SetupPhase.loaded : SetupPhase → Bool
  | .reloaded _ => true
  | .answered (.ok _) => true
  | _ => false

-- At most one request is past its write. The file is its own, and so are the
-- settings once it has loaded them.
structure OneOwner (world : SetupWorld Client) : Prop where
  alone : ∀ first second one two, (world.phase first).wrote = some one → (world.phase second).wrote = some two → first = second
  owned : ∀ client token, (world.phase client).wrote = some token → Owned yaml token world.files
  loaded : ∀ client token, (world.phase client).wrote = some token → (world.phase client).loaded = true →
    world.settings .adminToken = .str token

structure AtMostOnce (world : SetupWorld Client) : Prop where
  once : ∀ first second one two, world.phase first = .answered (.ok one) →
    world.phase second = .answered (.ok two) → first = second
  inFile : ∀ client response, world.phase client = .answered (.ok response) →
    ∃ config, opened yaml world.files.main = .ok config ∧ adminToken config = .ok (.str response.adminToken)
  inSettings : ∀ client response, world.phase client = .answered (.ok response) →
    world.settings .adminToken = .str response.adminToken

omit [DecidableEq Client] in
theorem one_owner_once (world : SetupWorld Client) (owner : OneOwner yaml world) : AtMostOnce yaml world := by
  constructor
  · intro first second one two answeredOne answeredTwo
    exact owner.alone first second one.adminToken two.adminToken (by rw [answeredOne]; rfl) (by rw [answeredTwo]; rfl)
  · intro client response answered
    obtain ⟨body, config, completed, parsed⟩ := owner.owned client response.adminToken (by rw [answered]; rfl)
    exact ⟨config, parsed, completed.token⟩
  · intro client response answered
    exact owner.loaded client response.adminToken (by rw [answered]; rfl) (by rw [answered]; rfl)

inductive Stepped (request : SetupRequest) (files : ConfigFiles) (settings : Settings) (phase : SetupPhase)
    (after : SetupPhase × ConfigFiles × Settings) : Prop where
  | quiet (files_eq : after.2.1 = files) (settings_eq : after.2.2 = settings)
      (kept : ∀ token, after.1.wrote = some token → phase.wrote = some token ∧ (after.1.loaded = true → phase.loaded = true))
  | writes (reaches : phase.writes request settings) (settings_eq : after.2.2 = settings) (unloaded : after.1.loaded = false)
      (owned : ∀ token, after.1.wrote = some token → Owned yaml token after.2.1)
  | loads (files_eq : after.2.1 = files) (token : String) (phase_eq : phase = .written token)
      (kept : ∀ other, after.1.wrote = some other → other = token)
      (loaded : ∀ other, after.1.wrote = some other → Owned yaml token files → after.2.2 .adminToken = .str token)

omit [DecidableEq Client] in
theorem stepped_refused (request : SetupRequest) (files : ConfigFiles) (settings : Settings) (phase : SetupPhase)
    (refusal : HTTPException) : Stepped yaml request files settings phase (refused refusal, files, settings) :=
  .quiet rfl rfl fun _ written => by cases written

theorem check_key_wrote (body : SetupCompleteRequest) (config key : Value) :
    (checkKey body config key).wrote = none ∧ (checkKey body config key).loaded = false := by
  rw [checkKey]
  split
  · exact ⟨rfl, rfl⟩
  · split <;> exact ⟨rfl, rfl⟩

theorem opened_stepped (request : SetupRequest) (faults : SetupFaults) (files : ConfigFiles) (settings : Settings)
    (body : SetupCompleteRequest) (config : Value) :
    Stepped yaml request files settings (.opened body config)
      ((SetupPhase.opened body config).step yaml python request faults files settings) := by
  rw [SetupPhase.step]
  cases expected : expectedKey config settings with
  | error raised => exact stepped_refused yaml request files settings _ _
  | ok key =>
      by_cases configured : key.truthy = true
      · have waits := check_key_wrote body config key
        simp only [configured, if_true]
        generalize checkKey body config key = next at waits
        exact .quiet rfl rfl fun token written => absurd (waits.1.symm.trans written) (by simp)
      · have unset : key.truthy = false := by simpa using configured
        have reaches : (SetupPhase.opened body config).writes request settings := ⟨key, expected, unset⟩
        simp only [unset, Bool.false_eq_true, if_false]
        split
        · exact .writes reaches rfl rfl fun token written => by cases written
        · rename_i held drawn left _
          have waits := check_key_wrote body held drawn
          generalize checkKey body held drawn = next at waits
          exact .writes reaches rfl waits.2 fun token written => absurd (waits.1.symm.trans written) (by simp)

theorem keyed_stepped (request : SetupRequest) (faults : SetupFaults) (files : ConfigFiles) (settings : Settings)
    (body : SetupCompleteRequest) (config key : Value)
    (reads : ∀ edited, body.edit config key (request.token body) = .ok edited → yaml.Reads edited) :
    Stepped yaml request files settings (.keyed body config key)
      ((SetupPhase.keyed body config key).step yaml python request faults files settings) := by
  rw [SetupPhase.step]
  cases edits : body.edit config key (request.token body) with
  | error refusal => exact stepped_refused yaml request files settings _ refusal
  | ok edited =>
      have reaches : (SetupPhase.keyed body config key).writes request settings := ⟨edited, edits⟩
      have landed := write_ok yaml faults.disk files edited
      simp only
      generalize writeConfig yaml faults.disk files edited = written at landed
      obtain ⟨result, left⟩ := written
      cases result with
      | error raised => exact .writes reaches rfl rfl fun token written => by cases written
      | ok done =>
          refine .writes reaches rfl rfl fun token chosen => ?_
          cases chosen
          exact ⟨body, edited, edit_completed body config key edited _ edits, by rw [landed rfl]; exact reads edited edits⟩

theorem written_stepped (request : SetupRequest) (faults : SetupFaults) (files : ConfigFiles)
    (settings : Settings) (token : String) :
    Stepped yaml request files settings (.written token)
      ((SetupPhase.written token).step yaml python request faults files settings) := by
  rw [SetupPhase.step]
  cases reload : reloadSettings yaml files settings with
  | mk result after =>
      cases result with
      | error raised => exact .loads rfl token rfl (fun _ written => by cases written) fun _ written => by cases written
      | ok done =>
          refine .loads rfl token rfl (fun other kept => (Option.some.inj kept).symm) fun _ _ owned => ?_
          obtain ⟨body, config, completed, parsed⟩ := owned
          have takes := (reload_takes_iff yaml files settings).mp (by rw [reload])
          obtain ⟨reloads, shaped⟩ := (takes_parsed yaml files.main config parsed completed.usable).mp takes
          have applied := reload_parsed yaml files settings config parsed completed.usable reloads
          have after_eq : after = (apply config settings).2 := by rw [← applied, reload]
          rw [after_eq]
          exact (completed_settings body token config settings completed shaped).2.2.1

theorem reloaded_stepped (request : SetupRequest) (faults : SetupFaults) (files : ConfigFiles)
    (settings : Settings) (token : String) :
    Stepped yaml request files settings (.reloaded token)
      ((SetupPhase.reloaded token).step yaml python request faults files settings) := by
  rw [SetupPhase.step]
  split
  · exact stepped_refused yaml request files settings _ applyFailed
  · split
    · exact stepped_refused yaml request files settings _ applyFailed
    · refine .quiet rfl rfl fun other written => ?_
      refine ⟨?_, fun _ => rfl⟩
      rw [setupResponse] at written
      split at written
      · exact written
      · cases written

theorem setup_stepped (request : SetupRequest) (faults : SetupFaults) (files : ConfigFiles)
    (settings : Settings) (phase : SetupPhase)
    (reads : ∀ body config key edited, phase = .keyed body config key →
      body.edit config key (request.token body) = .ok edited → yaml.Reads edited) :
    Stepped yaml request files settings phase (phase.step yaml python request faults files settings) := by
  cases phase with
  | received =>
      rw [SetupPhase.step]
      split
      · exact stepped_refused yaml request files settings _ _
      · exact stepped_refused yaml request files settings _ _
      · split
        · exact stepped_refused yaml request files settings _ setupCompleted
        · exact .quiet rfl rfl fun _ written => by cases written
  | checked body =>
      rw [SetupPhase.step]
      split
      · exact stepped_refused yaml request files settings _ internalServerError
      · exact .quiet rfl rfl fun _ written => by cases written
  | opened body config => exact opened_stepped yaml python request faults files settings body config
  | keyed body config key =>
      exact keyed_stepped yaml python request faults files settings body config key fun edited => reads body config key edited rfl
  | written token => exact written_stepped yaml python request faults files settings token
  | reloaded token => exact reloaded_stepped yaml python request faults files settings token
  | answered answer => exact .quiet rfl rfl fun _ written => ⟨written, id⟩

section Run

variable (world : SetupWorld Client) (turn : SetupTurn Client)

theorem stepped_stays (other : Client) (apart : other ≠ turn.client) :
    (advanceSetup yaml python requests world turn).phase other = world.phase other := Function.update_of_ne apart _ _

theorem stepped_moves :
    (advanceSetup yaml python requests world turn).phase turn.client = (world.stepped yaml python requests turn).1 :=
  Function.update_self ..

theorem quiet_owner (owner : OneOwner yaml world) (files_eq : (world.stepped yaml python requests turn).2.1 = world.files)
    (kept : ∀ token, (world.stepped yaml python requests turn).1.wrote = some token →
      (world.phase turn.client).wrote = some token)
    (loaded : ∀ client token, ((advanceSetup yaml python requests world turn).phase client).wrote = some token →
      ((advanceSetup yaml python requests world turn).phase client).loaded = true →
      (world.stepped yaml python requests turn).2.2 .adminToken = .str token) :
    OneOwner yaml (advanceSetup yaml python requests world turn) := by
  have before : ∀ client token, ((advanceSetup yaml python requests world turn).phase client).wrote = some token →
      (world.phase client).wrote = some token := by
    intro client token written
    by_cases same : client = turn.client
    · rw [same] at written ⊢
      rw [stepped_moves] at written
      exact kept token written
    · rwa [stepped_stays yaml python requests world turn client same] at written
  constructor
  · intro first second one two writtenOne writtenTwo
    exact owner.alone first second one two (before first one writtenOne) (before second two writtenTwo)
  · intro client token written
    have owned := owner.owned client token (before client token written)
    rw [← files_eq] at owned
    exact owned
  · exact loaded

-- Where nobody else is past a write, only the stepping request can own the file.
theorem lone_owner (lone : ∀ other, other ≠ turn.client → (world.phase other).wrote = none)
    (owned : ∀ token, (world.stepped yaml python requests turn).1.wrote = some token →
      Owned yaml token (world.stepped yaml python requests turn).2.1)
    (loaded : ∀ token, (world.stepped yaml python requests turn).1.wrote = some token →
      (world.stepped yaml python requests turn).1.loaded = true →
      (world.stepped yaml python requests turn).2.2 .adminToken = .str token) :
    OneOwner yaml (advanceSetup yaml python requests world turn) := by
  have mine : ∀ client token, ((advanceSetup yaml python requests world turn).phase client).wrote = some token →
      client = turn.client := by
    intro client token written
    by_contra apart
    rw [stepped_stays yaml python requests world turn client apart, lone client apart] at written
    cases written
  constructor
  · intro first second one two writtenOne writtenTwo
    rw [mine first one writtenOne, mine second two writtenTwo]
  · intro client token written
    rw [mine client token written, stepped_moves] at written
    exact owned token written
  · intro client token written reloaded
    have same := mine client token written
    rw [same, stepped_moves] at written reloaded
    exact loaded token written reloaded

theorem step_owner (alone : WritesAlone requests world turn) (readsBack : SetupReadsBack yaml requests world turn)
    (owner : OneOwner yaml world) : OneOwner yaml (advanceSetup yaml python requests world turn) := by
  have stepped := setup_stepped yaml python (requests turn.client) turn.faults world.files world.settings
    (world.phase turn.client) readsBack
  cases stepped with
  | quiet files_eq settings_eq kept =>
      refine quiet_owner yaml python requests world turn owner files_eq (fun token written => (kept token written).1) ?_
      intro client token written reloaded
      refine Eq.trans (congrFun settings_eq _) ?_
      by_cases same : client = turn.client
      · rw [same, stepped_moves] at written reloaded
        exact owner.loaded turn.client token (kept token written).1 ((kept token written).2 reloaded)
      · rw [stepped_stays yaml python requests world turn client same] at written reloaded
        exact owner.loaded client token written reloaded
  | writes reaches settings_eq unloaded owned =>
      refine lone_owner yaml python requests world turn (alone reaches) owned fun token written reloaded => ?_
      exact absurd (unloaded.symm.trans reloaded) (by simp)
  | loads files_eq token phase_eq kept loaded =>
      have past : (world.phase turn.client).wrote = some token := by rw [phase_eq]; rfl
      have owned := owner.owned turn.client token past
      have lone : ∀ other, other ≠ turn.client → (world.phase other).wrote = none := by
        intro other apart
        cases written : (world.phase other).wrote with
        | none => rfl
        | some one => exact absurd (owner.alone other turn.client one token written past) apart
      refine lone_owner yaml python requests world turn lone (fun other written => ?_) fun other written _ => ?_
      · rw [kept other written]
        exact files_eq ▸ owned
      · rw [kept other written]
        exact loaded other written owned

end Run

theorem setup_succeeds_once (files : ConfigFiles) (settings : Settings) (earlier later : List (SetupTurn Client))
    (alone : ∀ moment ∈ (wizards yaml python requests).trace (arriveSetup files settings) (earlier ++ later),
      WritesAlone requests moment.before moment.event)
    (readsBack : ∀ moment ∈ (wizards yaml python requests).trace (arriveSetup files settings) (earlier ++ later),
      SetupReadsBack yaml requests moment.before moment.event) :
    AtMostOnce yaml ((wizards yaml python requests).final (arriveSetup files settings) earlier) := by
  have arrived : OneOwner yaml (arriveSetup files settings : SetupWorld Client) := by
    constructor
    · intro first second one two written
      cases written
    · intro client token written
      cases written
    · intro client token written
      cases written
  refine one_owner_once yaml _ ((wizards yaml python requests).invariant_along (OneOwner yaml)
    (fun world turn => WritesAlone requests world turn ∧ SetupReadsBack yaml requests world turn)
    (fun world turn clear => step_owner yaml python requests world turn clear.1 clear.2) _ earlier ?_ arrived)
  intro moment member
  have early := Machine.trace_prefix _ _ earlier later moment member
  exact ⟨alone moment early, readsBack moment early⟩

section Example

variable (faults : SetupFaults)

def keySetup : SetupRequest := setupWith "first-key"

inductive Solo : SetupPhase → ConfigFiles → Settings → Prop where
  | received : Solo .received freshFiles freshSettings
  | checked : Solo (.checked keySetup.body) freshFiles freshSettings
  | opened : Solo (.opened keySetup.body (freshConfig "first-key")) freshFiles freshSettings
  | keyed : Solo (.keyed keySetup.body (freshConfig "first-key") (.str "first-key")) freshFiles freshSettings
  | past (phase : SetupPhase) (files : ConfigFiles) (settings : Settings) (done : phase.past = true) : Solo phase files settings

theorem received_solo : SetupPhase.received.step wizardYaml Api.asciiPython keySetup faults freshFiles freshSettings =
    (.checked keySetup.body, freshFiles, freshSettings) := by
  rw [SetupPhase.step, keySetup, wizard_valid "first-key"]
  rfl

theorem checked_solo :
    (SetupPhase.checked keySetup.body).step wizardYaml Api.asciiPython keySetup faults freshFiles freshSettings =
      (.opened keySetup.body (freshConfig "first-key"), freshFiles, freshSettings) := by
  rw [SetupPhase.step, read_usable wizardYaml freshFiles _ fresh_parsed rfl]

theorem opened_solo :
    (SetupPhase.opened keySetup.body
      (freshConfig "first-key")).step wizardYaml Api.asciiPython keySetup faults freshFiles freshSettings =
      (.keyed keySetup.body (freshConfig "first-key") (.str "first-key"), freshFiles, freshSettings) := by
  have expected : expectedKey (freshConfig "first-key") freshSettings = .ok (.str "first-key") := rfl
  have supplied : keySetup.body.suppliedKey = "first-key" := by decide +kernel
  have passes : checkKey keySetup.body (freshConfig "first-key") (.str "first-key") =
      .keyed keySetup.body (freshConfig "first-key") (.str "first-key") := by
    have compared : compareDigest "first-key" (.str "first-key") = .ok true := by decide +kernel
    rw [checkKey, supplied, if_neg (by decide), compared]
  rw [SetupPhase.step, expected]
  simp only [passes]
  rfl

theorem keyed_solo (files : ConfigFiles) (settings : Settings) (body : SetupCompleteRequest) (config key : Value) :
    ((SetupPhase.keyed body config key).step wizardYaml Api.asciiPython keySetup faults files settings).1.past = true := by
  rw [SetupPhase.step]
  split
  · rfl
  · split <;> rfl

theorem past_stays (phase : SetupPhase) (files : ConfigFiles) (settings : Settings) (done : phase.past = true) :
    (phase.step wizardYaml Api.asciiPython keySetup faults files settings).1.past = true := by
  cases phase with
  | written token =>
      rw [SetupPhase.step]
      split <;> rfl
  | reloaded token =>
      rw [SetupPhase.step]
      split
      · rfl
      · split <;> rfl
  | answered answer => rfl
  | _ => cases done

theorem solo_step (phase : SetupPhase) (files : ConfigFiles) (settings : Settings) (solo : Solo phase files settings) :
    Solo (phase.step wizardYaml Api.asciiPython keySetup faults files settings).1
      (phase.step wizardYaml Api.asciiPython keySetup faults files settings).2.1
      (phase.step wizardYaml Api.asciiPython keySetup faults files settings).2.2 := by
  cases solo with
  | received =>
      rw [received_solo]
      exact .checked
  | checked =>
      rw [checked_solo]
      exact .opened
  | opened =>
      rw [opened_solo]
      exact .keyed
  | keyed => exact .past _ _ _ (keyed_solo faults freshFiles freshSettings _ _ _)
  | past phase files settings done => exact .past _ _ _ (past_stays faults phase files settings done)

def oneAlone : List (SetupTurn Bool) := List.replicate 6 ⟨false, .fine, false⟩

theorem one_alone_holds :
    (fun world : SetupWorld Bool => world.phase true = .received ∧ Solo (world.phase false) world.files world.settings)
      ((wizards wizardYaml Api.asciiPython fun _ => keySetup).final (arriveSetup freshFiles freshSettings) oneAlone) ∧
    ∀ moment ∈ (wizards wizardYaml Api.asciiPython fun _ => keySetup).trace (arriveSetup freshFiles freshSettings) oneAlone,
      moment.before.phase true = .received ∧ Solo (moment.before.phase false) moment.before.files moment.before.settings :=
  (wizards wizardYaml Api.asciiPython fun _ => keySetup).invariant_run
    (fun world => world.phase true = .received ∧ Solo (world.phase false) world.files world.settings)
    (fun turn => turn.client = false) (fun world turn mine kept => by
      obtain ⟨client, faults⟩ := turn
      cases mine
      have stays := stepped_stays wizardYaml Api.asciiPython (fun _ => keySetup) world ⟨false, faults⟩ true (by simp)
      exact ⟨stays.trans kept.1, solo_step faults _ _ _ kept.2⟩)
    _ oneAlone (fun turn member => by rw [List.eq_of_mem_replicate member]) ⟨rfl, .received⟩

theorem one_alone_clear (moment : Machine.Moment (SetupWorld Bool) (SetupTurn Bool) Unit)
    (member : moment ∈ (wizards wizardYaml Api.asciiPython fun _ => keySetup).trace
      (arriveSetup freshFiles freshSettings) oneAlone) :
    WritesAlone (fun _ => keySetup) moment.before moment.event ∧
      SetupReadsBack wizardYaml (fun _ => keySetup) moment.before moment.event := by
  have during := one_alone_holds.2 moment member
  have mine : moment.event.client = false := by
    have seen := List.mem_map_of_mem (f := Machine.Moment.event) member
    rw [Machine.trace_events] at seen
    rw [List.eq_of_mem_replicate seen]
  constructor
  · intro _ other apart
    rw [mine] at apart
    rw [Bool.not_eq_false other |>.mp apart, during.1]
    rfl
  · intro body config key edited waiting edits
    rw [mine] at waiting
    have solo := during.2
    rw [waiting] at solo
    generalize moment.before.files = files, moment.before.settings = settings at solo
    cases solo with
    | keyed =>
        cases (wizard_edit "first-key" "first-key").symm.trans edits
        exact wizard_document (chosenConfig "first-key") (by simp [wizardDocuments])
    | past _ _ _ done => cases done

def oneThenAnother : List (SetupTurn Bool) := oneAlone ++ [⟨true, .fine, false⟩]

theorem one_then_another_clear (moment : Machine.Moment (SetupWorld Bool) (SetupTurn Bool) Unit)
    (member : moment ∈ (wizards wizardYaml Api.asciiPython fun _ => keySetup).trace
      (arriveSetup freshFiles freshSettings) oneThenAnother) :
    WritesAlone (fun _ => keySetup) moment.before moment.event ∧
      SetupReadsBack wizardYaml (fun _ => keySetup) moment.before moment.event := by
  rw [oneThenAnother, Machine.trace_append, List.mem_append] at member
  rcases member with early | late
  · exact one_alone_clear moment early
  · have waiting : ((wizards wizardYaml Api.asciiPython fun _ => keySetup).final
      (arriveSetup freshFiles freshSettings) oneAlone).phase
        true = .received := one_alone_holds.1.1
    rw [Machine.trace_one, List.mem_singleton] at late
    rw [late]
    constructor
    · intro writing
      rw [waiting] at writing
      cases writing
    · intro body config key edited keyed
      rw [waiting] at keyed
      cases keyed

def lockstep : List (SetupTurn Bool) := (List.replicate 6 [⟨false, .fine, false⟩, ⟨true, .fine, false⟩]).flatten

def succeeded : SetupPhase → Bool
  | .answered (.ok _) => true
  | _ => false

theorem one_then_another_once :
    AtMostOnce wizardYaml
      ((wizards wizardYaml Api.asciiPython fun _ => keySetup).final (arriveSetup freshFiles freshSettings) oneThenAnother) ∧
    (fun world : SetupWorld Bool => succeeded (world.phase false) && (world.phase true).past && !succeeded (world.phase true))
      ((wizards wizardYaml Api.asciiPython fun _ => keySetup).final
        (arriveSetup freshFiles freshSettings) oneThenAnother) = true :=
  ⟨setup_succeeds_once wizardYaml Api.asciiPython (fun _ => keySetup) freshFiles freshSettings oneThenAnother []
    (fun moment member => (one_then_another_clear moment (by rwa [List.append_nil] at member)).1)
    (fun moment member => (one_then_another_clear moment (by rwa [List.append_nil] at member)).2), by decide +kernel⟩

theorem two_setups_succeed : ∀ client, succeeded (((wizards wizardYaml Api.asciiPython fun _ : Bool => keySetup).final
    (arriveSetup freshFiles freshSettings) lockstep).phase client) = true := by
  decide +kernel

theorem setup_succeeds_twice : ¬ AtMostOnce wizardYaml
    ((wizards wizardYaml Api.asciiPython fun _ : Bool => keySetup).final (arriveSetup freshFiles freshSettings) lockstep) := by
  intro once
  have answers : ∀ phase, succeeded phase = true → ∃ response, phase = .answered (.ok response) := by
    intro phase success
    cases phase with
    | answered answer =>
        cases answer with
        | error refusal => cases success
        | ok response => exact ⟨response, rfl⟩
    | _ => cases success
  obtain ⟨one, answeredOne⟩ := answers _ (two_setups_succeed false)
  obtain ⟨two, answeredTwo⟩ := answers _ (two_setups_succeed true)
  exact Bool.false_ne_true (once.once false true one two answeredOne answeredTwo)

end Example

end Tempmail.Config
