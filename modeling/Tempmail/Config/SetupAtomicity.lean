import Tempmail.Config.Rollback
import Tempmail.Config.Setup

set_option autoImplicit false

namespace Tempmail.Config

open Api (HTTPException Python internalServerError unprocessable)

variable (yaml : Yaml) (python : Python)

-- One request run without interruption: the six steps, the third and fourth of
-- which write.
def completeSetup (request : SetupRequest) (ensure write : Disk) (webFails : Bool) (files : ConfigFiles) (settings : Settings) :
    SetupPhase × ConfigFiles × Settings :=
  [⟨.fine, false⟩, ⟨.fine, false⟩, ⟨ensure, false⟩, ⟨write, false⟩, ⟨.fine, false⟩, ⟨.fine, webFails⟩].foldl
    (fun (current : SetupPhase × ConfigFiles × Settings) faults =>
      current.1.step yaml python request faults current.2.1 current.2.2) (.received, files, settings)

def Uninitialized (config : Value) : Prop := ∃ flag, initialized config = .ok flag ∧ flag.truthy = false

def KeepsView (config : Value) (file : Option (List UInt8)) : Prop :=
  ∃ parsed, opened yaml file = .ok parsed ∧ Uninitialized parsed ∧ adminToken parsed = adminToken config

def proceed (request : SetupRequest) (current : SetupPhase × ConfigFiles × Settings) (steps : List SetupFaults) :
    SetupPhase × ConfigFiles × Settings :=
  steps.foldl (fun current faults => current.1.step yaml python request faults current.2.1 current.2.2) current

theorem proceed_cons (request : SetupRequest) (phase : SetupPhase) (files : ConfigFiles) (settings : Settings)
    (faults : SetupFaults) (rest : List SetupFaults) :
    proceed yaml python request (phase, files, settings) (faults :: rest) =
      proceed yaml python request (phase.step yaml python request faults files settings) rest := rfl

theorem proceed_answered (request : SetupRequest) (answer : Except HTTPException SetupCompleteResponse) (files : ConfigFiles)
    (settings : Settings) (steps : List SetupFaults) :
    proceed yaml python request (.answered answer, files, settings) steps = (.answered answer, files, settings) := by
  induction steps with
  | nil => rfl
  | cons faults rest ih => exact ih

theorem section_mapping (config value : Value) (name : Attribute) (outer key : String) (fallback : Value)
    (offers : (Assignment.nested name outer key fallback).offered config = .ok value) :
    ∃ entries, config.get outer (.map []) = .ok (.map entries) := by
  obtain ⟨nested, present, read⟩ := bind_ok _ _ _ offers
  cases nested with
  | map entries => exact ⟨entries, present⟩
  | _ => cases read

theorem or_empty_get (entries : List (Key × Value)) (key : String) (fallback : Value) :
    ∃ value, (orEmpty (.map entries)).get key fallback = .ok value := by
  rw [orEmpty]
  split
  · exact ⟨_, rfl⟩
  · exact ⟨_, rfl⟩

theorem shaped_web (config : Value) (shaped : wellShaped config assignments) : webConfig config = .ok () := by
  obtain ⟨_, webOffers⟩ := shaped (.nested .webHostname "web" "hostname" (.str "")) (List.mem_of_getElem? (i := 28) rfl)
  obtain ⟨_, serverOffers⟩ :=
    shaped (.nested .docsEnabled "server" "docs_enabled" (.bool true)) (List.mem_of_getElem? (i := 11) rfl)
  obtain ⟨_, tlsOffers⟩ := shaped (.nested .tlsEnabled "tls" "enabled" (.bool false)) (List.mem_of_getElem? (i := 25) rfl)
  obtain ⟨web, webMap⟩ := section_mapping config _ _ _ _ _ webOffers
  obtain ⟨server, serverMap⟩ := section_mapping config _ _ _ _ _ serverOffers
  obtain ⟨tls, tlsMap⟩ := section_mapping config _ _ _ _ _ tlsOffers
  obtain ⟨_, hostname⟩ := or_empty_get web "hostname" (.str "")
  obtain ⟨_, allowed⟩ := or_empty_get web "allow_ip_access" (.bool true)
  obtain ⟨_, enabled⟩ := or_empty_get tls "enabled" .null
  obtain ⟨_, docs⟩ := or_empty_get server "docs_enabled" (.bool true)
  simp only [webConfig, webMap, serverMap, tlsMap, hostname, allowed, enabled, docs, bind, Except.bind]

theorem strings_words (items : List String) : strings (words items) = some items := by
  simp only [words, strings]
  induction items with
  | nil => rfl
  | cons item rest ih => simp [ih]

theorem completed_settings (body : SetupCompleteRequest) (token : String) (config : Value) (settings : Settings)
    (completed : Completed body token config) (shaped : wellShaped config assignments) :
    (apply config settings).2 .domains = words body.domains ∧ (apply config settings).2 .hostname = .str body.hostname ∧
      (apply config settings).2 .adminToken = .str token ∧ (apply config settings).2 .setupInitialized = .bool true :=
  ⟨assigned_value config _ settings 0 (.top .domains "domains" (.list [])) rfl rfl shaped completed.domains,
    assigned_value config _ settings 10 (.nested .hostname "server" "hostname" (.str "mail.tempmail.local")) rfl rfl shaped
      completed.hostname,
    assigned_value config _ settings 1 (.nested .adminToken "admin" "token" (.str "")) rfl rfl shaped completed.token,
    assigned_value config _ settings 2 (.nested .setupInitialized "setup" "initialized" (.bool false)) rfl rfl shaped
      completed.initialized⟩

-- From a written configuration on, only a reload and a web config that both go
-- through lead to a success.
theorem written_rest (request : SetupRequest) (body : SetupCompleteRequest) (token : String) (edited : Value) (webFails : Bool)
    (files : ConfigFiles) (settings : Settings) (parsed : opened yaml files.main = .ok edited)
    (completed : Completed body token edited) :
    (Takes yaml files.main ∧ webFails = false →
      ∃ response, (proceed yaml python request (.written token, files, settings) [⟨.fine, false⟩, ⟨.fine, webFails⟩]).1 =
        .answered (.ok response)) ∧
    (¬ (Takes yaml files.main ∧ webFails = false) →
      (proceed yaml python request (.written token, files, settings) [⟨.fine, false⟩, ⟨.fine, webFails⟩]).1 =
        refused applyFailed) ∧
    (proceed yaml python request (.written token, files, settings) [⟨.fine, false⟩, ⟨.fine, webFails⟩]).2.1 = files := by
  have reloads := reload_takes_iff yaml files settings
  have takes_iff := takes_parsed yaml files.main edited parsed completed.usable
  by_cases takes : Takes yaml files.main
  · obtain ⟨reloadableEdited, shaped⟩ := takes_iff.mp takes
    have loaded := reload_parsed yaml files settings edited parsed completed.usable reloadableEdited
    obtain ⟨domains, hostname, -, -⟩ := completed_settings body token edited settings completed shaped
    have done := reloads.mpr takes
    have read : readConfig yaml files >>= webConfig = .ok () := by
      rw [read_usable yaml files edited parsed completed.usable]
      exact shaped_web edited shaped
    have responds : setupResponse (apply edited settings).2 token = .ok ⟨token, body.domains, body.hostname⟩ := by
      simp only [setupResponse, domains, hostname, strings_words]
    rw [loaded] at done
    have stepped : (SetupPhase.written token).step yaml python request ⟨.fine, false⟩ files settings =
        (.reloaded token, files, (apply edited settings).2) := by
      rw [SetupPhase.step, loaded, ← Prod.mk.eta (p := apply edited settings), done]
    have finished : (SetupPhase.reloaded token).step yaml python request ⟨.fine, webFails⟩ files (apply edited settings).2 =
        if webFails then (refused applyFailed, files, (apply edited settings).2)
        else (.answered (.ok ⟨token, body.domains, body.hostname⟩), files, (apply edited settings).2) := by
      simp only [SetupPhase.step, read, responds]
    rw [proceed_cons, stepped, proceed_cons, finished]
    cases webFails with
    | true => exact ⟨fun went => absurd went.2 (by simp), fun _ => rfl, rfl⟩
    | false => exact ⟨fun _ => ⟨_, rfl⟩, fun failed => absurd ⟨takes, rfl⟩ failed, rfl⟩
  · have failed : ∃ raised, (reloadSettings yaml files settings).1 = .error raised := by
      cases answer : (reloadSettings yaml files settings).1 with
      | error raised => exact ⟨raised, rfl⟩
      | ok done => exact absurd (reloads.mp answer) takes
    obtain ⟨raised, failed⟩ := failed
    have stepped : (SetupPhase.written token).step yaml python request ⟨.fine, false⟩ files settings =
        (refused applyFailed, files, (reloadSettings yaml files settings).2) := by
      rw [SetupPhase.step, ← Prod.mk.eta (p := reloadSettings yaml files settings), failed]
    rw [proceed_cons, stepped]
    exact ⟨fun went => absurd went.1 takes, fun _ => rfl, rfl⟩

def Retriable (config : Value) (wrong : Prop) (result : SetupPhase × ConfigFiles × Settings) : Prop :=
  (∀ refusal, result.1 = refused refusal →
    KeepsView yaml config result.2.1.main ∧ (result.2.2 .setupInitialized).truthy = false) ∧
  (wrong → result.1 = refused invalidSetupKey)

def Comparable (supplied : String) (key : Value) : Prop :=
  isAscii supplied = true ∧ ∃ text, key = .str text ∧ isAscii text = true

-- What has to hold once the key to compare with is known: a wrong key is ASCII
-- and compared with ASCII, and the configuration a right key writes lands and is
-- applied, or leaves a file that still says uninitialized.
def Matched (request : SetupRequest) (body : SetupCompleteRequest) (write : Disk) (webFails : Bool) (config held key : Value)
    (file : Option (List UInt8)) : Prop :=
  (body.suppliedKey ≠ "" → Value.str body.suppliedKey ≠ key → Comparable body.suppliedKey key) ∧
  ∀ edited, body.suppliedKey ≠ "" → compareDigest body.suppliedKey key = .ok true →
    body.edit held key (request.token body) = .ok edited →
    (write.lands (yaml.safeDump edited) = true → Takes yaml (some (yaml.safeDump edited)) ∧ webFails = false) ∧
    (write.lands (yaml.safeDump edited) = false → KeepsView yaml config (write.written.over (yaml.safeDump edited) file))

theorem compare_ok (supplied : String) (key : Value) (same : Bool) (compared : compareDigest supplied key = .ok same) :
    Comparable supplied key ∧ (same = true ↔ Value.str supplied = key) := by
  cases key with
  | str text =>
      simp only [compareDigest] at compared
      split at compared
      · rename_i ascii
        rw [Bool.and_eq_true] at ascii
        cases compared
        exact ⟨⟨ascii.1, text, rfl, ascii.2⟩, by simp⟩
      · cases compared
  | _ => cases compared

theorem compare_error (supplied : String) (key : Value) (raised : Raised)
    (compared : compareDigest supplied key = .error raised) :
    ¬ Comparable supplied key := by
  intro ⟨ascii, text, same, plain⟩
  subst same
  simp [compareDigest, ascii, plain] at compared

theorem retriable_refused (config : Value) (wrong : Prop) (refusal : HTTPException) (files : ConfigFiles) (settings : Settings)
    (kept : KeepsView yaml config files.main) (waiting : (settings .setupInitialized).truthy = false) :
    Retriable yaml config wrong (refused refusal, files, settings) ↔ (wrong → refusal = invalidSetupKey) := by
  have answers : refused refusal = refused invalidSetupKey ↔ refusal = invalidSetupKey := by simp [refused]
  rw [Retriable, answers]
  exact ⟨fun both => both.2, fun wrongly => ⟨fun _ _ => ⟨kept, waiting⟩, wrongly⟩⟩

-- The step that writes the configuration, and what follows it.
theorem write_retriable_iff (request : SetupRequest) (body : SetupCompleteRequest) (write : Disk) (webFails : Bool)
    (config edited : Value) (wrong : Prop) (files : ConfigFiles) (settings : Settings) (held key : Value)
    (right : ¬ wrong) (waiting : (settings .setupInitialized).truthy = false)
    (done : body.edit held key (request.token body) = .ok edited) (reads : yaml.Reads edited) :
    Retriable yaml config wrong (proceed yaml python request (.keyed body held key, files, settings)
        [⟨write, false⟩, ⟨.fine, false⟩, ⟨.fine, webFails⟩]) ↔
      (write.lands (yaml.safeDump edited) = true → Takes yaml (some (yaml.safeDump edited)) ∧ webFails = false) ∧
      (write.lands (yaml.safeDump edited) = false →
        KeepsView yaml config (write.written.over (yaml.safeDump edited) files.main)) := by
  have lands := write_lands_iff yaml write files edited
  have main := write_ok yaml write files edited
  have torn := write_main yaml write files edited
  rw [proceed_cons, SetupPhase.step, done]
  dsimp only
  generalize writeConfig yaml write files edited = result at lands main torn
  obtain ⟨answer, left⟩ := result
  cases answer with
  | error raised =>
      have failed : write.lands (yaml.safeDump edited) = false := by simpa using lands.not.mp (by simp)
      dsimp only
      rw [refused, proceed_answered, Retriable]
      simp only [failed, Bool.false_eq_true, IsEmpty.forall_iff, true_and, forall_const, right]
      constructor
      · intro both
        rw [← torn]
        exact (both.1 internalServerError rfl).1
      · intro kept
        exact ⟨fun _ _ => ⟨by rw [torn]; exact kept, waiting⟩, trivial⟩
  | ok wrote =>
      have landed := lands.mp rfl
      have stored := main rfl
      dsimp only at stored ⊢
      have completed := edit_completed body held key edited (request.token body) done
      have parsed : opened yaml left.main = .ok edited := by
        rw [stored]
        exact reads
      obtain ⟨succeeds, fails, kept⟩ :=
        written_rest yaml python request body (request.token body) edited webFails left settings parsed
        completed
      rw [stored] at succeeds fails
      simp only [landed, forall_const, Bool.true_eq_false, IsEmpty.forall_iff, and_true]
      constructor
      · intro both
        by_contra failing
        obtain ⟨parsedAgain, reparsed, ⟨flag, isFlag, unset⟩, -⟩ := (both.1 applyFailed (fails failing)).1
        rw [kept, parsed, Except.ok.injEq] at reparsed
        rw [← reparsed, completed.initialized, Except.ok.injEq] at isFlag
        rw [← isFlag] at unset
        cases unset
      · intro went
        obtain ⟨response, answered⟩ := succeeds went
        refine ⟨fun refusal isRefused => ?_, fun isWrong => absurd isWrong right⟩
        rw [answered] at isRefused
        cases isRefused

theorem compare_retriable_iff (request : SetupRequest) (body : SetupCompleteRequest) (write : Disk) (webFails : Bool)
    (config held key : Value) (files : ConfigFiles) (settings : Settings) (kept : KeepsView yaml config files.main)
    (waiting : (settings .setupInitialized).truthy = false)
    (reads : ∀ edited, body.edit held key (request.token body) = .ok edited → yaml.Reads edited) :
    Retriable yaml config (Value.str body.suppliedKey ≠ key)
      (proceed yaml python request (checkKey body held key, files, settings)
        [⟨write, false⟩, ⟨.fine, false⟩, ⟨.fine, webFails⟩]) ↔
      Matched yaml request body write webFails config held key files.main := by
  rw [checkKey, Matched]
  by_cases missing : body.suppliedKey = ""
  · rw [if_pos missing, refused, proceed_answered]
    refine (retriable_refused yaml config _ invalidSetupKey files settings kept waiting).trans ?_
    simp [missing]
  · rw [if_neg missing]
    cases compared : compareDigest body.suppliedKey key with
    | error raised =>
        have uncomparable := compare_error body.suppliedKey key raised compared
        dsimp only
        rw [refused, proceed_answered]
        refine (retriable_refused yaml config _ internalServerError files settings kept waiting).trans ?_
        have apart : internalServerError ≠ invalidSetupKey := by decide
        simp [missing, uncomparable, apart]
    | ok same =>
        obtain ⟨comparable, same_iff⟩ := compare_ok body.suppliedKey key same compared
        cases same with
        | false =>
            dsimp only
            rw [refused, proceed_answered]
            refine (retriable_refused yaml config _ invalidSetupKey files settings kept waiting).trans ?_
            simp [comparable]
        | true =>
            have right : Value.str body.suppliedKey = key := same_iff.mp rfl
            dsimp only
            cases done : body.edit held key (request.token body) with
            | error refusal =>
                rw [proceed_cons, SetupPhase.step, done]
                dsimp only
                rw [refused, proceed_answered]
                refine (retriable_refused yaml config _ refusal files settings kept waiting).trans ?_
                simp [right]
            | ok edited =>
                refine (write_retriable_iff yaml python request body write webFails config edited _ files settings held key
                  (not_not.mpr right) waiting done (reads edited done)).trans ?_
                simp [missing, right]

def setupKeyOf (request : SetupRequest) (config : Value) (settings : Settings) : Except Raised Value := do
  let key ← expectedKey config settings
  .ok (if key.truthy then key else .str request.newKey)

def SetupAtomic (request : SetupRequest) (ensure write : Disk) (webFails : Bool) (files : ConfigFiles) (settings : Settings)
    (config : Value) : Prop :=
  (∀ refusal, (completeSetup yaml python request ensure write webFails files settings).1 = refused refusal →
    KeepsView yaml config (completeSetup yaml python request ensure write webFails files settings).2.1.main ∧
      ((completeSetup yaml python request ensure write webFails files settings).2.2 .setupInitialized).truthy = false) ∧
  ∀ body, request.dependencies = .ok () → request.body.validate python = .ok body →
    (∀ key, setupKeyOf request config settings = .ok key → Value.str body.suppliedKey ≠ key) →
    (completeSetup yaml python request ensure write webFails files settings).1 = refused invalidSetupKey

-- Where a key has to be drawn first, its write lands, or leaves a file that
-- still says uninitialized while the supplied key is the drawn one.
def SetupSafe (request : SetupRequest) (ensure write : Disk) (webFails : Bool) (files : ConfigFiles) (settings : Settings)
    (config : Value) : Prop :=
  ∀ body found, request.dependencies = .ok () → request.body.validate python = .ok body →
    expectedKey config settings = .ok found →
    (found.truthy = true → Matched yaml request body write webFails config config found files.main) ∧
    ∀ keyed, found.truthy = false → config.setNested "setup" "key" (.str request.newKey) = .ok keyed →
      (ensure.lands (yaml.safeDump keyed) = true →
        Matched yaml request body write webFails config keyed (.str request.newKey) (some (yaml.safeDump keyed))) ∧
      (ensure.lands (yaml.safeDump keyed) = false →
        KeepsView yaml config (ensure.written.over (yaml.safeDump keyed) files.main) ∧ body.suppliedKey = request.newKey)

theorem keyed_view (config keyed key : Value) (uninitialized : Uninitialized config)
    (set : config.setNested "setup" "key" key = .ok keyed) : Uninitialized keyed ∧ adminToken keyed = adminToken config := by
  obtain ⟨flag, isFlag, unset⟩ := uninitialized
  obtain ⟨wizard, filled, present, item, stored⟩ := set_nested_parts config keyed key "setup" "key" set
  refine ⟨⟨flag, ?_, unset⟩, ?_⟩
  · rw [initialized, set_item_get config keyed filled (.map []) "setup" stored]
    rw [initialized, present] at isFlag
    exact (set_item_frame wizard filled key (.bool false) "key" "initialized" (by decide) item).trans isFlag
  · rw [adminToken, adminToken, set_item_frame config keyed filled (.map []) "setup" "admin" (by decide) stored]

def Written (request : SetupRequest) (config : Value) (settings : Settings) (written : Value) : Prop :=
  config.setNested "setup" "key" (.str request.newKey) = .ok written ∨
    ∃ body, request.body.validate python = .ok body ∧
      ((∃ key, expectedKey config settings = .ok key ∧ body.edit config key (request.token body) = .ok written) ∨
        ∃ keyed, config.setNested "setup" "key" (.str request.newKey) = .ok keyed ∧
          body.edit keyed (.str request.newKey) (request.token body) = .ok written)

theorem setup_mapping (config : Value) (settings : Settings) (newKey : String) (uninitialized : Uninitialized config) :
    ∃ key, (config.get "setup" (.map []) >>= fun wizard => wizard.get "key" .null) = .ok key ∧
      expectedKey config settings = .ok (if key.truthy then key else settings .setupKey) ∧
      ∃ keyed, config.setNested "setup" "key" (.str newKey) = .ok keyed := by
  obtain ⟨flag, isFlag, -⟩ := uninitialized
  obtain ⟨wizard, present, read⟩ := bind_ok _ _ _ isFlag
  cases wizard with
  | map options =>
      cases config with
      | map entries =>
          refine ⟨_, by rw [present]; rfl, ?_, _, by rw [Value.setNested, present]; rfl⟩
          simp only [Value.get, Except.ok.injEq] at present
          cases found : entries.lookup (.str "setup") with
          | none =>
              rw [found, Option.getD_none, Value.map.injEq] at present
              simp [expectedKey, Value.get, found, ← present, orEmpty, Value.truthy, bind, Except.bind]
          | some stored =>
              rw [found, Option.getD_some] at present
              subst present
              cases options with
              | nil => simp [expectedKey, Value.get, found, orEmpty, Value.truthy, bind, Except.bind]
              | cons first rest => simp [expectedKey, Value.get, found, orEmpty, Value.truthy, bind, Except.bind]
      | _ => cases present
  | _ => cases read

theorem ensure_draws (disk : Disk) (newKey : String) (config key keyed : Value) (files : ConfigFiles)
    (found : (config.get "setup" (.map []) >>= fun wizard => wizard.get "key" .null) = .ok key) (unset : key.truthy = false)
    (set : config.setNested "setup" "key" (.str newKey) = .ok keyed) :
    ensureSetupKey yaml disk newKey config files =
      match writeConfig yaml disk files keyed with
      | (.ok (), left) => (.ok (keyed, .str newKey), left)
      | (.error raised, left) => (.error raised, left) := by
  rw [ensureSetupKey, found]
  exact (if_neg (by simp [unset])).trans (set ▸ rfl)

section Uninterrupted

variable (request : SetupRequest) (ensure write : Disk) (webFails : Bool) (files : ConfigFiles) (settings : Settings)
variable (config : Value)

theorem setup_refused_at_once (refusal : HTTPException) (kept : KeepsView yaml config files.main)
    (waiting : (settings .setupInitialized).truthy = false)
    (invalid : ∀ body, request.dependencies = .ok () → request.body.validate python ≠ .ok body)
    (stopped : SetupPhase.received.step yaml python request ⟨.fine, false⟩ files settings = (refused refusal, files, settings)) :
    SetupAtomic yaml python request ensure write webFails files settings config := by
  have ended : completeSetup yaml python request ensure write webFails files settings = (refused refusal, files, settings) := by
    change proceed yaml python request (.received, files, settings) _ = _
    rw [proceed_cons, stopped, refused, proceed_answered]
  rw [SetupAtomic, ended]
  exact ⟨fun _ _ => ⟨kept, waiting⟩, fun body passed valid => absurd valid (invalid body passed)⟩

theorem setup_reaches_key (body : SetupCompleteRequest) (passed : request.dependencies = .ok ())
    (valid : request.body.validate python = .ok body) (parsed : opened yaml files.main = .ok config)
    (usable : config.usable = true)
    (waiting : (settings .setupInitialized).truthy = false) :
    completeSetup yaml python request ensure write webFails files settings =
      proceed yaml python request (.opened body config, files, settings)
        [⟨ensure, false⟩, ⟨write, false⟩, ⟨.fine, false⟩, ⟨.fine, webFails⟩] := by
  change proceed yaml python request (.received, files, settings) _ = _
  rw [proceed_cons, SetupPhase.step, passed, valid]
  simp only [waiting, Bool.false_eq_true, if_false]
  rw [proceed_cons, SetupPhase.step, read_usable yaml files config parsed usable]

theorem atomic_retriable_iff (body : SetupCompleteRequest) (sought : Value) (passed : request.dependencies = .ok ())
    (valid : request.body.validate python = .ok body) (isSought : setupKeyOf request config settings = .ok sought) :
    SetupAtomic yaml python request ensure write webFails files settings config ↔
      Retriable yaml config (Value.str body.suppliedKey ≠ sought)
        (completeSetup yaml python request ensure write webFails files settings) := by
  simp [SetupAtomic, Retriable, passed, valid, isSought]

variable (parsed : opened yaml files.main = .ok config) (usable : config.usable = true) (uninitialized : Uninitialized config)
variable (waiting : (settings .setupInitialized).truthy = false)
variable (reads : ∀ written, Written python request config settings written → yaml.Reads written)

include parsed usable uninitialized waiting reads

theorem configured_key_iff (body : SetupCompleteRequest) (held : Value) (passed : request.dependencies = .ok ())
    (valid : request.body.validate python = .ok body) (expected : expectedKey config settings = .ok held)
    (configured : held.truthy = true) :
    SetupAtomic yaml python request ensure write webFails files settings config ↔
      Matched yaml request body write webFails config config held files.main := by
  have measured : setupKeyOf request config settings = .ok held := by simp [setupKeyOf, expected, configured, bind, Except.bind]
  rw [atomic_retriable_iff yaml python request ensure write webFails files settings config body held passed valid measured,
    setup_reaches_key yaml python request ensure write webFails files settings config body passed valid parsed usable waiting,
    proceed_cons, SetupPhase.step, expected]
  simp only [configured, if_true]
  exact compare_retriable_iff yaml python request body write webFails config config held files settings
    ⟨config, parsed, uninitialized, rfl⟩ waiting
    fun edited edits => reads edited (Or.inr ⟨body, valid, Or.inl ⟨held, expected, edits⟩⟩)

theorem drawn_key_iff (body : SetupCompleteRequest) (held keyed : Value) (passed : request.dependencies = .ok ())
    (valid : request.body.validate python = .ok body) (expected : expectedKey config settings = .ok held)
    (unset : held.truthy = false) (set : config.setNested "setup" "key" (.str request.newKey) = .ok keyed) :
    SetupAtomic yaml python request ensure write webFails files settings config ↔
      (ensure.lands (yaml.safeDump keyed) = true →
        Matched yaml request body write webFails config keyed (.str request.newKey) (some (yaml.safeDump keyed))) ∧
      (ensure.lands (yaml.safeDump keyed) = false →
        KeepsView yaml config (ensure.written.over (yaml.safeDump keyed) files.main) ∧ body.suppliedKey = request.newKey) := by
  have measured : setupKeyOf request config settings = .ok (.str request.newKey) := by
    simp [setupKeyOf, expected, unset, bind, Except.bind]
  obtain ⟨key, found, offered, -⟩ := setup_mapping config settings request.newKey uninitialized
  have undrawn : key.truthy = false := by
    rw [expected, Except.ok.injEq] at offered
    by_contra drawn
    rw [if_pos (by simpa using drawn)] at offered
    exact drawn (offered ▸ unset)
  obtain ⟨view, token⟩ := keyed_view config keyed (.str request.newKey) uninitialized set
  have ensured := ensure_draws yaml ensure request.newKey config key keyed files found undrawn set
  have lands := write_lands_iff yaml ensure files keyed
  have main := write_ok yaml ensure files keyed
  have torn := write_main yaml ensure files keyed
  rw [atomic_retriable_iff yaml python request ensure write webFails files settings config body _ passed valid measured,
    setup_reaches_key yaml python request ensure write webFails files settings config body passed valid parsed usable waiting,
    proceed_cons, SetupPhase.step, expected]
  simp only [unset, Bool.false_eq_true, if_false, ensured]
  generalize writeConfig yaml ensure files keyed = result at lands main torn
  obtain ⟨answer, left⟩ := result
  cases answer with
  | error raised =>
      have failed : ensure.lands (yaml.safeDump keyed) = false := by simpa using lands.not.mp (by simp)
      have apart : internalServerError ≠ invalidSetupKey := by decide
      dsimp only at torn ⊢
      rw [refused, proceed_answered, Retriable, ← torn]
      simp only [failed, Bool.false_eq_true, IsEmpty.forall_iff, true_and, forall_const]
      constructor
      · intro both
        refine ⟨(both.1 internalServerError rfl).1, ?_⟩
        by_contra wrong
        have wrongly : SetupPhase.answered (.error internalServerError) = refused invalidSetupKey :=
          both.2 fun same => wrong (by injection same)
        simp [refused, apart] at wrongly
      · intro both
        exact ⟨fun _ _ => ⟨both.1, waiting⟩, fun wrong => absurd (congrArg Value.str both.2) wrong⟩
  | ok wrote =>
      have landed := lands.mp rfl
      have stored := main rfl
      dsimp only at stored ⊢
      simp only [landed, forall_const, Bool.true_eq_false, IsEmpty.forall_iff, and_true]
      have keptKeyed : KeepsView yaml config left.main :=
        ⟨keyed, by rw [stored]; exact reads keyed (Or.inl set), view, token⟩
      rw [← stored]
      exact compare_retriable_iff yaml python request body write webFails config keyed (.str request.newKey) left settings
        keptKeyed waiting fun edited edits => reads edited (Or.inr ⟨body, valid, Or.inr ⟨keyed, set, edits⟩⟩)

-- For every uninitialized configuration, every request and however the writes,
-- the reload and the web configuration fare.
theorem setup_atomic_iff :
    SetupAtomic yaml python request ensure write webFails files settings config ↔
      SetupSafe yaml python request ensure write webFails files settings config := by
  have kept : KeepsView yaml config files.main := ⟨config, parsed, uninitialized, rfl⟩
  cases passed : request.dependencies with
  | error refusal =>
      have atomic := setup_refused_at_once yaml python request ensure write webFails files settings config refusal kept waiting
        (by simp [passed]) (by rw [SetupPhase.step, passed])
      simp [SetupSafe, passed, atomic]
  | ok done =>
      cases valid : request.body.validate python with
      | error message =>
          have atomic := setup_refused_at_once yaml python request ensure write webFails files settings config
            (unprocessable message) kept waiting (by simp [valid]) (by rw [SetupPhase.step, passed, valid])
          simp [SetupSafe, valid, atomic]
      | ok body =>
          obtain ⟨key, -, expected, keyed, set⟩ := setup_mapping config settings request.newKey uninitialized
          generalize (if key.truthy = true then key else settings .setupKey) = held at expected
          by_cases configured : held.truthy = true
          · rw [configured_key_iff yaml python request ensure write webFails files settings config parsed usable uninitialized
                waiting reads body held passed valid expected configured]
            simp [SetupSafe, passed, valid, expected, configured]
          · have unset : held.truthy = false := by simpa using configured
            rw [drawn_key_iff yaml python request ensure write webFails files settings config parsed usable uninitialized waiting
              reads body held keyed passed valid expected unset set]
            simp [SetupSafe, passed, valid, expected, unset, set]

end Uninterrupted

def setupSection (done : Bool) (key : String) : Key × Value :=
  (.str "setup", .map [(.str "initialized", .bool done), (.str "key", .str key)])

def freshConfig (key : String) : Value := .map [(.str "domains", words ["a.org"]), setupSection false key]

def chosenConfig (key : String) : Value :=
  .map [(.str "domains", words ["b.org"]), setupSection true key, (.str "server", .map [(.str "hostname", .str "mx.b.org")]),
    (.str "admin", .map [(.str "token", .str "operator-token")]), (.str "tempmail", .map [])]

def wizardDocuments : List Value :=
  [freshConfig "first-key", freshConfig "drawn-key", chosenConfig "first-key", chosenConfig "drawn-key"]

def wizardYaml : Yaml := documentYaml wizardDocuments

def freshFiles : ConfigFiles := ⟨some (blockDump (freshConfig "first-key")), none⟩

def setupWith (key : String) : SetupRequest where
  body := { domains := ["b.org"], hostname := "mx.b.org", setupKey := some key, adminToken := some "operator-token" }
  dependencies := .ok ()
  newKey := "drawn-key"
  newToken := "drawn-token"

def freshSettings : Settings := settingsOf (freshConfig "first-key")

theorem wizard_distinct : wizardDocuments.Pairwise (fun left right => blockDump left ≠ blockDump right) := by decide +kernel

theorem wizard_document (document : Value) (member : document ∈ wizardDocuments) : wizardYaml.Reads document :=
  document_reads wizardDocuments wizard_distinct document member

theorem fresh_parsed : opened wizardYaml freshFiles.main = .ok (freshConfig "first-key") :=
  wizard_document (freshConfig "first-key") List.mem_cons_self

theorem fresh_uninitialized : Uninitialized (freshConfig "first-key") := ⟨.bool false, rfl, rfl⟩

theorem wizard_valid (key : String) : (setupWith key).body.validate Api.asciiPython = .ok (setupWith key).body := by
  have domains : validateDomains Api.asciiPython ["b.org"] = .ok ["b.org"] := by decide +kernel
  have hostname : validateHostname Api.asciiPython "mx.b.org" = .ok "mx.b.org" := by decide +kernel
  have token : validateAdminToken (some "operator-token") = .ok (some "operator-token") := by decide +kernel
  simp only [setupWith, SetupCompleteRequest.validate, domains, hostname, token, validateWebHostname, bind, Except.bind]

theorem wizard_edit (supplied key : String) :
    (setupWith supplied).body.edit (freshConfig key) (.str key) ((setupWith supplied).token (setupWith supplied).body) =
      .ok (chosenConfig key) := by
  have token : (setupWith supplied).token (setupWith supplied).body = "operator-token" := by
    have bare : Api.strip "operator-token" = "operator-token" := by decide +kernel
    simpa only [SetupRequest.token, setupWith, Option.getD_some] using bare
  rw [token]
  rfl

theorem wizard_reads (supplied : String) (written : Value)
    (planned : Written Api.asciiPython (setupWith supplied) (freshConfig "first-key") freshSettings written) :
    wizardYaml.Reads written := by
  have drawn : (freshConfig "first-key").setNested "setup" "key" (.str "drawn-key") = .ok (freshConfig "drawn-key") := by rfl
  have held : expectedKey (freshConfig "first-key") freshSettings = .ok (.str "first-key") := by rfl
  apply wizard_document
  rcases planned with set | ⟨body, valid, ⟨key, expected, edits⟩ | ⟨keyed, set, edits⟩⟩
  · cases drawn.symm.trans set
    simp [wizardDocuments]
  · cases (wizard_valid supplied).symm.trans valid
    cases held.symm.trans expected
    cases (wizard_edit supplied "first-key").symm.trans edits
    simp [wizardDocuments]
  · cases (wizard_valid supplied).symm.trans valid
    cases drawn.symm.trans set
    cases (wizard_edit supplied "drawn-key").symm.trans edits
    simp [wizardDocuments]

-- A wrong key in Cyrillic, and a right one when the web container's file cannot
-- be written.
theorem setup_not_atomic :
    ¬ SetupAtomic wizardYaml Api.asciiPython (setupWith "ключ") .fine .fine false freshFiles freshSettings
      (freshConfig "first-key") ∧
      ¬ SetupAtomic wizardYaml Api.asciiPython (setupWith "first-key") .fine .fine true freshFiles freshSettings
        (freshConfig "first-key") := by
  constructor
  · intro atomic
    have matched := (configured_key_iff wizardYaml Api.asciiPython _ _ _ _ _ _ _ fresh_parsed rfl fresh_uninitialized rfl
      (wizard_reads "ключ") _ (.str "first-key") rfl (wizard_valid "ключ") rfl rfl).mp atomic
    exact absurd (matched.1 (by decide) fun same => absurd (Value.str.inj same) (by decide)).1 (by decide)
  · intro atomic
    have matched := (configured_key_iff wizardYaml Api.asciiPython _ _ _ _ _ _ _ fresh_parsed rfl fresh_uninitialized rfl
      (wizard_reads "first-key") _ (.str "first-key") rfl (wizard_valid "first-key") rfl rfl).mp atomic
    exact absurd ((matched.2 _ (by decide) rfl (wizard_edit "first-key" "first-key")).1 rfl).2 (by decide)

theorem fresh_setup_safe :
    SetupAtomic wizardYaml Api.asciiPython (setupWith "first-key") .fine .fine false freshFiles freshSettings
        (freshConfig "first-key") ↔
      SetupSafe wizardYaml Api.asciiPython (setupWith "first-key") .fine .fine false freshFiles freshSettings
        (freshConfig "first-key") :=
  setup_atomic_iff wizardYaml Api.asciiPython (setupWith "first-key") .fine .fine false freshFiles freshSettings
    (freshConfig "first-key") fresh_parsed rfl fresh_uninitialized rfl (wizard_reads "first-key")

end Tempmail.Config
