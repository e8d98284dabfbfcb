import Tempmail.Lib.Machine
import Tempmail.Mx.Relay

set_option autoImplicit false

namespace Tempmail.Mx

-- How far main and the goroutine of watchConfig have come; the hash is the one
-- main computed for watchConfig.
inductive Startup (Hash : Type) where
  | starting
  | exited
  | loaded
  | hashed (initial : Option Hash)
  | pathSet (initial : Option Hash)
  | watching
deriving DecidableEq

-- pending is the hash of a reloadIfChanged that holds the lock and has still to
-- read the file a second time. parsedFrom is not in the program: the bytes
-- currentConfig was parsed from.
structure Process (Content Hash : Type) where
  file : Option Content
  watched : Watched Hash
  startup : Startup Hash
  pending : Option Hash
  parsedFrom : Option Content

-- Every read of config.yaml is an event of its own.
inductive Step (Content : Type) where
  | write (content : Option Content)
  | mainLoad
  | mainHash
  | setConfigPath
  | setInitialHash
  | callReload
  | finishReload

variable {Content Hash : Type} [DecidableEq Hash] (loader : Loader Content Hash)

def Startup.serving : Startup Hash → Bool
  | .starting => false
  | .exited => false
  | _ => true

def Process.adopt (process : Process Content Hash) (cfg : Config) : Process Content Hash :=
  { process with watched := { process.watched with currentConfig := some cfg }, parsedFrom := process.file }

def Process.store (process : Process Content Hash) (hash : Option Hash) : Process Content Hash :=
  { process with watched := { process.watched with configHash := hash } }

def run (process : Process Content Hash) : Step Content → Process Content Hash
  | .write content => { process with file := content }
  | .mainLoad => match process.startup with
      | .starting => match loadConfig loader.unmarshal process.file with
          | .ok cfg => { process.adopt cfg with startup := .loaded }
          | .error _ => { process with startup := .exited }
      | _ => process
  | .mainHash => match process.startup with
      | .loaded => { process with startup := .hashed (loader.hashFile process.file) }
      | _ => process
  | .setConfigPath => match process.startup with
      | .hashed initial => { process with watched := process.watched.setConfigPath, startup := .pathSet initial }
      | _ => process
  | .setInitialHash => match process.startup with
      | .pathSet initial => { process.store initial with startup := .watching }
      | _ => process
  | .callReload =>
      if process.startup.serving && process.pending.isNone then
        let current := loader.hashFile (readConfigPath process.watched process.file)
        if current = process.watched.configHash then process else { process with pending := current }
      else process
  | .finishReload => match process.pending with
      | none => process
      | some hash => match loadConfig loader.unmarshal process.file with
          | .ok cfg => { (process.adopt cfg).store (some hash) with pending := none }
          | .error _ => { process with pending := none }

def mx : Machine (Process Content Hash) (Step Content) Unit := ⟨fun process step => (run loader process step, ())⟩

def boot (file : Option Content) : Process Content Hash := ⟨file, ⟨false, none, none⟩, .starting, none, none⟩

-- A call and its second read with nothing in between are reloadIfChanged; what
-- is written between them is what the second read sees.
theorem reload_in_two_reads (process : Process Content Hash) (between : Option Content)
    (serving : process.startup.serving = true) (idle : process.pending = none) (path : process.watched.configFilePath = true) :
    ((mx loader).final process [.callReload, .write between, .finishReload]).watched =
      (reloadIfChanged loader process.file between process.watched).2 := by
  simp only [Machine.final_cons, Machine.final_nil, mx, run, serving, idle, readConfigPath, path, if_true, Option.isNone_none,
    Bool.and_self]
  by_cases same : loader.hashFile process.file = process.watched.configHash
  · rw [reload_consumed loader process.file between process.watched (Or.inr same)]
    simp [same, idle]
  · cases read : loader.hashFile process.file with
    | none =>
        rw [reload_consumed loader process.file between process.watched (Or.inl read)]
        rw [read] at same
        simp [same]
    | some hash =>
        rw [read] at same
        cases loads : loadConfig loader.unmarshal between with
        | error failure => simp [same, reloadIfChanged, read, loads]
        | ok cfg => simp [same, reloadIfChanged, read, loads, Process.adopt, Process.store]

-- configHash is the hash of the very bytes currentConfig was parsed from, and
-- nothing but an accepted configuration is ever current.
structure Coupled (process : Process Content Hash) : Prop where
  hash : ∀ hash, process.watched.configHash = some hash →
    ∃ content, process.parsedFrom = some content ∧ hash = loader.sha256 content
  parsed : ∀ cfg, process.watched.currentConfig = some cfg →
    ∃ content, process.parsedFrom = some content ∧ loadConfig loader.unmarshal (some content) = .ok cfg
  kept : process.startup.serving = true → process.watched.currentConfig ≠ none

def Quiet (steps : List (Step Content)) : Prop := ∀ content, Step.write content ∉ steps

def Process.takesCall (process : Process Content Hash) : Prop := process.startup.serving = true ∧ process.pending = none

-- A call made where the file held an accepted content has returned, and the
-- file has not changed since the call was made.
def Converged (start : Process Content Hash) (steps : List (Step Content)) : Prop :=
  ∀ before called since content cfg, steps = before ++ .callReload :: (called ++ since) → Quiet (called ++ since) →
    ((mx loader).final start before).takesCall → ((mx loader).final start (before ++ .callReload :: called)).pending = none →
    ((mx loader).final start before).file = some content → loadConfig loader.unmarshal (some content) = .ok cfg →
    ((mx loader).final start steps).watched.currentConfig = some cfg

-- The two reads of a reload, and the two of main, see the same bytes, and no
-- call falls between; before SetConfigPath a call can read nothing, so it must
-- have nothing to load.
def SameBytes (process : Process Content Hash) : Step Content → Prop
  | .setInitialHash => ∀ hash, process.startup = .pathSet (some hash) →
      ∃ content, process.parsedFrom = some content ∧ hash = loader.sha256 content
  | .finishReload => ∀ hash content cfg, process.pending = some hash → process.file = some content →
      loadConfig loader.unmarshal (some content) = .ok cfg → hash = loader.sha256 content
  | .callReload => ∀ cfg, process.takesCall → process.watched.configFilePath = false →
      loadConfig loader.unmarshal process.file = .ok cfg → process.watched.currentConfig = some cfg
  | _ => True

omit [DecidableEq Hash] in
theorem load_content (data : Option Content) (cfg : Config) (loads : loadConfig loader.unmarshal data = .ok cfg) :
    ∃ content, data = some content ∧ loadConfig loader.unmarshal (some content) = .ok cfg := by
  cases data with
  | none => cases loads
  | some content => exact ⟨content, rfl, loads⟩

omit [DecidableEq Hash] in
theorem coupled_adopt (process : Process Content Hash) (cfg : Config) (hash : Option Hash) (startup : Startup Hash)
    (pending : Option Hash) (loads : loadConfig loader.unmarshal process.file = .ok cfg)
    (same : ∀ value, hash = some value → ∃ content, process.file = some content ∧ value = loader.sha256 content) :
    Coupled loader { (process.adopt cfg).store hash with startup, pending } := by
  obtain ⟨content, present, takes⟩ := load_content loader process.file cfg loads
  refine ⟨same, ?_, fun _ => by simp [Process.store, Process.adopt]⟩
  intro current isCurrent
  have same_cfg : cfg = current := by simpa [Process.store, Process.adopt] using isCurrent
  subst same_cfg
  exact ⟨content, present, takes⟩

theorem coupled_step (process : Process Content Hash) (step : Step Content) (same : SameBytes loader process step)
    (fresh : process.startup.serving = false → process.watched.configHash = none) (coupled : Coupled loader process) :
    Coupled loader (run loader process step) := by
  cases step with
  | write content => exact ⟨coupled.hash, coupled.parsed, coupled.kept⟩
  | mainLoad =>
      simp only [run]
      split
      · rename_i starting
        split
        · rename_i cfg loads
          have unhashed := fresh (by rw [starting]; rfl)
          have adopted := coupled_adopt loader process cfg none .loaded process.pending loads (by simp)
          simpa [Process.store, Process.adopt, unhashed] using adopted
        · exact ⟨coupled.hash, coupled.parsed, by simp [Startup.serving]⟩
      · exact coupled
  | mainHash =>
      simp only [run]
      split
      · rename_i loaded
        exact ⟨coupled.hash, coupled.parsed, fun _ => coupled.kept (by rw [loaded]; rfl)⟩
      · exact coupled
  | setConfigPath =>
      simp only [run]
      split
      · rename_i initial hashed
        exact ⟨coupled.hash, coupled.parsed, fun _ => coupled.kept (by rw [hashed]; rfl)⟩
      · exact coupled
  | setInitialHash =>
      simp only [run]
      split
      · rename_i initial pathSet
        refine ⟨fun hash set => same hash ?_, coupled.parsed, fun _ => coupled.kept (by rw [pathSet]; rfl)⟩
        rw [pathSet, show initial = some hash from set]
      · exact coupled
  | callReload =>
      simp only [run]
      split_ifs
      · exact coupled
      · exact ⟨coupled.hash, coupled.parsed, coupled.kept⟩
      · exact coupled
  | finishReload =>
      simp only [run]
      split
      · exact coupled
      · rename_i hash pending
        split
        · rename_i cfg loads
          refine coupled_adopt loader process cfg (some hash) process.startup none loads fun value isHash => ?_
          obtain ⟨content, present, takes⟩ := load_content loader process.file cfg loads
          exact ⟨content, present, (Option.some.inj isHash).symm.trans (same hash content cfg pending present takes)⟩
        · exact ⟨coupled.hash, coupled.parsed, coupled.kept⟩

structure Booked (known : Content → Prop) (process : Process Content Hash) : Prop where
  fresh : process.startup.serving = false → process.watched.configHash = none ∧ process.pending = none
  file : ∀ content, process.file = some content → known content
  parsed : ∀ content, process.parsedFrom = some content → known content

theorem booked_step (known : Content → Prop) (process : Process Content Hash) (step : Step Content)
    (written : ∀ content, step = .write (some content) → known content) (booked : Booked known process) :
    Booked known (run loader process step) := by
  cases step with
  | write content => exact ⟨booked.fresh, fun stored same => written stored (by rw [← same]; rfl), booked.parsed⟩
  | mainLoad =>
      simp only [run]
      split
      · rename_i starting
        split
        · exact ⟨by simp [Startup.serving], booked.file, booked.file⟩
        · exact ⟨fun _ => booked.fresh (by rw [starting]; rfl), booked.file, booked.parsed⟩
      · exact booked
  | mainHash =>
      simp only [run]
      split
      · exact ⟨by simp [Startup.serving], booked.file, booked.parsed⟩
      · exact booked
  | setConfigPath =>
      simp only [run]
      split
      · exact ⟨by simp [Startup.serving], booked.file, booked.parsed⟩
      · exact booked
  | setInitialHash =>
      simp only [run]
      split
      · exact ⟨by simp [Startup.serving], booked.file, booked.parsed⟩
      · exact booked
  | callReload =>
      simp only [run]
      split_ifs with taken
      · exact booked
      · have serving : process.startup.serving = true := (Bool.and_eq_true_iff.mp taken).1
        exact ⟨by simp [serving], booked.file, booked.parsed⟩
      · exact booked
  | finishReload =>
      simp only [run]
      split
      · exact booked
      · rename_i hash pending
        have serving : process.startup.serving ≠ false := fun unserving => by
          rw [(booked.fresh unserving).2] at pending
          cases pending
        split
        · exact ⟨fun unserving => absurd unserving serving, booked.file, booked.file⟩
        · exact ⟨fun unserving => absurd unserving serving, booked.file, booked.parsed⟩

def Tracking (content : Content) (cfg : Config) (process : Process Content Hash) : Prop :=
  process.file = some content ∧ (process.pending = none → process.watched.currentConfig = some cfg)

def Settled (content : Content) (cfg : Config) (process : Process Content Hash) : Prop :=
  process.file = some content ∧ process.watched.currentConfig = some cfg

theorem settled_step (content : Content) (cfg : Config) (loads : loadConfig loader.unmarshal (some content) = .ok cfg)
    (process : Process Content Hash) (step : Step Content) (quiet : ∀ written, step ≠ .write written)
    (settled : Settled content cfg process) : Settled content cfg (run loader process step) := by
  obtain ⟨held, current⟩ := settled
  cases step with
  | write written => exact absurd rfl (quiet written)
  | mainLoad =>
      simp only [run, held, loads]
      split
      · exact ⟨held, rfl⟩
      · exact ⟨held, current⟩
  | mainHash => simp only [run]; split <;> exact ⟨held, current⟩
  | setConfigPath => simp only [run]; split <;> exact ⟨held, current⟩
  | setInitialHash => simp only [run]; split <;> exact ⟨held, current⟩
  | callReload => simp only [run]; split_ifs <;> exact ⟨held, current⟩
  | finishReload =>
      simp only [run, held, loads]
      split
      · exact ⟨held, current⟩
      · exact ⟨held, rfl⟩

theorem tracking_step (content : Content) (cfg : Config) (loads : loadConfig loader.unmarshal (some content) = .ok cfg)
    (process : Process Content Hash) (step : Step Content) (quiet : ∀ written, step ≠ .write written)
    (tracking : Tracking content cfg process) : Tracking content cfg (run loader process step) := by
  by_cases idle : process.pending = none
  · have settled := settled_step loader content cfg loads process step quiet ⟨tracking.1, tracking.2 idle⟩
    exact ⟨settled.1, fun _ => settled.2⟩
  · obtain ⟨hash, pending⟩ := Option.ne_none_iff_exists'.mp idle
    obtain ⟨held, -⟩ := tracking
    cases step with
    | write written => exact absurd rfl (quiet written)
    | mainLoad =>
        simp only [run, held, loads]
        split
        · exact ⟨held, fun _ => rfl⟩
        · exact ⟨held, fun none => absurd none idle⟩
    | mainHash => simp only [run]; split <;> exact ⟨held, fun none => absurd none idle⟩
    | setConfigPath => simp only [run]; split <;> exact ⟨held, fun none => absurd none idle⟩
    | setInitialHash => simp only [run]; split <;> exact ⟨held, fun none => absurd none idle⟩
    | callReload =>
        simp only [run, pending, Option.isNone_some, Bool.and_false, Bool.false_eq_true, if_false]
        exact ⟨held, fun none => absurd none idle⟩
    | finishReload =>
        simp only [run, pending, held, loads]
        exact ⟨held, fun _ => rfl⟩

theorem call_tracking (known : Content → Prop)
    (apart : ∀ first second, known first → known second → loader.sha256 first = loader.sha256 second → first = second)
    (content : Content) (cfg : Config) (loads : loadConfig loader.unmarshal (some content) = .ok cfg)
    (process : Process Content Hash) (taken : process.takesCall) (held : process.file = some content)
    (same : SameBytes loader process .callReload) (coupled : Coupled loader process) (booked : Booked known process) :
    Tracking content cfg (run loader process .callReload) := by
  obtain ⟨serving, idle⟩ := taken
  simp only [run, serving, idle, Option.isNone_none, Bool.and_self, if_true]
  by_cases path : process.watched.configFilePath = true
  · simp only [readConfigPath, path, if_true, held, Loader.hashFile, Option.map_some]
    split_ifs with hashed
    · refine ⟨held, fun _ => ?_⟩
      obtain ⟨current, isCurrent⟩ := Option.ne_none_iff_exists'.mp (coupled.kept serving)
      obtain ⟨source, fromSource, sourceLoads⟩ := coupled.parsed current isCurrent
      obtain ⟨digested, fromDigested, sameHash⟩ := coupled.hash _ hashed.symm
      rw [fromSource, Option.some.injEq] at fromDigested
      subst fromDigested
      have same_content : content = source :=
        apart content source (booked.file content held) (booked.parsed source fromSource) sameHash
      subst same_content
      rw [loads, Except.ok.injEq] at sourceLoads
      rw [isCurrent, sourceLoads]
    · exact ⟨rfl, fun pending => by cases pending⟩
  · have unset : process.watched.configFilePath = false := by simpa using path
    have current := same cfg ⟨serving, idle⟩ unset (by rw [held]; exact loads)
    split_ifs
    · exact ⟨held, fun _ => current⟩
    · exact ⟨held, fun _ => current⟩

theorem quiet_run (Inv : Process Content Hash → Prop)
    (preserved : ∀ process step, (∀ written, step ≠ Step.write written) → Inv process → Inv (run loader process step))
    (process : Process Content Hash) (steps : List (Step Content)) (quiet : Quiet steps) (initial : Inv process) :
    Inv ((mx loader).final process steps) := by
  refine (Machine.invariant_run (mx loader) Inv
    (fun step => ∀ written, step ≠ .write written) preserved process steps ?_ initial).1
  intro step member written same
  exact quiet written (same ▸ member)

def known (file : Option Content) (steps : List (Step Content)) (content : Content) : Prop :=
  file = some content ∨ Step.write (some content) ∈ steps

def Collisionless (file : Option Content) (steps : List (Step Content)) : Prop :=
  ∀ first second, known file steps first → known file steps second → loader.sha256 first = loader.sha256 second → first = second

omit [DecidableEq Hash] in
theorem booted (file : Option Content) (steps : List (Step Content)) :
    Coupled loader (boot file) ∧ Booked (known file steps) (boot file : Process Content Hash) := by
  refine ⟨⟨?_, ?_, ?_⟩, ⟨fun _ => ⟨rfl, rfl⟩, fun content same => Or.inl same, ?_⟩⟩
  · intro hash set
    cases set
  · intro cfg set
    cases set
  · intro serving
    cases serving
  · intro content set
    cases set

theorem run_coupled (file : Option Content) (steps before rest : List (Step Content)) (split : steps = before ++ rest)
    (same : ∀ moment ∈ (mx loader).trace (boot file) steps, SameBytes loader moment.before moment.event) :
    Coupled loader ((mx loader).final (boot file) before) ∧ Booked (known file steps) ((mx loader).final (boot file) before) := by
  obtain ⟨coupled, booked⟩ := booted loader file steps
  have run_booked := (Machine.invariant_run (mx loader) (Booked (known file steps)) (fun step => step ∈ steps)
    (fun process step member => booked_step loader (known file steps) process step fun content isWrite =>
      Or.inr (isWrite ▸ member)) (boot file) before (fun step member => by simp [split, member]) booked).1
  refine ⟨?_, run_booked⟩
  refine (Machine.invariant_along (mx loader) (fun process => Coupled loader process ∧
    (process.startup.serving = false → process.watched.configHash = none ∧ process.pending = none)) (SameBytes loader) ?_
    (boot file) before (fun moment member => same moment (split ▸ Machine.trace_prefix _ _ _ _ _ member))
    ⟨coupled, booked.fresh⟩).1
  intro process step same ⟨coupled, fresh⟩
  have next := booked_step loader (fun _ => True) process step (by simp) ⟨fresh, by simp, by simp⟩
  exact ⟨coupled_step loader process step same (fun unserving => (fresh unserving).1) coupled, next.fresh⟩

theorem run_converged (file : Option Content) (steps earlier later : List (Step Content)) (split : steps = earlier ++ later)
    (apart : Collisionless loader file steps)
    (same : ∀ moment ∈ (mx loader).trace (boot file) steps, SameBytes loader moment.before moment.event) :
    Converged loader (boot file) earlier := by
  intro before called since content cfg parts quiet taken returned held loads
  subst parts
  have here : steps = before ++ .callReload :: (called ++ since ++ later) := by simp [split]
  obtain ⟨coupled, booked⟩ := run_coupled loader file steps before _ here same
  have callSame := same _ (here ▸ Machine.trace_here (mx loader) (boot file) before .callReload (called ++ since ++ later))
  have tracking := call_tracking loader _ apart content cfg loads _ taken held callSame coupled booked
  have called_tracking := quiet_run loader (Tracking content cfg) (tracking_step loader content cfg loads) _ called
    (fun written member => quiet written (List.mem_append_left _ member)) tracking
  rw [Machine.final_append] at returned
  have settled : Settled content cfg ((mx loader).final (run loader ((mx loader).final (boot file) before) .callReload) called) :=
    ⟨called_tracking.1, called_tracking.2 returned⟩
  have since_settled := quiet_run loader (Settled content cfg) (settled_step loader content cfg loads) _ since
    (fun written member => quiet written (List.mem_append_right _ member)) settled
  rw [Machine.final_append, Machine.final_cons, Machine.final_append]
  exact since_settled.2

-- What the property says right after a step names the bytes the step saw.
theorem same_bytes_of_step (process : Process Content Hash) (step : Step Content)
    (coupled : Coupled loader (run loader process step))
    (converged : ∀ cfg, step = .callReload → process.takesCall → (run loader process .callReload).pending = none →
      loadConfig loader.unmarshal process.file = .ok cfg → (run loader process .callReload).watched.currentConfig = some cfg) :
    SameBytes loader process step := by
  cases step with
  | setInitialHash =>
      intro hash pathSet
      simp only [run, pathSet] at coupled
      exact coupled.hash hash rfl
  | finishReload =>
      intro hash content cfg pending held loads
      simp only [run, pending, held, loads] at coupled
      obtain ⟨source, fromSource, sameHash⟩ := coupled.hash hash rfl
      have same_content : content = source := Option.some.inj (held.symm.trans fromSource)
      rw [sameHash, same_content]
  | callReload =>
      intro cfg taken unset loads
      have called : run loader process .callReload = process := by
        obtain ⟨serving, idle⟩ := taken
        simp only [run, serving, idle, readConfigPath, unset, Loader.hashFile, Option.isNone_none, Bool.and_self, if_true,
          Bool.false_eq_true, if_false, Option.map_none]
        split_ifs
        · rfl
        · rw [← idle]
      have current := converged cfg rfl taken (by rw [called]; exact taken.2) loads
      rwa [called] at current
  | write content => trivial
  | mainLoad => trivial
  | mainHash => trivial
  | setConfigPath => trivial

-- Every state of every run, however the writes fall between the reads.
theorem watcher_converges_iff (file : Option Content) (steps : List (Step Content)) (apart : Collisionless loader file steps) :
    (∀ earlier later, steps = earlier ++ later →
        Coupled loader ((mx loader).final (boot file) earlier) ∧ Converged loader (boot file) earlier) ↔
      ∀ moment ∈ (mx loader).trace (boot file) steps, SameBytes loader moment.before moment.event := by
  constructor
  · intro converges moment member
    obtain ⟨first, rest, split⟩ := List.append_of_mem member
    obtain ⟨before, step, after, steps_eq, -, moment_eq⟩ :=
      Machine.trace_split (mx loader) (boot file) steps first rest moment split
    subst moment_eq
    obtain ⟨coupled, converged⟩ := converges (before ++ [step]) after (by simp [steps_eq])
    rw [Machine.final_append] at coupled
    refine same_bytes_of_step loader _ step coupled fun cfg isCall taken returned loads => ?_
    subst isCall
    obtain ⟨content, held, takes⟩ := load_content loader _ cfg loads
    have current := converged before [] [] content cfg (by simp) (by simp [Quiet]) taken
      (by rw [Machine.final_append]; exact returned) held takes
    rwa [Machine.final_append] at current
  · intro same earlier later split
    exact ⟨(run_coupled loader file steps earlier later split same).1,
      run_converged loader file steps earlier later split apart same⟩

def hashedLater : List (Step String) :=
  [.mainLoad, .write (some secondFile), .mainHash, .setConfigPath, .setInitialHash]

-- second.test is removed and restored between the two reads of a reload, and
-- removed again.
def restoredBetween : List (Step String) :=
  [.mainLoad, .mainHash, .setConfigPath, .setInitialHash, .write (some firstFile), .callReload, .write (some secondFile),
    .finishReload, .write (some firstFile)]

theorem watcher_stays_behind :
    ¬ Converged sampleLoader (boot (some firstFile)) (hashedLater ++ [.callReload]) ∧
      ¬ Converged sampleLoader (boot (some secondFile)) (restoredBetween ++ [.callReload]) := by
  constructor
  · intro converged
    have current := converged hashedLater [] [] secondFile _ rfl (by simp [Quiet]) ⟨rfl, rfl⟩ rfl rfl rfl
    exact absurd current (by decide)
  · intro converged
    have current := converged restoredBetween [] [] firstFile _ rfl (by simp [Quiet]) ⟨rfl, rfl⟩ rfl rfl rfl
    exact absurd current (by decide)

def undisturbed : List (Step String) :=
  [.mainLoad, .mainHash, .setConfigPath, .setInitialHash, .write (some secondFile), .callReload, .finishReload]

theorem watcher_converges_undisturbed :
    Collisionless sampleLoader (some firstFile) undisturbed ∧
      ((∀ earlier later, undisturbed = earlier ++ later →
          Coupled sampleLoader ((mx sampleLoader).final (boot (some firstFile)) earlier) ∧
            Converged sampleLoader (boot (some firstFile)) earlier) ↔
        ∀ moment ∈ (mx sampleLoader).trace (boot (some firstFile)) undisturbed,
          SameBytes sampleLoader moment.before moment.event) := by
  have apart : Collisionless sampleLoader (some firstFile) undisturbed := fun _ _ _ _ same => same
  exact ⟨apart, watcher_converges_iff sampleLoader (some firstFile) undisturbed apart⟩

end Tempmail.Mx
