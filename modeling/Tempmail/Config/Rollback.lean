import Tempmail.Config.Concurrent
import Tempmail.Config.Patched

set_option autoImplicit false

namespace Tempmail.Config

open Api (HTTPException internalServerError)

def Assignment.target : Assignment → Attribute
  | .top name _ _ => name
  | .nested name _ _ _ => name
  | .refuseWildcardCredentials => .corsAllowCredentials

def corsOrigins : Assignment := .nested .corsAllowOrigins "cors" "allow_origins" (.list [])
def corsCredentials : Assignment := .nested .corsAllowCredentials "cors" "allow_credentials" (.bool false)

-- What the configuration alone says an attribute becomes, or the exception its
-- shape raises there.
def Assignment.fetch (config : Value) : Assignment → Except Raised Value
  | .top _ key fallback => config.get key fallback
  | .nested _ outer key fallback => do
      let nested ← config.get outer (.map [])
      nested.get key fallback
  | .refuseWildcardCredentials => .error .typeError

def Assignment.offered (config : Value) : Assignment → Except Raised Value
  | .refuseWildcardCredentials => do
      let origins ← corsOrigins.fetch config
      let credentials ← corsCredentials.fetch config
      let star ← origins.hasStar
      .ok (if star && credentials.truthy then .bool false else credentials)
  | assignment => assignment.fetch config

def given (config : Value) : List Assignment → Attribute → Option Value
  | [], _ => none
  | assignment :: rest, name => match assignment.offered config with
      | .error _ => none
      | .ok value => (given config rest name).or (if assignment.target = name then some value else none)

def wellShaped (config : Value) (list : List Assignment) : Prop :=
  ∀ assignment ∈ list, ∃ value, assignment.offered config = .ok value

def Assignment.plain : Assignment → Bool
  | .refuseWildcardCredentials => false
  | _ => true

theorem set_same (settings : Settings) (name : Attribute) : settings.set name (settings name) = settings := by
  funext asked
  rw [Settings.set]
  split
  · rename_i same
    rw [same]
  · rfl

theorem run_plain (config : Value) (settings : Settings) (assignment : Assignment) (plain : assignment.plain = true) :
    assignment.run config settings = (assignment.offered config).map (settings.set assignment.target) := by
  cases assignment with
  | top name key fallback =>
      simp only [Assignment.run, Assignment.offered, Assignment.fetch]
      cases config.get key fallback <;> rfl
  | nested name outer key fallback =>
      simp only [Assignment.run, Assignment.offered, Assignment.fetch]
      cases config.get outer (.map []) with
      | error raised => rfl
      | ok nested =>
          simp only [bind, Except.bind]
          cases nested.get key fallback <;> rfl
  | refuseWildcardCredentials => cases plain

theorem run_refuse (config : Value) (settings : Settings)
    (origins : corsOrigins.fetch config = .ok (settings .corsAllowOrigins))
    (credentials : corsCredentials.fetch config = .ok (settings .corsAllowCredentials)) :
    Assignment.refuseWildcardCredentials.run config settings =
      (Assignment.refuseWildcardCredentials.offered config).map (settings.set .corsAllowCredentials) := by
  simp only [Assignment.run, Assignment.offered, origins, credentials, bind, Except.bind]
  cases (settings .corsAllowOrigins).hasStar with
  | error raised => rfl
  | ok star =>
      simp only [Except.map]
      split
      · rfl
      · rw [set_same]

structure Outcome (config : Value) (list : List Assignment) (settings : Settings) : Prop where
  answer : (assign config list settings).1 = .ok () ↔ wellShaped config list
  kept : ∀ name, (assign config list settings).2 name = (given config list name).getD (settings name)

theorem given_or (offer : Option Value) (name target : Attribute) (settings : Settings) (value : Value) :
    offer.getD (settings.set target value name) =
      (offer.or (if target = name then some value else none)).getD (settings name) := by
  cases offer with
  | some chosen => rfl
  | none =>
      rw [Settings.set]
      by_cases same : name = target
      · simp [same]
      · simp [same, Ne.symm same]

theorem outcome_cons (config : Value) (assignment : Assignment) (rest : List Assignment) (settings : Settings)
    (runs : assignment.run config settings = (assignment.offered config).map (settings.set assignment.target))
    (later : ∀ value, assignment.offered config = .ok value → Outcome config rest (settings.set assignment.target value)) :
    Outcome config (assignment :: rest) settings := by
  cases offer : assignment.offered config with
  | error raised =>
      rw [offer] at runs
      constructor
      · rw [assign, runs]
        simp [Except.map, wellShaped, offer]
      · intro name
        rw [assign, runs, given, offer]
        rfl
  | ok value =>
      rw [offer] at runs
      have tail := later value offer
      constructor
      · rw [assign, runs]
        simpa [Except.map, wellShaped, offer] using tail.answer
      · intro name
        rw [assign, runs, given, offer]
        exact (tail.kept name).trans (given_or _ name assignment.target settings value)

theorem outcome_plain (config : Value) (list : List Assignment) (settings : Settings)
    (plain : list.all Assignment.plain = true) : Outcome config list settings := by
  induction list generalizing settings with
  | nil => exact ⟨by simp [assign, wellShaped], fun name => rfl⟩
  | cons assignment rest ih =>
      rw [List.all_cons, Bool.and_eq_true] at plain
      exact outcome_cons config assignment rest settings (run_plain config settings assignment plain.1)
        (fun value _ => ih _ plain.2)

theorem outcome_prefix (config : Value) (front tail : List Assignment) (plain : front.all Assignment.plain = true)
    (later : ∀ settings, Outcome config tail settings) (settings : Settings) : Outcome config (front ++ tail) settings := by
  induction front generalizing settings with
  | nil => exact later settings
  | cons assignment rest ih =>
      rw [List.all_cons, Bool.and_eq_true] at plain
      exact outcome_cons config assignment (rest ++ tail) settings (run_plain config settings assignment plain.1)
        (fun value _ => ih plain.2 _)

def corsMethods : Assignment := .nested .corsAllowMethods "cors" "allow_methods" (words ["*"])
def corsHeaders : Assignment := .nested .corsAllowHeaders "cors" "allow_headers" (words ["*"])

theorem assignments_split :
    assignments = assignments.take 35 ++
      corsOrigins :: corsCredentials :: corsMethods :: corsHeaders :: .refuseWildcardCredentials :: assignments.drop 40 := rfl

theorem apply_outcome (config : Value) (settings : Settings) : Outcome config assignments settings := by
  rw [assignments_split]
  apply outcome_prefix config _ _ rfl
  intro settings
  refine outcome_cons config corsOrigins _ settings (run_plain config settings corsOrigins rfl) fun origins offeredOrigins => ?_
  refine outcome_cons config corsCredentials _ _ (run_plain config _ corsCredentials rfl) fun credentials offeredCredentials => ?_
  refine outcome_cons config corsMethods _ _ (run_plain config _ corsMethods rfl) fun methods _ => ?_
  refine outcome_cons config corsHeaders _ _ (run_plain config _ corsHeaders rfl) fun headers _ => ?_
  refine outcome_cons config .refuseWildcardCredentials _ _
    (run_refuse config _ offeredOrigins offeredCredentials) fun value _ => ?_
  exact outcome_plain config (assignments.drop 40) _ rfl

theorem given_absent (config : Value) (list : List Assignment) (name : Attribute)
    (apart : ∀ assignment ∈ list, assignment.target ≠ name) : given config list name = none := by
  induction list with
  | nil => rfl
  | cons assignment rest ih =>
      have later := ih fun other member => apart other (List.mem_cons_of_mem _ member)
      rw [given]
      split
      · rfl
      · rw [later, if_neg (apart assignment List.mem_cons_self), Option.none_or]

theorem given_last (config value : Value) (before after : List Assignment) (assignment : Assignment)
    (offers : assignment.offered config = .ok value) (shaped : wellShaped config (before ++ assignment :: after))
    (apart : ∀ other ∈ after, other.target ≠ assignment.target) :
    given config (before ++ assignment :: after) assignment.target = some value := by
  induction before with
  | nil => simp only [List.nil_append, given, offers, given_absent config after assignment.target apart, if_true, Option.none_or]
  | cons first rest ih =>
      obtain ⟨found, ok⟩ := shaped first List.mem_cons_self
      have later := ih fun other member => shaped other (List.mem_cons_of_mem _ member)
      simp only [List.cons_append, given, ok, later, Option.some_or]

theorem assigned_value (config value : Value) (settings : Settings) (index : Nat) (assignment : Assignment)
    (here : assignments = assignments.take index ++ assignment :: assignments.drop (index + 1))
    (apart : (assignments.drop (index + 1)).all (fun other => other.target != assignment.target) = true)
    (shaped : wellShaped config assignments) (offers : assignment.offered config = .ok value) :
    (apply config settings).2 assignment.target = value := by
  have kept := (apply_outcome config settings).kept assignment.target
  rw [here] at shaped kept
  rw [given_last config value _ _ assignment offers shaped
      fun other member => by simpa using List.all_eq_true.mp apart other member]
    at kept
  rw [apply, here]
  exact kept

theorem setting_loaded (config : Value) (settings : Settings) (index : Nat) (name : Attribute) (outer key : String)
    (fallback : Value)
    (here : assignments = assignments.take index ++ .nested name outer key fallback :: assignments.drop (index + 1))
    (apart : (assignments.drop (index + 1)).all (fun other => other.target != name) = true)
    (shaped : wellShaped config assignments) :
    (apply config settings).2 name = (config.setting outer key).getD fallback := by
  have member : .nested name outer key fallback ∈ assignments := by
    rw [here]
    exact List.mem_append_right _ List.mem_cons_self
  obtain ⟨value, offered⟩ := shaped _ member
  obtain ⟨inner, present, held⟩ := bind_ok _ _ _ offered
  have value_eq : value = (config.setting outer key).getD fallback := by
    rw [get_top inner key fallback value held, get_top config outer (.map []) inner present, Value.setting]
    cases config.top outer with
    | none => rfl
    | some found => rfl
  rw [← value_eq]
  exact assigned_value config value settings index (.nested name outer key fallback) here apart shaped offered

variable (yaml : Yaml)

def Takes (file : Option (List UInt8)) : Prop :=
  ∃ config, loadMapping yaml file = .ok config ∧ reloadable config = .ok () ∧ wellShaped config assignments

-- What a file gives the attributes that reload_settings assigns before it
-- returns or raises.
def overlay (file : Option (List UInt8)) (name : Attribute) : Option Value :=
  match loadMapping yaml file with
  | .error _ => none
  | .ok config => match reloadable config with
    | .error _ => none
    | .ok () => given config assignments name

theorem reload_takes_iff (files : ConfigFiles) (settings : Settings) :
    (reloadSettings yaml files settings).1 = .ok () ↔ Takes yaml files.main := by
  simp only [reloadSettings, Takes]
  cases loadMapping yaml files.main with
  | error raised => simp
  | ok config =>
      cases shape : reloadable config with
      | error raised => simp [shape]
      | ok done => simpa [shape, apply] using (apply_outcome config settings).answer

theorem reload_overlay (files : ConfigFiles) (settings : Settings) (name : Attribute) :
    (reloadSettings yaml files settings).2 name = (overlay yaml files.main name).getD (settings name) := by
  simp only [reloadSettings, overlay]
  cases loadMapping yaml files.main with
  | error raised => rfl
  | ok config =>
      cases shape : reloadable config with
      | error raised => simp [shape]
      | ok done => simpa [shape, apply] using (apply_outcome config settings).kept name

theorem takes_parsed (file : Option (List UInt8)) (config : Value) (parsed : opened yaml file = .ok config)
    (usable : config.usable = true) : Takes yaml file ↔ reloadable config = .ok () ∧ wellShaped config assignments := by
  have loaded := load_usable yaml file config parsed usable
  constructor
  · intro ⟨found, loads, takes, shaped⟩
    rw [loaded, Except.ok.injEq] at loads
    rw [loads]
    exact ⟨takes, shaped⟩
  · intro ⟨takes, shaped⟩
    exact ⟨config, loaded, takes, shaped⟩

theorem reload_parsed (files : ConfigFiles) (settings : Settings) (config : Value) (parsed : opened yaml files.main = .ok config)
    (usable : config.usable = true) (takes : reloadable config = .ok ()) :
    reloadSettings yaml files settings = apply config settings := by
  rw [reloadSettings, load_usable yaml files.main config parsed usable]
  simp only [takes]

def ReloadKeeps (files : ConfigFiles) (settings : Settings) : Prop :=
  ∀ raised, (reloadSettings yaml files settings).1 = .error raised → (reloadSettings yaml files settings).2 = settings

-- A file that raises gives no attribute a value it does not have already.
def AlreadyThere (file : Option (List UInt8)) (settings : Settings) : Prop :=
  ∀ name value, overlay yaml file name = some value → settings name = value

theorem getD_same {α : Type} (offer : Option α) (kept : α) :
    offer.getD kept = kept ↔ ∀ value, offer = some value → kept = value := by
  cases offer with
  | none => simp
  | some value => simp [eq_comm]

theorem reload_keeps_iff (files : ConfigFiles) (settings : Settings) :
    ReloadKeeps yaml files settings ↔ (¬ Takes yaml files.main → AlreadyThere yaml files.main settings) := by
  have raises : (∃ raised, (reloadSettings yaml files settings).1 = .error raised) ↔ ¬ Takes yaml files.main := by
    rw [← reload_takes_iff yaml files settings]
    cases (reloadSettings yaml files settings).1 <;> simp
  have same : (reloadSettings yaml files settings).2 = settings ↔ AlreadyThere yaml files.main settings := by
    rw [funext_iff]
    exact forall_congr' fun name => by rw [reload_overlay, getD_same]
  rw [ReloadKeeps, ← raises, ← same, forall_exists_index]

-- _commit_config: two writes at most, the new configuration and the rollback.
def commitConfig (first second : Disk) (newConfig : Value) (files : ConfigFiles) (settings : Settings) :
    Except HTTPException Unit × ConfigFiles × Settings :=
  match readConfig yaml files with
  | .error _ => (.error internalServerError, files, settings)
  | .ok previous => match writeConfig yaml first files newConfig with
    | (.error _, left) => (.error internalServerError, left, settings)
    | (.ok (), left) => match reloadSettings yaml left settings with
      | (.ok (), loaded) => (.ok (), left, loaded)
      | (.error _, partly) => match writeConfig yaml second left previous with
        | (.error _, reverted) => (.error reloadFailed, reverted, partly)
        | (.ok (), reverted) => (.error reloadFailed, reverted, (reloadSettings yaml reverted partly).2)

def Disk.lands (disk : Disk) (content : List UInt8) : Bool := disk.written.complete content && disk.synced

theorem write_lands_iff (disk : Disk) (files : ConfigFiles) (config : Value) :
    (writeConfig yaml disk files config).1 = .ok () ↔ disk.lands (yaml.safeDump config) = true := by
  rw [writeConfig, Disk.lands]
  cases disk.written.complete (yaml.safeDump config) && disk.synced <;> simp

-- Every failure of _commit_config is a 500, the rollback's own and the one of a
-- failed write.
def CommitRestores (first second : Disk) (newConfig : Value) (files : ConfigFiles) (settings : Settings) : Prop :=
  ∀ failure, (commitConfig yaml first second newConfig files settings).1 = .error failure →
    opened yaml (commitConfig yaml first second newConfig files settings).2.1.main = opened yaml files.main ∧
      (commitConfig yaml first second newConfig files settings).2.2 = settings

-- What the two reloads around a rollback give an attribute in the end.
def revertedOverlay (second : Disk) (newConfig previous : Value) (name : Attribute) : Option Value :=
  (if second.lands (yaml.safeDump previous) then overlay yaml (some (yaml.safeDump previous)) name else none).or
    (overlay yaml (some (yaml.safeDump newConfig)) name)

-- A failed write leaves a file that parses as before; a rollback leaves such a
-- file and gives no attribute a value it did not have.
def RollbackRestores (first second : Disk) (newConfig : Value) (files : ConfigFiles) (settings : Settings) : Prop :=
  ∀ previous, readConfig yaml files = .ok previous →
    (first.lands (yaml.safeDump newConfig) = false →
      opened yaml (first.written.over (yaml.safeDump newConfig) files.main) = opened yaml files.main) ∧
    (first.lands (yaml.safeDump newConfig) = true → ¬ Takes yaml (some (yaml.safeDump newConfig)) →
      opened yaml (second.written.over (yaml.safeDump previous) (some (yaml.safeDump newConfig))) = opened yaml files.main ∧
        ∀ name value, revertedOverlay yaml second newConfig previous name = some value → settings name = value)

theorem write_main (disk : Disk) (files : ConfigFiles) (config : Value) :
    (writeConfig yaml disk files config).2.main = disk.written.over (yaml.safeDump config) files.main := rfl

theorem rolled_back (second : Disk) (newConfig previous : Value) (left : ConfigFiles) (settings : Settings)
    (written : left.main = some (yaml.safeDump newConfig)) (name : Attribute) :
    (match writeConfig yaml second left previous with
      | (.error _, _) => (reloadSettings yaml left settings).2
      | (.ok (), reverted) => (reloadSettings yaml reverted (reloadSettings yaml left settings).2).2) name =
      (revertedOverlay yaml second newConfig previous name).getD (settings name) := by
  have lands := write_lands_iff yaml second left previous
  have main := write_ok yaml second left previous
  generalize writeConfig yaml second left previous = result at lands main
  obtain ⟨answer, reverted⟩ := result
  cases answer with
  | error raised =>
      have failed : second.lands (yaml.safeDump previous) = false := by simpa using lands.not.mp (by simp)
      dsimp only
      rw [reload_overlay, written, revertedOverlay, if_neg (by simp [failed]), Option.none_or]
  | ok done =>
      have landed := lands.mp rfl
      dsimp only
      rw [reload_overlay, reload_overlay, written, main rfl, revertedOverlay, if_pos landed]
      cases overlay yaml (some (yaml.safeDump previous)) name <;> rfl

def commitTurns {Client : Type} (client : Client) (first second : Disk) : List (Turn Client) :=
  [⟨client, first⟩, ⟨client, first⟩, ⟨client, first⟩, ⟨client, second⟩, ⟨client, second⟩]

theorem turn_answered {Client : Type} [DecidableEq Client] (python : Api.Python) (requests : Client → AdminRequest)
    (client : Client) (disk : Disk) (world : World Client) (answer : Except HTTPException Unit) :
    advance yaml python requests (world.enter client (.answered answer)) ⟨client, disk⟩ =
      world.enter client (.answered answer) := by
  simp only [advance, enter_here]

section TurnCases

variable {Client : Type} [DecidableEq Client] (python : Api.Python) (requests : Client → AdminRequest)
    (client : Client) (disk : Disk)
  (world : World Client)

theorem turn_wrote (config previous : Value) (files : ConfigFiles) (phase : world.phase client = .staged config previous)
    (wrote : writeConfig yaml disk world.files config = (.ok (), files)) :
    advance yaml python requests world ⟨client, disk⟩ = (world.store files).enter client (.written previous) := by
  simp only [advance, phase, wrote]

theorem turn_unwritten (config previous : Value) (raised : Raised) (files : ConfigFiles)
    (phase : world.phase client = .staged config previous)
    (wrote : writeConfig yaml disk world.files config = (.error raised, files)) :
    advance yaml python requests world ⟨client, disk⟩ =
      (world.store files).enter client (.answered (.error internalServerError)) := by
  simp only [advance, phase, wrote]

theorem turn_loaded (previous : Value) (settings : Settings) (phase : world.phase client = .written previous)
    (loads : reloadSettings yaml world.files world.settings = (.ok (), settings)) :
    advance yaml python requests world ⟨client, disk⟩ = (world.adopt settings).enter client .reloaded := by
  simp only [advance, phase, loads]

theorem turn_unloaded (previous : Value) (raised : Raised) (settings : Settings) (phase : world.phase client = .written previous)
    (loads : reloadSettings yaml world.files world.settings = (.error raised, settings)) :
    advance yaml python requests world ⟨client, disk⟩ = (world.adopt settings).enter client (.reverting previous) := by
  simp only [advance, phase, loads]

theorem turn_reverted (previous : Value) (files : ConfigFiles) (phase : world.phase client = .reverting previous)
    (wrote : writeConfig yaml disk world.files previous = (.ok (), files)) :
    advance yaml python requests world ⟨client, disk⟩ = (world.store files).enter client .reverted := by
  simp only [advance, phase, wrote]

theorem turn_unreverted (previous : Value) (raised : Raised) (files : ConfigFiles)
    (phase : world.phase client = .reverting previous)
    (wrote : writeConfig yaml disk world.files previous = (.error raised, files)) :
    advance yaml python requests world ⟨client, disk⟩ = (world.store files).enter client (.answered (.error reloadFailed)) := by
  simp only [advance, phase, wrote]

end TurnCases

theorem commit_failed_turns {Client : Type} [DecidableEq Client] (python : Api.Python) (requests : Client → AdminRequest)
    (client : Client) (first second : Disk) (newConfig : Value) (world : World Client)
    (phase : world.phase client = .edited newConfig) (failure : HTTPException)
    (failed : (commitConfig yaml first second newConfig world.files world.settings).1 = .error failure) :
    (handlers yaml python requests).final world (commitTurns client first second) =
      ((world.store (commitConfig yaml first second newConfig world.files world.settings).2.1).adopt
        (commitConfig yaml first second newConfig world.files world.settings).2.2).enter client (.answered (.error failure)) := by
  have done := turn_answered yaml python requests client
  revert failed
  simp only [commitTurns, Machine.final_cons, Machine.final_nil, handlers_step, commitConfig]
  cases read : readConfig yaml world.files with
  | error raised =>
      have stopped : advance yaml python requests world ⟨client, first⟩ =
          world.enter client (.answered (.error internalServerError)) := by simp only [advance, phase, read]
      intro failed
      cases failed
      simp only [stopped, done]
      rfl
  | ok previous =>
      rw [turn_stage yaml python requests client world first newConfig previous phase read]
      rcases wrote : writeConfig yaml first world.files newConfig with ⟨raised | _, left⟩
      · rw [turn_unwritten yaml python requests client first _ newConfig previous raised left (enter_here ..) wrote,
          enter_store, enter_enter]
        intro failed
        cases failed
        simp only [done]
        rfl
      · rw [turn_wrote yaml python requests client first _ newConfig previous left (enter_here ..) wrote,
          enter_store, enter_enter]
        dsimp only
        rcases loads : reloadSettings yaml left world.settings with ⟨raised | _, partly⟩
        · rw [turn_unloaded yaml python requests client first
            ((world.store left).enter client (.written previous)) previous raised partly
            (enter_here ..) loads, enter_adopt, enter_enter]
          dsimp only
          let loaded : World Client := ((world.store left).adopt partly).enter client (.reverting previous)
          rcases reverts : writeConfig yaml second left previous with ⟨again | _, reverted⟩
          · rw [turn_unreverted yaml python requests client second loaded previous again reverted
              (enter_here ..) reverts, enter_store,
              enter_enter]
            intro failed
            cases failed
            simp only [done]
            rfl
          · rw [turn_reverted yaml python requests client second loaded previous reverted (enter_here ..) reverts,
              enter_store, enter_enter]
            intro failed
            cases failed
            simp only [advance, enter_here, enter_files, enter_settings, store_files, enter_adopt, enter_enter]
            rfl
        · intro failed
          cases failed

section CommitCases

variable (first second : Disk) (newConfig previous : Value) (files : ConfigFiles) (settings : Settings)

theorem commit_unwritten (read : readConfig yaml files = .ok previous)
    (failed : first.lands (yaml.safeDump newConfig) = false) :
    commitConfig yaml first second newConfig files settings =
      (.error internalServerError, (writeConfig yaml first files newConfig).2, settings) := by
  have lands := write_lands_iff yaml first files newConfig
  rw [commitConfig, read]
  generalize writeConfig yaml first files newConfig = result at lands
  obtain ⟨answer, left⟩ := result
  cases answer with
  | error raised => rfl
  | ok done => exact absurd (lands.mp rfl) (by simp [failed])

theorem commit_written (read : readConfig yaml files = .ok previous)
    (landed : first.lands (yaml.safeDump newConfig) = true) :
    commitConfig yaml first second newConfig files settings =
      match reloadSettings yaml (writeConfig yaml first files newConfig).2 settings with
      | (.ok (), loaded) => (.ok (), (writeConfig yaml first files newConfig).2, loaded)
      | (.error _, partly) => match writeConfig yaml second (writeConfig yaml first files newConfig).2 previous with
        | (.error _, reverted) => (.error reloadFailed, reverted, partly)
        | (.ok (), reverted) => (.error reloadFailed, reverted, (reloadSettings yaml reverted partly).2) := by
  have lands := write_lands_iff yaml first files newConfig
  rw [commitConfig, read]
  generalize writeConfig yaml first files newConfig = result at lands
  obtain ⟨answer, left⟩ := result
  cases answer with
  | error raised => exact absurd (lands.mpr landed) (by simp)
  | ok done => rfl

theorem landed_main (landed : first.lands (yaml.safeDump newConfig) = true) :
    (writeConfig yaml first files newConfig).2.main = some (yaml.safeDump newConfig) :=
  write_ok yaml first files newConfig ((write_lands_iff yaml first files newConfig).mpr landed)

theorem commit_taken (read : readConfig yaml files = .ok previous)
    (landed : first.lands (yaml.safeDump newConfig) = true) (takes : Takes yaml (some (yaml.safeDump newConfig))) :
    (commitConfig yaml first second newConfig files settings).1 = .ok () := by
  have reloads := reload_takes_iff yaml (writeConfig yaml first files newConfig).2 settings
  rw [landed_main yaml first newConfig files landed] at reloads
  rw [commit_written yaml first second newConfig previous files settings read landed]
  generalize reloadSettings yaml (writeConfig yaml first files newConfig).2 settings = result at reloads
  obtain ⟨answer, loaded⟩ := result
  cases answer with
  | error raised => exact absurd (reloads.mpr takes) (by simp)
  | ok done => rfl

theorem commit_reverted (read : readConfig yaml files = .ok previous)
    (landed : first.lands (yaml.safeDump newConfig) = true) (raises : ¬ Takes yaml (some (yaml.safeDump newConfig))) :
    (commitConfig yaml first second newConfig files settings).1 = .error reloadFailed ∧
      (commitConfig yaml first second newConfig files settings).2.1.main =
        second.written.over (yaml.safeDump previous) (some (yaml.safeDump newConfig)) ∧
      ∀ name, (commitConfig yaml first second newConfig files settings).2.2 name =
        (revertedOverlay yaml second newConfig previous name).getD (settings name) := by
  have main := landed_main yaml first newConfig files landed
  have reloads := reload_takes_iff yaml (writeConfig yaml first files newConfig).2 settings
  rw [main] at reloads
  rw [commit_written yaml first second newConfig previous files settings read landed]
  generalize (writeConfig yaml first files newConfig).2 = left at reloads main
  have settled := rolled_back yaml second newConfig previous left settings main
  have reverted_main := write_main yaml second left previous
  rw [main] at reverted_main
  generalize reloadSettings yaml left settings = result at reloads settled
  obtain ⟨answer, partly⟩ := result
  cases answer with
  | ok done => exact absurd (reloads.mp rfl) raises
  | error raised =>
      dsimp only at settled ⊢
      generalize writeConfig yaml second left previous = rollback at settled reverted_main
      obtain ⟨answer, reverted⟩ := rollback
      cases answer with
      | error raised => exact ⟨rfl, reverted_main, settled⟩
      | ok done => exact ⟨rfl, reverted_main, settled⟩

theorem commit_restores_iff :
    CommitRestores yaml first second newConfig files settings ↔ RollbackRestores yaml first second newConfig files settings := by
  cases read : readConfig yaml files with
  | error raised =>
      have untouched : commitConfig yaml first second newConfig files settings =
        (.error internalServerError, files, settings) := by
        rw [commitConfig, read]
      simp [CommitRestores, RollbackRestores, read, untouched]
  | ok previous =>
      simp only [RollbackRestores, read, Except.ok.injEq, forall_eq']
      by_cases landed : first.lands (yaml.safeDump newConfig) = true
      · by_cases takes : Takes yaml (some (yaml.safeDump newConfig))
        · have done := commit_taken yaml first second newConfig previous files settings read landed takes
          simp [CommitRestores, done, landed, takes]
        · obtain ⟨answer, main, kept⟩ := commit_reverted yaml first second newConfig previous files settings read landed takes
          have same : (commitConfig yaml first second newConfig files settings).2.2 = settings ↔
              ∀ name value, revertedOverlay yaml second newConfig previous name = some value → settings name = value := by
            rw [funext_iff]
            exact forall_congr' fun name => by rw [kept, getD_same]
          simp [CommitRestores, answer, main, same, landed, takes]
      · have failed := Bool.eq_false_iff.mpr landed
        have unwritten := commit_unwritten yaml first second newConfig previous files settings read failed
        simp [CommitRestores, unwritten, failed, write_main]

end CommitCases

-- Both halves, for whatever the settings held, whatever the file and the new
-- configuration say and however the writes fare.
theorem reload_atomic_iff (first second : Disk) (newConfig : Value) (files : ConfigFiles) (settings : Settings) :
    (ReloadKeeps yaml files settings ∧ CommitRestores yaml first second newConfig files settings) ↔
      (¬ Takes yaml files.main → AlreadyThere yaml files.main settings) ∧
        RollbackRestores yaml first second newConfig files settings := by
  rw [reload_keeps_iff, commit_restores_iff]

def handEdited : ConfigFiles := ⟨some (bytes "domains:\n- b.org\nsetup:\n- x\n"), none⟩

def withSetupList (domains : List String) : Value :=
  .map [(.str "domains", .list (domains.map Value.str)), (.str "setup", .list [.str "x"])]

theorem failed_reload_alters_settings :
    ¬ ReloadKeeps blockYaml handEdited (settingsOf (listing ["a.org"])) ∧
      ¬ CommitRestores blockYaml .fine .fine (withSetupList ["b.org", "c.org"]) handEdited (settingsOf (listing ["a.org"])) := by
  constructor
  · intro keeps
    have same : words ["b.org"] = words ["a.org"] := congrFun (keeps .attributeError rfl) .domains
    simp [words] at same
  · intro restores
    have same : words ["b.org"] = words ["a.org"] := congrFun (restores reloadFailed rfl).2 .domains
    simp [words] at same

end Tempmail.Config
