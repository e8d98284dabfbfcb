import Tempmail.Config.Settings

set_option autoImplicit false

namespace Tempmail.Config

-- config.yaml and config.yaml.bak; none is a file that cannot be opened.
structure ConfigFiles where
  main : Option (List UInt8)
  backup : Option (List UInt8)
deriving DecidableEq

-- How far one file of a write_config got before an OSError or a crash.
inductive Extent where
  | unopened
  | upTo (count : Nat)
  | whole
deriving DecidableEq

structure Disk where
  copied : Extent
  written : Extent
  synced : Bool

def Extent.over (content : List UInt8) (old : Option (List UInt8)) : Extent → Option (List UInt8)
  | .unopened => old
  | .upTo count => some (content.take count)
  | .whole => some content

def Extent.complete (content : List UInt8) : Extent → Bool
  | .unopened => false
  | .upTo count => content.length ≤ count
  | .whole => true

def Disk.fine : Disk := ⟨.whole, .whole, true⟩

variable (yaml : Yaml)

def opened : Option (List UInt8) → Except Raised Value
  | none => .error .osError
  | some content => yaml.safeLoad content

def Raised.swallowed : Raised → Bool
  | .osError => true
  | .yamlError => true
  | _ => false

-- A backup that parses to no usable mapping ends the function without a return.
def readBackup (files : ConfigFiles) : Except Raised Value :=
  match opened yaml files.backup with
  | .ok parsed => if parsed.usable then .ok parsed else .ok .null
  | .error raised => if raised.swallowed then .ok (.map []) else .error raised

def readConfig (files : ConfigFiles) : Except Raised Value :=
  match opened yaml files.main with
  | .ok parsed => if parsed.usable then .ok parsed else readBackup yaml files
  | .error raised => if raised.swallowed then readBackup yaml files else .error raised

-- shutil.copyfile, for a config.yaml of more than zero bytes.
def copyBackup (disk : Disk) (files : ConfigFiles) : Option (List UInt8) :=
  match files.main with
  | some (first :: rest) => disk.copied.over (first :: rest) files.backup
  | _ => files.backup

def writeConfig (disk : Disk) (files : ConfigFiles) (config : Value) : Except Raised Unit × ConfigFiles :=
  (if disk.written.complete (yaml.safeDump config) && disk.synced then .ok () else .error .osError,
    ⟨disk.written.over (yaml.safeDump config) files.main, copyBackup disk files⟩)

-- yaml.safe_load(f) or {}
def loadMapping (file : Option (List UInt8)) : Except Raised Value := do
  let parsed ← opened yaml file
  .ok (if parsed.truthy then parsed else .map [])

def notMapping : Raised := .valueError "config.yaml must be a YAML mapping"
def noDomain : Raised := .valueError "config.yaml must contain at least one domain"

def reloadable : Value → Except Raised Unit
  | .map entries => if ((entries.lookup (.str "domains")).getD .null).truthy then .ok () else .error noDomain
  | _ => .error notMapping

def reloadSettings (files : ConfigFiles) (settings : Settings) : Except Raised Unit × Settings :=
  match loadMapping yaml files.main with
  | .error raised => (.error raised, settings)
  | .ok config => match reloadable config with
    | .error raised => (.error raised, settings)
    | .ok () => apply config settings

def blank : Settings := fun _ => .null

-- What load_config hands to _apply; the relative path stands in for a missing CONFIG_PATH.
def startupMapping (files : ConfigFiles) (relative : Option (List UInt8)) : Except Raised Value :=
  match files.main with
  | some content => loadMapping yaml (some content)
  | none => loadMapping yaml relative

def loadConfig (files : ConfigFiles) (relative : Option (List UInt8)) : Except Raised Settings :=
  match startupMapping yaml files relative with
  | .error raised => .error raised
  | .ok config => match apply config blank with
    | (.ok (), settings) => .ok settings
    | (.error raised, _) => .error raised

-- Whether reload_settings would take the configuration.
def accepted (config : Value) : Prop := reloadable config = .ok () ∧ (apply config blank).1 = .ok ()

def settingsOf (config : Value) : Settings := (apply config blank).2

theorem usable_truthy (config : Value) (usable : config.usable = true) : config.truthy = true := by
  cases config <;> simp_all [Value.usable, Value.truthy]

theorem reloadable_usable (config : Value) (takes : reloadable config = .ok ()) : config.usable = true := by
  cases config with
  | map entries =>
      cases entries with
      | nil => cases takes
      | cons entry rest => rfl
  | _ => cases takes

theorem read_usable (files : ConfigFiles) (config : Value) (parsed : opened yaml files.main = .ok config)
    (usable : config.usable = true) : readConfig yaml files = .ok config := by
  rw [readConfig, parsed]
  simp [usable]

theorem load_usable (file : Option (List UInt8)) (config : Value) (parsed : opened yaml file = .ok config)
    (usable : config.usable = true) : loadMapping yaml file = .ok config := by
  simp [loadMapping, parsed, bind, Except.bind, usable_truthy config usable]

theorem load_parsed (file : Option (List UInt8)) (config : Value) (usable : config.usable = true)
    (loaded : loadMapping yaml file = .ok config) : opened yaml file = .ok config := by
  revert loaded
  rw [loadMapping]
  cases opened yaml file with
  | error raised => intro loaded; cases loaded
  | ok parsed =>
      intro loaded
      by_cases truthy : parsed.truthy = true
      · simpa [bind, Except.bind, truthy] using loaded
      · simp only [bind, Except.bind, truthy, Bool.false_eq_true, if_false, Except.ok.injEq] at loaded
        subst loaded
        cases usable

theorem reload_accepted (files : ConfigFiles) (settings : Settings) (config : Value)
    (parsed : opened yaml files.main = .ok config)
    (takes : accepted config) : reloadSettings yaml files settings = (.ok (), settingsOf config) := by
  have usable := reloadable_usable config takes.1
  obtain ⟨answers, forgets⟩ := apply_forgets config settings blank
  have done : (apply config settings).1 = .ok () := answers.trans takes.2
  rw [reloadSettings, load_usable yaml files.main config parsed usable]
  simp only [takes.1]
  exact Prod.ext done (forgets done)

theorem write_ok (disk : Disk) (files : ConfigFiles) (config : Value) (landed : (writeConfig yaml disk files config).1 = .ok ()) :
    (writeConfig yaml disk files config).2.main = some (yaml.safeDump config) := by
  simp only [writeConfig] at landed ⊢
  split at landed
  · rename_i whole
    rw [Bool.and_eq_true] at whole
    revert whole
    cases disk.written with
    | unopened => intro whole; cases whole.1
    | upTo count =>
        intro whole
        have long : (yaml.safeDump config).length ≤ count := by simpa [Extent.complete] using whole.1
        rw [Extent.over, List.take_of_length_le long]
    | whole => intro; rfl
  · cases landed

end Tempmail.Config
