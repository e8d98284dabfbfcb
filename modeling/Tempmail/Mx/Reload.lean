import Tempmail.Mx.Config

set_option autoImplicit false

namespace Tempmail.Mx

-- What the reload code takes from outside: the YAML decoder and the digest.
structure Loader (Content Hash : Type) where
  unmarshal : Content → Option Config
  sha256 : Content → Hash

-- The package variables of reload.go and config.go. An empty string stands
-- for "no hash yet" and for "unreadable"; both are none here.
structure Watched (Hash : Type) where
  configFilePath : Bool
  configHash : Option Hash
  currentConfig : Option Config
deriving DecidableEq

variable {Content Hash : Type} [DecidableEq Hash]

def Loader.hashFile (loader : Loader Content Hash) (data : Option Content) : Option Hash := data.map loader.sha256

-- The two arguments are the two reads of the file, one by hashFile and one by
-- LoadConfig: nothing stops a write between them.
def reloadIfChanged (loader : Loader Content Hash) (hashed loaded : Option Content) (watched : Watched Hash) :
    Option Config × Watched Hash :=
  let current := loader.hashFile hashed
  if current = none ∨ current = watched.configHash then (none, watched)
  else
    match loadConfig loader.unmarshal loaded with
    | .error _ => (none, watched)
    | .ok cfg => (some cfg, { watched with configHash := current, currentConfig := some cfg })

-- Before SetConfigPath the path is "", which no read can open.
def readConfigPath (watched : Watched Hash) (file : Option Content) : Option Content :=
  if watched.configFilePath then file else none

def Watched.setConfigPath (watched : Watched Hash) : Watched Hash := { watched with configFilePath := true }

theorem reload_consumed (loader : Loader Content Hash) (hashed loaded : Option Content) (watched : Watched Hash)
    (same : loader.hashFile hashed = none ∨ loader.hashFile hashed = watched.configHash) :
    reloadIfChanged loader hashed loaded watched = (none, watched) := by
  simp only [reloadIfChanged, if_pos same]

theorem reload_fresh (loader : Loader Content Hash) (hashed loaded : Option Content) (watched : Watched Hash)
    (cfg : Config) (changed : ¬ (loader.hashFile hashed = none ∨ loader.hashFile hashed = watched.configHash))
    (loads : loadConfig loader.unmarshal loaded = .ok cfg) :
    reloadIfChanged loader hashed loaded watched =
      (some cfg, { watched with configHash := loader.hashFile hashed, currentConfig := some cfg }) := by
  simp only [reloadIfChanged, if_neg changed, loads]

end Tempmail.Mx
