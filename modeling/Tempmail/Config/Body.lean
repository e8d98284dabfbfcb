import Tempmail.Config.Masking
import Tempmail.Config.Served

set_option autoImplicit false

namespace Tempmail.Config

open Api (HTTPException Python internalServerError)

-- A code point of a Python str. An escape of JSON or YAML can give it a surrogate
-- without its partner, U+D800 and the number of unit, which no Char is.
inductive Point where
  | char (c : Char)
  | surrogate (unit : Fin 2048)
deriving DecidableEq

def Point.stray : Point → Bool
  | .char _ => false
  | .surrogate _ => true

def Point.shadow : Point → Char
  | .char c => c
  | .surrogate _ => '\ufffd'

-- The text as apply_patch sees it: of a string it asks for its stripped length, and
-- whether it is a section, a key or a host name. A surrogate counts there as U+FFFD does.
def shadowText (text : List Point) : String := String.ofList (text.map Point.shadow)

-- What json.loads builds of a request's body.
inductive Body where
  | null
  | bool (value : Bool)
  | int (value : Int)
  | float (value : Rat)
  | str (text : List Point)
  | list (items : List Body)
  | map (entries : List (List Point × Body))

namespace Body

mutual

def shadow : Body → Value
  | .null => .null
  | .bool value => .bool value
  | .int value => .int value
  | .float value => .float value
  | .str text => .str (shadowText text)
  | .list items => .list (shadowItems items)
  | .map entries => .map (shadowEntries entries)

def shadowItems : List Body → List Value
  | [] => []
  | item :: rest => shadow item :: shadowItems rest

def shadowEntries : List (List Point × Body) → List (Key × Value)
  | [] => []
  | (key, item) :: rest => (.str (shadowText key), shadow item) :: shadowEntries rest

end

mutual

-- A surrogate stands in the body, less the values that hides takes out of it.
def strays (hides : List Point → Body → Bool) : Body → Bool
  | .str text => text.any Point.stray
  | .list items => straysItems hides items
  | .map entries => straysEntries hides entries
  | _ => false

def straysItems (hides : List Point → Body → Bool) : List Body → Bool
  | [] => false
  | item :: rest => strays hides item || straysItems hides rest

def straysEntries (hides : List Point → Body → Bool) : List (List Point × Body) → Bool
  | [] => false
  | (key, item) :: rest => key.any Point.stray || (!hides key item && strays hides item) || straysEntries hides rest

end

def lone (body : Body) : Bool := body.strays (fun _ _ => false)

-- _mask_secrets stars the scalars under a secret's key before the answer is encoded.
def echoed (body : Body) : Bool :=
  body.strays (fun key item => secretKey (.str (shadowText key)) && item.shadow.scalar)

end Body

-- update_config for a body with a lone surrogate: its answer, and the config.yaml it
-- leaves on success. Value holds no tree with such a string, so what PyYAML writes for
-- the configuration, once the body is merged into it, is a parameter.
def putLone (yaml : Yaml) (python : Python) (dump : Value → Body → List UInt8) (body : Body) (disk : Disk) (held : Held) :
    Except HTTPException (List UInt8) := do
  let config ← uncaught (readConfig yaml held.1)
  let patched ← (AdminRequest.updateConfig body.shadow).edit python config
  if !disk.lands (dump config body) then .error internalServerError
  else match reloadable patched, (apply patched held.2).1 with
    | .ok (), .ok () => do
        uncaught (masked patched)
        if body.echoed then .error internalServerError else .ok (dump config body)
    | _, _ => .error reloadFailed

inductive Asked where
  | addDomain (domain : String)
  | removeDomain (domain : String)
  | updateConfig (body : Body)
  | apikeyRegenerate (newKey : String)

def Asked.request : Asked → AdminRequest
  | .addDomain domain => .addDomain domain
  | .removeDomain domain => .removeDomain domain
  | .updateConfig body => .updateConfig body.shadow
  | .apikeyRegenerate newKey => .apikeyRegenerate newKey

def Asked.lone : Asked → Bool
  | .updateConfig body => body.lone
  | _ => false

structure Call where
  asked : Asked
  first : Disk
  second : Disk

def Call.arrival (call : Call) : Arrival := ⟨call.asked.request, call.first, call.second⟩

end Tempmail.Config
