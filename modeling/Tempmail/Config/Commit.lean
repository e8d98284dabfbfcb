import Mathlib.Logic.Function.Basic
import Tempmail.Config.File
import Tempmail.Config.Patch
import Tempmail.Lib.Machine

set_option autoImplicit false

namespace Tempmail.Config

open Api (HTTPException Python strip matchLine domainLabel internalServerError)

def domainExists (domain : String) : HTTPException := ⟨409, "域名已存在: " ++ domain, []⟩
def tooManyDomains : HTTPException := ⟨400, "域名数量已达上限 (100)", []⟩
def domainMissing (domain : String) : HTTPException := ⟨404, "域名不存在: " ++ domain, []⟩
def lastDomain : HTTPException := ⟨400, "不能删除最后一个域名", []⟩
def domainInvalid (domain : String) : HTTPException := ⟨400, "域名格式无效: " ++ domain, []⟩
def reloadFailed : HTTPException := ⟨500, "配置重载失败，已回滚到修改前的配置", []⟩

def lowerDomain (chars : List Char) : Bool :=
  chars.all (fun c => !c.isUpper) && 2 ≤ (chars.splitOn '.').length && (chars.splitOn '.').all domainLabel

def validateDomainFormat (python : Python) (domain : String) : Except HTTPException String :=
  let domain := python.lower (strip domain)
  if domain == "" || 253 < domain.length || !matchLine lowerDomain domain then .error (domainInvalid domain) else .ok domain

-- The new key is the draw of secrets.token_urlsafe.
inductive AdminRequest where
  | addDomain (domain : String)
  | removeDomain (domain : String)
  | updateConfig (patch : Value)
  | apikeyRegenerate (newKey : String)

def uncaught {α : Type} : Except Raised α → Except HTTPException α
  | .ok value => .ok value
  | .error _ => .error internalServerError

-- [d for d in (config.get('domains') or [])]
def configuredDomains (config : Value) : Except Raised (List Value) := do
  let domains ← config.get "domains" .null
  if domains.truthy then domains.iterate else .ok []

def AdminRequest.prepare (python : Python) : AdminRequest → Except HTTPException AdminRequest
  | .addDomain domain => (validateDomainFormat python domain).map .addDomain
  | .removeDomain domain => .ok (.removeDomain (python.lower (strip domain)))
  | request => .ok request

def AdminRequest.edit (python : Python) (config : Value) : AdminRequest → Except HTTPException Value
  | .addDomain domain => do
      let domains ← uncaught (configuredDomains config)
      if Value.member (.str domain) domains then .error (domainExists domain)
      else if 100 ≤ domains.length then .error tooManyDomains
      else uncaught (config.setItem "domains" (.list (domains ++ [.str domain])))
  | .removeDomain domain => do
      let domains ← uncaught (configuredDomains config)
      if !Value.member (.str domain) domains then .error (domainMissing domain)
      else if domains.length ≤ 1 then .error lastDomain
      else uncaught (config.setItem "domains" (.list (domains.filter (fun d => !d.same (.str domain)))))
  | .updateConfig patch => match applyPatch python config patch with
      | .ok (patched, _) => .ok patched
      | .error (.valueError message) => .error ⟨400, message, []⟩
      | .error _ => .error internalServerError
  | .apikeyRegenerate newKey => uncaught (config.setNested "integration" "api_key" (.str newKey))

def AdminRequest.change (python : Python) (request : AdminRequest) (config : Value) : Except HTTPException Value := do
  let prepared ← request.prepare python
  prepared.edit python config

-- mask_config raises where there is no database mapping; its result is only echoed.
def masked (config : Value) : Except Raised Unit := do
  let database ← config.get "database" (.map [])
  let _ ← database.get "url" .null
  .ok ()

variable (yaml : Yaml) (python : Python)

def AdminRequest.respond (files : ConfigFiles) : AdminRequest → Except HTTPException Unit
  | .updateConfig _ => uncaught (readConfig yaml files >>= masked)
  | _ => .ok ()

-- Where a handler stands between two of its calls on the file and the settings.
inductive Phase where
  | received
  | edited (config : Value)
  | staged (config previous : Value)
  | written (previous : Value)
  | reloaded
  | reverting (previous : Value)
  | reverted
  | answered (answer : Except HTTPException Unit)

structure World (Client : Type) where
  files : ConfigFiles
  settings : Settings
  phase : Client → Phase

-- The thread that runs next, and how its write fares if it writes.
structure Turn (Client : Type) where
  client : Client
  disk : Disk

variable {Client : Type} [DecidableEq Client] (requests : Client → AdminRequest)

def World.enter (world : World Client) (client : Client) (phase : Phase) : World Client :=
  { world with phase := Function.update world.phase client phase }

def World.store (world : World Client) (files : ConfigFiles) : World Client := { world with files := files }

def World.adopt (world : World Client) (settings : Settings) : World Client := { world with settings := settings }

def begin (request : AdminRequest) (files : ConfigFiles) : Phase :=
  match request.prepare python with
  | .error refusal => .answered (.error refusal)
  | .ok prepared => match readConfig yaml files with
    | .error _ => .answered (.error internalServerError)
    | .ok config => match prepared.edit python config with
      | .error refusal => .answered (.error refusal)
      | .ok edited => .edited edited

def advance (world : World Client) (turn : Turn Client) : World Client :=
  match world.phase turn.client with
  | .received => world.enter turn.client (begin yaml python (requests turn.client) world.files)
  | .edited config => world.enter turn.client (match readConfig yaml world.files with
      | .ok previous => .staged config previous
      | .error _ => .answered (.error internalServerError))
  | .staged config previous => match writeConfig yaml turn.disk world.files config with
      | (.ok (), files) => (world.store files).enter turn.client (.written previous)
      | (.error _, files) => (world.store files).enter turn.client (.answered (.error internalServerError))
  | .written previous => match reloadSettings yaml world.files world.settings with
      | (.ok (), settings) => (world.adopt settings).enter turn.client .reloaded
      | (.error _, settings) => (world.adopt settings).enter turn.client (.reverting previous)
  | .reloaded => world.enter turn.client (.answered ((requests turn.client).respond yaml world.files))
  | .reverting previous => match writeConfig yaml turn.disk world.files previous with
      | (.ok (), files) => (world.store files).enter turn.client .reverted
      | (.error _, files) => (world.store files).enter turn.client (.answered (.error reloadFailed))
  | .reverted => (world.adopt (reloadSettings yaml world.files world.settings).2).enter turn.client
      (.answered (.error reloadFailed))
  | .answered _ => world

def handlers : Machine (World Client) (Turn Client) Unit where
  step world turn := (advance yaml python requests world turn, ())

def arrive (files : ConfigFiles) (settings : Settings) : World Client := ⟨files, settings, fun _ => .received⟩

def uninterrupted (client : Client) : List (Turn Client) := List.replicate 5 ⟨client, .fine⟩

end Tempmail.Config
