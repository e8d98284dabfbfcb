import Tempmail.Config.Commit

set_option autoImplicit false

namespace Tempmail.Config

open Api (HTTPException Python strip matchLine internalServerError unprocessable)

structure SetupCompleteRequest where
  domains : List String
  hostname : String
  setupKey : Option String := none
  webHostname : Option String := none
  adminToken : Option String := none
  addressLifetimeHours : Option Int := none
  maxStorageMb : Option Int := none
  allowCustomUsernames : Option Bool := none
deriving DecidableEq, Repr

structure SetupCompleteResponse where
  adminToken : String
  domains : List String
  hostname : String
deriving DecidableEq, Repr

def setupCompleted : HTTPException := ⟨403, "Setup has already been completed; use the admin panel to change configuration", []⟩
def invalidSetupKey : HTTPException :=
  ⟨403, "Invalid or missing setup key (see the api container log or setup.sh output)", []⟩
def lifetimeInvalid : HTTPException := ⟨400, "address_lifetime_hours must be >= 1", []⟩
def storageInvalid : HTTPException := ⟨400, "max_storage_mb must be >= 0 (0 = unlimited)", []⟩
def applyFailed : HTTPException := ⟨500, "Failed to apply configuration", []⟩

section Schema

variable (python : Python)

def normalized (message : String → String) (text : String) : Except String String :=
  let text := python.lower (strip text)
  if matchLine lowerDomain text then .ok text else .error (message text)

def validateDomains (domains : List String) : Except String (List String) :=
  if domains.isEmpty then .error "至少需要配置一个域名"
  else domains.mapM (normalized python (fun domain => "域名格式无效: " ++ domain))

def validateHostname : String → Except String String := normalized python (fun _ => "邮件服务器主机名格式无效")

-- v or None: an empty panel domain counts as none.
def validateWebHostname : Option String → Except String (Option String)
  | none => .ok none
  | some text =>
      if python.lower (strip text) = "" then .ok none
      else (normalized python (fun _ => "面板访问域名格式无效") text).map some

def validateAdminToken : Option String → Except String (Option String)
  | none => .ok none
  | some text => if (strip text).length < 8 then .error "管理令牌至少 8 个字符" else .ok (some (strip text))

def SetupCompleteRequest.validate (body : SetupCompleteRequest) : Except String SetupCompleteRequest := do
  let domains ← validateDomains python body.domains
  let hostname ← validateHostname python body.hostname
  let webHostname ← validateWebHostname python body.webHostname
  let adminToken ← validateAdminToken body.adminToken
  .ok { body with domains, hostname, webHostname, adminToken }

end Schema

-- The drawn values are secrets.token_urlsafe(24) and secrets.token_urlsafe(18).
structure SetupRequest where
  body : SetupCompleteRequest
  dependencies : Except HTTPException Unit
  newKey : String
  newToken : String

def orEmpty (value : Value) : Value := if value.truthy then value else .map []

def expectedKey (config : Value) (settings : Settings) : Except Raised Value := do
  let wizard ← config.get "setup" .null
  let key ← (orEmpty wizard).get "key" .null
  .ok (if key.truthy then key else settings .setupKey)

def isAscii (text : String) : Bool := text.toList.all (fun c => c.toNat < 128)

-- hmac.compare_digest on a str and what the configuration holds.
def compareDigest (supplied : String) : Value → Except Raised Bool
  | .str expected => if isAscii supplied && isAscii expected then .ok (supplied == expected) else .error .typeError
  | _ => .error .typeError

def SetupCompleteRequest.suppliedKey (body : SetupCompleteRequest) : String := strip (body.setupKey.getD "")

def SetupRequest.token (request : SetupRequest) (body : SetupCompleteRequest) : String :=
  strip (body.adminToken.getD request.newToken)

def setDefault (value : Value) (key : String) : Except Raised Value := do
  let present ← value.get key (.map [])
  value.setItem key present

def setOptional (outer inner : String) (config : Value) : Option Value → Except HTTPException Value
  | none => .ok config
  | some item => uncaught (config.setNested outer inner item)

def setBounded (bound : Int) (refusal : HTTPException) (key : String) (config : Value) : Option Int → Except HTTPException Value
  | none => .ok config
  | some count => if count < bound then .error refusal else uncaught (config.setNested "tempmail" key (.int count))

-- The configuration complete_setup writes.
def SetupCompleteRequest.edit (body : SetupCompleteRequest) (config : Value) (key : Value) (token : String) :
    Except HTTPException Value := do
  let config ← uncaught (config.setItem "domains" (words body.domains))
  let config ← uncaught (config.setNested "server" "hostname" (.str body.hostname))
  let config ← setOptional "web" "hostname" config (body.webHostname.map .str)
  let config ← uncaught (config.setNested "admin" "token" (.str token))
  let config ← uncaught (setDefault config "tempmail")
  let config ← setBounded 1 lifetimeInvalid "address_lifetime_hours" config body.addressLifetimeHours
  let config ← setBounded 0 storageInvalid "max_storage_mb" config body.maxStorageMb
  let config ← setOptional "tempmail" "allow_custom_usernames" config (body.allowCustomUsernames.map .bool)
  uncaught (config.setItem "setup" (.map [(.str "initialized", .bool true), (.str "key", key)]))

variable (yaml : Yaml) (python : Python)

def ensureSetupKey (disk : Disk) (newKey : String) (config : Value) (files : ConfigFiles) :
    Except Raised (Value × Value) × ConfigFiles :=
  match config.get "setup" (.map []) >>= fun wizard => wizard.get "key" .null with
  | .error raised => (.error raised, files)
  | .ok key =>
      if key.truthy then (.ok (config, key), files)
      else match config.setNested "setup" "key" (.str newKey) with
        | .error raised => (.error raised, files)
        | .ok keyed => match writeConfig yaml disk files keyed with
          | (.ok (), left) => (.ok (keyed, .str newKey), left)
          | (.error raised, left) => (.error raised, left)

def webConfig (config : Value) : Except Raised Unit := do
  let web ← config.get "web" (.map [])
  let server ← config.get "server" (.map [])
  let tls ← config.get "tls" (.map [])
  let _ ← (orEmpty web).get "hostname" (.str "")
  let _ ← (orEmpty web).get "allow_ip_access" (.bool true)
  let _ ← (orEmpty tls).get "enabled" .null
  let _ ← (orEmpty server).get "docs_enabled" (.bool true)
  .ok ()

def strings : Value → Option (List String)
  | .list items => items.mapM (fun item => match item with
      | .str text => some text
      | _ => none)
  | _ => none

def setupResponse (settings : Settings) (token : String) : Except HTTPException SetupCompleteResponse :=
  match strings (settings .domains), settings .hostname with
  | some domains, .str hostname => .ok ⟨token, domains, hostname⟩
  | _, _ => .error internalServerError

-- Where complete_setup stands between two of its calls on the file and the
-- settings.
inductive SetupPhase where
  | received
  | checked (body : SetupCompleteRequest)
  | opened (body : SetupCompleteRequest) (config : Value)
  | keyed (body : SetupCompleteRequest) (config key : Value)
  | written (token : String)
  | reloaded (token : String)
  | answered (answer : Except HTTPException SetupCompleteResponse)

-- How the writes of one step fare, if it writes.
structure SetupFaults where
  disk : Disk
  webFails : Bool

def refused (refusal : HTTPException) : SetupPhase := .answered (.error refusal)

def checkKey (body : SetupCompleteRequest) (config key : Value) : SetupPhase :=
  if body.suppliedKey = "" then refused invalidSetupKey
  else match compareDigest body.suppliedKey key with
    | .error _ => refused internalServerError
    | .ok false => refused invalidSetupKey
    | .ok true => .keyed body config key

def SetupPhase.step (request : SetupRequest) (faults : SetupFaults) (files : ConfigFiles) (settings : Settings) :
    SetupPhase → SetupPhase × ConfigFiles × Settings
  | .received => match request.dependencies, request.body.validate python with
      | .error refusal, _ => (refused refusal, files, settings)
      | _, .error message => (refused (unprocessable message), files, settings)
      | .ok (), .ok body =>
          if (settings .setupInitialized).truthy then (refused setupCompleted, files, settings)
          else (.checked body, files, settings)
  | .checked body => match readConfig yaml files with
      | .error _ => (refused internalServerError, files, settings)
      | .ok config => (.opened body config, files, settings)
  | .opened body config => match expectedKey config settings with
      | .error _ => (refused internalServerError, files, settings)
      | .ok key =>
          if key.truthy then (checkKey body config key, files, settings)
          else match ensureSetupKey yaml faults.disk request.newKey config files with
            | (.error _, left) => (refused internalServerError, left, settings)
            | (.ok (held, key), left) => (checkKey body held key, left, settings)
  | .keyed body config key => match body.edit config key (request.token body) with
      | .error refusal => (refused refusal, files, settings)
      | .ok edited => match writeConfig yaml faults.disk files edited with
        | (.error _, left) => (refused internalServerError, left, settings)
        | (.ok (), left) => (.written (request.token body), left, settings)
  | .written token => match reloadSettings yaml files settings with
      | (.error _, partly) => (refused applyFailed, files, partly)
      | (.ok (), loaded) => (.reloaded token, files, loaded)
  | .reloaded token => match readConfig yaml files >>= webConfig with
      | .error _ => (refused applyFailed, files, settings)
      | .ok () =>
          if faults.webFails then (refused applyFailed, files, settings)
          else (.answered (setupResponse settings token), files, settings)
  | .answered answer => (.answered answer, files, settings)

section Edited

theorem uncaught_ok {α : Type} (result : Except Raised α) (value : α) (done : uncaught result = .ok value) :
    result = .ok value := by
  cases result with
  | error raised => cases done
  | ok found =>
      cases done
      rfl

def initialized (config : Value) : Except Raised Value :=
  config.get "setup" (.map []) >>= fun wizard => wizard.get "initialized" (.bool false)

def adminToken (config : Value) : Except Raised Value := config.get "admin" (.map []) >>= fun admin => admin.get "token" (.str "")

def serverHostname (config : Value) : Except Raised Value :=
  config.get "server" (.map []) >>= fun server => server.get "hostname" (.str "mail.tempmail.local")

theorem set_default_frame (value changed fallback : Value) (key other : String) (apart : other ≠ key)
    (done : setDefault value key = .ok changed) : changed.get other fallback = value.get other fallback := by
  obtain ⟨present, -, stored⟩ := bind_ok _ _ _ done
  exact set_item_frame value changed present fallback key other apart stored

theorem set_optional_frame (outer inner other : String) (value changed fallback : Value) (item : Option Value)
    (apart : other ≠ outer)
    (done : setOptional outer inner value item = .ok changed) : changed.get other fallback = value.get other fallback := by
  cases item with
  | none =>
      cases done
      rfl
  | some item => exact set_nested_frame value changed item fallback outer inner other apart (uncaught_ok _ _ done)

theorem set_bounded_frame (bound : Int) (refusal : HTTPException) (key other : String) (value changed fallback : Value)
    (count : Option Int) (apart : other ≠ "tempmail") (done : setBounded bound refusal key value count = .ok changed) :
    changed.get other fallback = value.get other fallback := by
  cases count with
  | none =>
      cases done
      rfl
  | some count =>
      rw [setBounded] at done
      split at done
      · cases done
      · exact set_nested_frame value changed (.int count) fallback "tempmail" key other apart (uncaught_ok _ _ done)

structure Completed (body : SetupCompleteRequest) (token : String) (config : Value) : Prop where
  initialized : initialized config = .ok (.bool true)
  token : adminToken config = .ok (.str token)
  domains : config.get "domains" (.list []) = .ok (words body.domains)
  hostname : serverHostname config = .ok (.str body.hostname)
  usable : config.usable = true

theorem edit_completed (body : SetupCompleteRequest) (config key edited : Value) (token : String)
    (done : body.edit config key token = .ok edited) : Completed body token edited := by
  obtain ⟨listed, setDomains, done⟩ := bind_ok _ _ _ done
  obtain ⟨named, setHostname, done⟩ := bind_ok _ _ _ done
  obtain ⟨fronted, setWeb, done⟩ := bind_ok _ _ _ done
  obtain ⟨guarded, setToken, done⟩ := bind_ok _ _ _ done
  obtain ⟨defaulted, setTempmail, done⟩ := bind_ok _ _ _ done
  obtain ⟨lived, setLifetime, done⟩ := bind_ok _ _ _ done
  obtain ⟨stored, setStorage, done⟩ := bind_ok _ _ _ done
  obtain ⟨allowed, setAllowed, setSetup⟩ := bind_ok _ _ _ done
  have setSetup := uncaught_ok _ _ setSetup
  have setDomains := uncaught_ok _ _ setDomains
  have setHostname := uncaught_ok _ _ setHostname
  have setToken := uncaught_ok _ _ setToken
  have setTempmail := uncaught_ok _ _ setTempmail
  -- From the admin section on only tempmail and setup are written.
  have later : ∀ other fallback, other ≠ "tempmail" → other ≠ "setup" →
      edited.get other fallback = guarded.get other fallback := by
    intro other fallback apartTempmail apartSetup
    rw [set_item_frame allowed edited _ fallback "setup" other apartSetup setSetup,
      set_optional_frame "tempmail" "allow_custom_usernames" other stored allowed fallback _ apartTempmail setAllowed,
      set_bounded_frame 0 storageInvalid "max_storage_mb" other lived stored fallback body.maxStorageMb apartTempmail setStorage,
      set_bounded_frame 1 lifetimeInvalid "address_lifetime_hours" other defaulted lived fallback body.addressLifetimeHours
        apartTempmail setLifetime,
      set_default_frame guarded defaulted fallback "tempmail" other apartTempmail setTempmail]
  constructor
  · rw [initialized, set_item_get allowed edited _ (.map []) "setup" setSetup]
    rfl
  · rw [adminToken, later "admin" (.map []) (by decide) (by decide)]
    exact set_nested_get fronted guarded (.str token) (.map []) (.str "") "admin" "token" setToken
  · rw [later "domains" (.list []) (by decide) (by decide),
      set_nested_frame fronted guarded (.str token) (.list []) "admin" "token" "domains" (by decide) setToken,
      set_optional_frame "web" "hostname" "domains" named fronted (.list []) _ (by decide) setWeb,
      set_nested_frame listed named (.str body.hostname) (.list []) "server" "hostname" "domains" (by decide) setHostname]
    exact set_item_get config listed (words body.domains) (.list []) "domains" setDomains
  · rw [serverHostname, later "server" (.map []) (by decide) (by decide),
      set_nested_frame fronted guarded (.str token) (.map []) "admin" "token" "server" (by decide) setToken,
      set_optional_frame "web" "hostname" "server" named fronted (.map []) _ (by decide) setWeb]
    exact set_nested_get listed named (.str body.hostname) (.map []) (.str "mail.tempmail.local") "server" "hostname" setHostname
  · exact Value.set_item_usable allowed edited "setup" _ setSetup

end Edited

end Tempmail.Config
