import Mathlib.Algebra.Order.Field.Rat
import Mathlib.Tactic.NormNum
import Tempmail.Api.Atomicity
import Tempmail.Config.Patched
import Tempmail.Config.Settings
import Tempmail.Mx.Data
import Tempmail.Mx.Unmarshal

set_option autoImplicit false

namespace Tempmail.Mx

open Tempmail.Config (Key Value Changes applyPatch normalizeEntry Patching)
open Tempmail.Api (Python strip)

def restartRequiredKeys : Changes :=
  [("cors", "allow_origins"), ("cors", "allow_credentials"), ("cors", "allow_methods"), ("cors", "allow_headers"),
    ("database", "pool_size"), ("database", "max_overflow"), ("server", "max_message_size_mb")]

def restartRequired (changed : Changes) : Bool := changed.any restartRequiredKeys.contains

-- What NewSMTPServer puts into smtp.Server and its backend; the listener, the
-- timeouts and the fifty recipients do not depend on a reloadable key.
structure SMTPServer where
  backend : Config
  validator : Option Validator
  domain : String
  maxMessageBytes : Int64
  tlsConfig : Option (String × String)
deriving DecidableEq, Repr

def newSMTPServer (cfg : Config) : SMTPServer where
  backend := cfg
  validator := if cfg.validation.checkDKIM || cfg.validation.checkSPF || cfg.validation.checkDMARC then some ⟨cfg⟩ else none
  domain := cfg.server.hostname
  maxMessageBytes := cfg.getMaxMessageSize
  tlsConfig := if cfg.tls.enabled then some (cfg.tls.certFile, cfg.tls.keyFile) else none

structure Running (Hash : Type) where
  server : SMTPServer
  watched : Watched Hash
deriving DecidableEq

section Process

variable {Content Hash : Type} [DecidableEq Hash] (runes : Runes) (loader : Loader Content Hash)

-- main: load, store, create the server, and hash the file for the watcher.
def start (file : Option Content) : Except LoadError (Running Hash) :=
  (loadConfig loader.unmarshal file).map (fun cfg => ⟨newSMTPServer cfg, ⟨true, loader.hashFile file, some cfg⟩⟩)

-- One tick of watchConfig; ReloadTLS only logs.
def Running.reload (running : Running Hash) (file : Option Content) : Running Hash :=
  { running with watched := (reloadIfChanged loader file file running.watched).2 }

def Running.newSession (running : Running Hash) (remoteAddr hostname : String) : Session :=
  Mx.newSession runes remoteAddr hostname running.server.backend running.watched.currentConfig running.server.validator

def Watched.maxEmails (watched : Watched Hash) : Int :=
  match watched.currentConfig with
  | none => 100
  | some cfg => if cfg.maxEmailsPerAddress > 0 then cfg.maxEmailsPerAddress else 100

-- Which of the checks ValidateEmail performs; without a validator it is not
-- called.
def evaluated : Option Validator → ValidationConfig
  | none => {}
  | some validator => validator.cfg.validation

-- What a client of a new session and the owner of an address can tell.
structure Behaviour where
  domains : List String
  announcedSize : Int64
  sizeLimit : Int64
  perIpLimit : Int
  mimeLimit : Int
  checks : ValidationConfig
  greeting : String
  startTLS : Bool
  mailCap : Int
deriving DecidableEq, Repr

def Running.behaviour (running : Running Hash) (remoteAddr hostname : String) : Behaviour :=
  let session := running.newSession runes remoteAddr hostname
  { domains := session.domains
    announcedSize := running.server.maxMessageBytes
    sizeLimit := session.cfg.getMaxMessageSize
    perIpLimit := session.cfg.getMaxMessagesPerHourIP
    mimeLimit := session.cfg.getMaxMIMEParts
    checks := evaluated session.validator
    greeting := running.server.domain
    startTLS := running.server.tlsConfig.isSome
    mailCap := running.watched.maxEmails }

theorem evaluated_new (cfg : Config) : evaluated (newSMTPServer cfg).validator = cfg.validation := by
  obtain ⟨domains, database, server, tls, cap, ⟨dkim, spf, dmarc⟩⟩ := cfg
  cases dkim <;> cases spf <;> cases dmarc <;> rfl

theorem tls_new (cfg : Config) : (newSMTPServer cfg).tlsConfig.isSome = cfg.tls.enabled := by
  rw [newSMTPServer]
  cases cfg.tls.enabled <;> rfl

structure Frozen where
  announcedSize : Int64
  checks : ValidationConfig
  greeting : String
  startTLS : Bool
deriving DecidableEq, Repr

def Config.frozen (cfg : Config) : Frozen := ⟨cfg.getMaxMessageSize, cfg.validation, cfg.server.hostname, cfg.tls.enabled⟩

omit [DecidableEq Hash] in
theorem behaviour_iff (left right : Running Hash) (started fresh cfg : Config) (remoteAddr hostname : String)
    (leftServer : left.server = newSMTPServer started) (rightServer : right.server = newSMTPServer fresh)
    (leftCurrent : left.watched.currentConfig = some cfg) (rightCurrent : right.watched.currentConfig = some cfg) :
    left.behaviour runes remoteAddr hostname = right.behaviour runes remoteAddr hostname ↔ started.frozen = fresh.frozen := by
  simp only [Running.behaviour, Running.newSession, newSession, Watched.maxEmails, leftServer, rightServer,
    leftCurrent, rightCurrent,
    Option.getD_some, evaluated_new, tls_new, Config.frozen, Behaviour.mk.injEq, Frozen.mk.injEq, true_and, and_true]
  simp only [newSMTPServer]

end Process

section Patched

variable (python : Python) (printed : Rat → String)

theorem same_as_int (old : Value) (number before after : Int) (same : old.same (.int number) = true)
    (was : decoded asInt 0 (some old) = some before)
    (is : decoded asInt 0 (some (.int number)) = some after) : before = after := by
  cases old with
  | int value =>
      rw [(Config.same_int value number).mp same] at was
      exact Option.some.inj (was.symm.trans is)
  | float value =>
      simp only [Value.same, Value.number, beq_iff_eq, Option.some.injEq] at same
      rw [← same] at was
      simp only [decoded, asInt, Rat.num_intCast, Rat.den_intCast, Nat.cast_one, Int.tdiv_one] at was is
      split at is
      · cases is
      · split at was
        · cases was
        · have bounded : number < 2 ^ 63 := by
            rename_i inside _
            rw [maxInt] at inside
            omega
          have below : (number : Rat) < 2 ^ 63 := by exact_mod_cast bounded
          have after_eq : after = max number minInt := (Option.some.inj is).symm
          by_cases room : -2 ^ 63 ≤ number
          · have above : -2 ^ 63 ≤ (number : Rat) := by exact_mod_cast room
            rw [if_pos ⟨above, below⟩] at was
            have before_eq : before = number := (Option.some.inj was).symm
            rw [before_eq, after_eq, minInt]
            omega
          · have under : ¬ (-2 ^ 63 ≤ (number : Rat)) := fun above => room (by exact_mod_cast above)
            rw [if_neg fun both => under both.1] at was
            have before_eq : before = minInt := (Option.some.inj was).symm
            rw [before_eq, after_eq, minInt]
            omega
  | null => cases same
  | bool value => cases was
  | str text => cases was
  | list items => cases was
  | map entries => cases was
  | other text => cases was

section Field

variable {α : Type} (decode : Value → Option (Option α)) (zero old new : α) (entries after : Entries) (offers : Config.Offers)
  (changed : Changes) (outer key : String) (patching : Patching python (.map entries) offers (.map after, changed))
  (was : nested decode zero entries outer key = some old) (is : nested decode zero after outer key = some new)

include is

section Before

include was

theorem same_field (kept : (Value.map after).setting outer key = (Value.map entries).setting outer key) : new = old := by
  rw [nested_decoded decode zero entries outer key (nested_shape decode zero old entries outer key was)] at was
  rw [nested_decoded decode zero after outer key (nested_shape decode zero new after outer key is), kept] at is
  exact Option.some.inj (is.symm.trans was)

include patching in
theorem kept_field (silent : offers outer key = none) : new = old := by
  have settings := patching.settings outer key
  rw [silent, Option.map_none, Option.none_or] at settings
  exact same_field decode zero old new entries after outer key was is settings

end Before

include patching in
theorem offered_field (value : Value) (offered : offers outer key = some value) :
    decoded decode zero (some (normalizeEntry python outer key value)) = some new := by
  have settings := patching.settings outer key
  rw [offered, Option.map_some, Option.some_or] at settings
  rw [nested_decoded decode zero after outer key (nested_shape decode zero new after outer key is), settings] at is
  exact is

end Field

def givenFlag (patch : Value) (outer key : String) (loaded : Bool) : Bool :=
  match patch.offers outer key with
  | some (.bool flag) => flag
  | _ => loaded

def givenHostname (patch : Value) (loaded : String) : String :=
  match patch.offers "server" "hostname" with
  | some (.str text) => python.lower (strip text)
  | _ => loaded

def given (patch : Value) (loaded : Config) : Frozen where
  announcedSize := loaded.getMaxMessageSize
  checks :=
    { checkDKIM := givenFlag patch "validation" "check_dkim" loaded.validation.checkDKIM
      checkSPF := givenFlag patch "validation" "check_spf" loaded.validation.checkSPF
      checkDMARC := givenFlag patch "validation" "check_dmarc" loaded.validation.checkDMARC }
  greeting := givenHostname python patch loaded.server.hostname
  startTLS := givenFlag patch "tls" "enabled" loaded.tls.enabled

theorem given_flag (patch : Value) (old new : Bool) (entries after : Entries) (changed : Changes) (outer key : String)
    (flagged : (outer, key) ∈ Config.boolKeys) (patching : Patching python (.map entries) patch.offers (.map after, changed))
    (was : nested asBool false entries outer key = some old) (is : nested asBool false after outer key = some new) :
    new = givenFlag patch outer key old := by
  rw [givenFlag]
  cases offer : patch.offers outer key with
  | none => exact kept_field python asBool false old new entries after patch.offers changed outer key patching was is offer
  | some value =>
      obtain ⟨-, held, checked⟩ := patching.offered outer key value offer
      obtain ⟨flag, rfl⟩ := Config.checked_bool held value outer key flagged checked
      have now := offered_field python asBool false new entries after patch.offers changed outer key patching is _ offer
      exact (Option.some.inj now).symm

theorem given_hostname (patch : Value) (old new : String) (entries after : Entries) (changed : Changes)
    (patching : Patching python (.map entries) patch.offers (.map after, changed))
    (was : nested (asString printed) "" entries "server" "hostname" = some old)
    (is : nested (asString printed) "" after "server" "hostname" = some new) :
    (if new = "" then "mail.tempmail.local" else new) =
      givenHostname python patch (if old = "" then "mail.tempmail.local" else old) := by
  rw [givenHostname]
  cases offer : patch.offers "server" "hostname" with
  | none =>
      rw [kept_field python (asString printed) "" old new entries after patch.offers changed "server" "hostname"
        patching was is offer]
  | some value =>
      obtain ⟨-, held, checked⟩ := patching.offered "server" "hostname" value offer
      obtain ⟨text, rfl, valid⟩ := Config.checked_hostname held value checked
      have now := offered_field python
        (asString printed) "" new entries after patch.offers changed "server" "hostname" patching is _ offer
      have new_eq : new = python.lower (strip text) := (Option.some.inj now).symm
      rw [new_eq, if_neg (Config.hostname_named python text valid)]

theorem kept_size (patch : Value) (before now : Int) (entries after : Entries) (changed : Changes)
    (patching : Patching python (.map entries) patch.offers (.map after, changed))
    (noRestart : restartRequired changed = false)
    (was : nested asInt 0 entries "server" "max_message_size_mb" = some before)
    (is : nested asInt 0 after "server" "max_message_size_mb" = some now) : now = before := by
  have silent : ("server", "max_message_size_mb") ∉ changed := by
    intro member
    have listed : restartRequired changed = true := List.any_eq_true.mpr ⟨_, member, by decide⟩
    rw [noRestart] at listed
    cases listed
  rcases patching.steady "server" "max_message_size_mb" (by decide) silent with kept | ⟨old, number, held, moved, same⟩
  · exact same_field asInt 0 before now entries after "server" "max_message_size_mb" was is kept
  · rw [nested_decoded asInt 0 entries _ _ (nested_shape asInt 0 before entries _ _ was), held] at was
    rw [nested_decoded asInt 0 after _ _ (nested_shape asInt 0 now after _ _ is), moved] at is
    exact (same_as_int old number before now same was is).symm

theorem patched_frozen (config patch patched : Value) (changed : Changes) (file next : FileConfig)
    (accepted : applyPatch python config patch = .ok (patched, changed)) (noRestart : restartRequired changed = false)
    (reads : unmarshal printed config = some file) (readsNext : unmarshal printed patched = some next) :
    (withDefaults next.toConfig).frozen = given python patch (withDefaults file.toConfig) := by
  obtain ⟨patching, after, rfl⟩ := Config.patch_applied python config patch _ accepted
  obtain ⟨entries, rfl⟩ := patching.mapping after rfl
  obtain ⟨_, ⟨⟩, was⟩ := (unmarshal_iff printed (.map entries) file).mp reads
  obtain ⟨_, ⟨⟩, is⟩ := (unmarshal_iff printed (.map after) next).mp readsNext
  obtain ⟨before, sizeWas, size_eq⟩ := was.maxMsgSizeMB
  obtain ⟨now, sizeIs, next_eq⟩ := is.maxMsgSizeMB
  have kept := kept_size python patch before now entries after changed patching noRestart sizeWas sizeIs
  have dkim := given_flag python patch _ _ entries after changed "validation" "check_dkim"
    (by decide) patching was.checkDKIM is.checkDKIM
  have spf := given_flag python patch _ _ entries after changed "validation" "check_spf"
    (by decide) patching was.checkSPF is.checkSPF
  have dmarc := given_flag python patch _ _ entries after changed "validation" "check_dmarc"
    (by decide) patching was.checkDMARC is.checkDMARC
  have tls := given_flag python patch _ _ entries after changed "tls" "enabled" (by decide) patching was.enabled is.enabled
  have hostname := given_hostname python printed patch _ _ entries after changed patching was.hostname is.hostname
  have size : (withDefaults next.toConfig).getMaxMessageSize = (withDefaults file.toConfig).getMaxMessageSize := by
    simp only [Config.getMaxMessageSize, withDefaults, next_eq, size_eq, kept]
  simp only [Config.frozen, given, size]
  simp only [withDefaults, ← dkim, ← spf, ← dmarc, ← tls, ← hostname]

end Patched

section Agreement

variable {Hash IP : Type} (runes : Runes) (services : Services IP)

theorem validate_checks (left right : Validator) (same : left.cfg.validation = right.cfg.validation) (network : Network IP)
    (rawMessage : Bytes) (sender clientIP : String) :
    left.validateEmail runes network rawMessage sender clientIP =
      right.validateEmail runes network rawMessage sender clientIP := by
  simp only [Validator.validateEmail, same]

theorem new_sessions_agree (left right : Running Hash) (started fresh cfg : Config) (remoteAddr hostname : String)
    (leftServer : left.server = newSMTPServer started) (rightServer : right.server = newSMTPServer fresh)
    (leftCurrent : left.watched.currentConfig = some cfg) (rightCurrent : right.watched.currentConfig = some cfg)
    (frozen : started.frozen = fresh.frozen) (windows : IpWindows) (now : Time) (incoming : Incoming) (envelope : Envelope)
    (rawMessage : Bytes) :
    (left.newSession runes remoteAddr hostname).receive services windows now incoming =
        (right.newSession runes remoteAddr hostname).receive services windows now incoming ∧
      (left.newSession runes remoteAddr hostname).composeEmail runes services envelope rawMessage now =
        (right.newSession runes remoteAddr hostname).composeEmail runes services envelope rawMessage now := by
  have checks : started.validation = fresh.validation := congrArg Frozen.checks frozen
  have left_eq : left.newSession runes remoteAddr hostname =
      { right.newSession runes remoteAddr hostname with validator := left.server.validator } := by
    simp only [Running.newSession, newSession, leftCurrent, rightCurrent, Option.getD_some]
  constructor
  · rw [left_eq]
    rfl
  · have right_eq : (right.newSession runes remoteAddr hostname).validator = right.server.validator := rfl
    rw [left_eq, Session.composeEmail, Session.composeEmail, right_eq, leftServer, rightServer]
    simp only [newSMTPServer, checks]
    by_cases any : (fresh.validation.checkDKIM || fresh.validation.checkSPF || fresh.validation.checkDMARC) = true
    · simp only [any, if_true, validate_checks runes ⟨started⟩ ⟨fresh⟩ checks]
      rfl
    · simp only [any]
      rfl

end Agreement

section HotReload

variable {Content Hash : Type} [DecidableEq Hash] (runes : Runes) (loader : Loader Content Hash) (python : Python)
  (printed : Rat → String)

-- yaml.v3 finds in a file the tree that PyYAML reads from it or wrote to it.
def ReadsAs (content : Content) (config : Value) : Prop :=
  loader.unmarshal content = (unmarshal printed config).map FileConfig.toConfig

def Noticed (running : Running Hash) (after : Content) : Prop :=
  loader.hashFile (some after) ≠ running.watched.configHash ∨
    ∃ cfg, running.watched.currentConfig = some cfg ∧ loadConfig loader.unmarshal (some after) = .ok cfg

def LikeRestart (running fresh : Running Hash) (after : Content) : Prop :=
  ∀ remoteAddr hostname, (running.reload loader (some after)).behaviour runes remoteAddr hostname =
    fresh.behaviour runes remoteAddr hostname

theorem noticed_reload (running : Running Hash) (after : Content) (cfg : Config) (noticed : Noticed loader running after)
    (loads : loadConfig loader.unmarshal (some after) = .ok cfg) :
    (running.reload loader (some after)).watched.currentConfig = some cfg := by
  rw [Running.reload]
  rcases noticed with differs | ⟨known, current, already⟩
  · have changed : ¬ (loader.hashFile (some after) = none ∨ loader.hashFile (some after) = running.watched.configHash) :=
      fun consumed => consumed.elim (fun none => by cases none) differs
    rw [reload_fresh loader (some after) (some after) running.watched cfg changed loads]
  · by_cases same : loader.hashFile (some after) = none ∨ loader.hashFile (some after) = running.watched.configHash
    · rw [reload_consumed loader (some after) (some after) running.watched same, current]
      rw [already] at loads
      exact congrArg some (Except.ok.inj loads)
    · rw [reload_fresh loader (some after) (some after) running.watched cfg same loads]

-- A server created from one configuration, a process that has loaded another,
-- and a patch to that one.
theorem hot_reload_like_restart_iff (running fresh : Running Hash) (started loaded : Config) (config patch patched : Value)
    (changed : Changes) (before after : Content) (created : running.server = newSMTPServer started)
    (loads : loadConfig loader.unmarshal (some before) = .ok loaded) (readsBefore : ReadsAs loader printed before config)
    (accepted : applyPatch python config patch = .ok (patched, changed)) (noRestart : restartRequired changed = false)
    (readsAfter : ReadsAs loader printed after patched) (restarts : start loader (some after) = .ok fresh)
    (noticed : Noticed loader running after) :
    LikeRestart runes loader running fresh after ↔ started.frozen = given python patch loaded := by
  cases answer : loadConfig loader.unmarshal (some after) with
  | error failure =>
      rw [start, answer] at restarts
      cases restarts
  | ok cfg =>
      rw [start, answer] at restarts
      have fresh_eq : fresh = ⟨newSMTPServer cfg, ⟨true, loader.hashFile (some after), some cfg⟩⟩ := (Except.ok.inj restarts).symm
      obtain ⟨raw, read, -, -, loaded_eq⟩ := load_config_ok loader.unmarshal before loaded loads
      obtain ⟨rawNext, readNext, -, -, cfg_eq⟩ := load_config_ok loader.unmarshal after cfg answer
      rw [readsBefore, Option.map_eq_some_iff] at read
      rw [readsAfter, Option.map_eq_some_iff] at readNext
      obtain ⟨file, reads, rfl⟩ := read
      obtain ⟨next, readsNext, rfl⟩ := readNext
      have frozen := patched_frozen python printed config patch patched changed file next accepted noRestart reads readsNext
      rw [← cfg_eq, ← loaded_eq] at frozen
      rw [← frozen]
      have current := noticed_reload loader running after cfg noticed answer
      have same := fun remoteAddr hostname => behaviour_iff runes (running.reload loader (some after)) fresh started cfg cfg
        remoteAddr hostname created (by rw [fresh_eq]) current (by rw [fresh_eq])
      exact ⟨fun like => (same "" "").mp (like "" ""), fun agrees remoteAddr hostname => (same remoteAddr hostname).mpr agrees⟩

end HotReload

section Example

def relayConfig (tls : Bool) (cap : Int) : Value :=
  .map [(.str "domains", Config.words ["a.org"]), (.str "database", .map [(.str "url", .str "db")]),
    (.str "tls", .map [(.str "enabled", .bool tls)]), (.str "tempmail", .map [(.str "max_emails_per_address", .int cap)])]

def relayDocuments : List Value := [relayConfig false 100, relayConfig true 100, relayConfig false 5]

def relayFile (tls : Bool) (cap : Int) : Bytes := Config.blockDump (relayConfig tls cap)

def relayLoader : Loader Bytes Bytes where
  unmarshal content := match (Config.documentYaml relayDocuments).safeLoad content with
    | .ok config => (unmarshal (fun _ => "") config).map FileConfig.toConfig
    | .error _ => none
  sha256 content := content

def relayRaw (tls : Bool) (cap : Int) : Config :=
  { domains := ["a.org"], database := { url := "db" }, tls := { enabled := tls }, maxEmailsPerAddress := cap }

def relayLoaded (tls : Bool) (cap : Int) : Config := withDefaults (relayRaw tls cap)

def relayRunning (tls : Bool) (cap : Int) : Running Bytes :=
  ⟨newSMTPServer (relayLoaded tls cap), ⟨true, some (relayFile tls cap), some (relayLoaded tls cap)⟩⟩

theorem relay_distinct :
    relayDocuments.Pairwise (fun left right => Config.blockDump left ≠ Config.blockDump right) := by decide +kernel

theorem relay_reads (tls : Bool) (cap : Int) (known : relayConfig tls cap ∈ relayDocuments) :
    ReadsAs relayLoader (fun _ => "") (relayFile tls cap) (relayConfig tls cap) := by
  have reads := Config.document_reads relayDocuments relay_distinct (relayConfig tls cap) known
  have dumped (value : Value) : (Config.documentYaml relayDocuments).safeDump value = Config.blockDump value := rfl
  rw [Config.Yaml.Reads, dumped] at reads
  simp only [ReadsAs, relayLoader, relayFile, reads]

theorem relay_unmarshal (tls : Bool) (cap : Int) (held : asInt (.int cap) = some (some cap)) :
    unmarshal (fun _ => "") (relayConfig tls cap) = some { toConfig := relayRaw tls cap } := by
  have capped : decoded asInt 0 (some (.int cap)) = some cap := by
    rw [decoded, held]
    rfl
  refine (unmarshal_iff (fun _ => "") (relayConfig tls cap) _).mpr ⟨_, rfl, ?_⟩
  refine ⟨?_, ?_, ?_, ?_, ⟨0, ?_, rfl⟩, ?_, ?_, ?_, ?_, ?_, ?_, ?_, capped, ?_, ?_, ?_, ?_, ?_, ?_, ?_, ?_, ?_, ?_⟩ <;> rfl

theorem relay_loads (tls : Bool) (cap : Int) (known : relayConfig tls cap ∈ relayDocuments)
    (held : asInt (.int cap) = some (some cap)) :
    loadConfig relayLoader.unmarshal (some (relayFile tls cap)) = .ok (relayLoaded tls cap) := by
  rw [loadConfig, relay_reads tls cap known, relay_unmarshal tls cap held]
  rfl

theorem relay_starts (tls : Bool) (cap : Int) (known : relayConfig tls cap ∈ relayDocuments)
    (held : asInt (.int cap) = some (some cap)) :
    start relayLoader (some (relayFile tls cap)) = .ok (relayRunning tls cap) := by
  rw [start, relay_loads tls cap known held]
  rfl

theorem relay_noticed (cap : Int) (tls : Bool) (other : relayConfig tls cap ∈ [relayConfig true 100, relayConfig false 5]) :
    Noticed relayLoader (relayRunning false 100) (relayFile tls cap) :=
  Or.inl fun same => (List.pairwise_cons.mp relay_distinct).1 _ other (Option.some.inj same).symm

def tlsPatch : Value := .map [(.str "tls", .map [(.str "enabled", .bool true)])]
def capPatch : Value := .map [(.str "tempmail", .map [(.str "max_emails_per_address", .int 5)])]

theorem tls_patch_accepted :
    applyPatch Api.asciiPython (relayConfig false 100) tlsPatch = .ok (relayConfig true 100, [("tls", "enabled")]) := by rfl

theorem cap_patch_accepted : applyPatch Api.asciiPython (relayConfig false 100) capPatch =
    .ok (relayConfig false 5, [("tempmail", "max_emails_per_address")]) := by rfl

-- A changed mail cap needs no restart.
theorem cap_patch_like_restart :
    LikeRestart asciiRunes relayLoader (relayRunning false 100) (relayRunning false 5) (relayFile false 5) ↔
      (relayLoaded false 100).frozen = given Api.asciiPython capPatch (relayLoaded false 100) :=
  hot_reload_like_restart_iff asciiRunes relayLoader Api.asciiPython (fun _ => "") (relayRunning false 100) (relayRunning false 5)
    (relayLoaded false 100) (relayLoaded false 100) (relayConfig false 100) capPatch (relayConfig false 5) _ (relayFile false 100)
    (relayFile false 5) rfl (relay_loads false 100 (by simp [relayDocuments]) rfl)
    (relay_reads false 100 (by simp [relayDocuments]))
    cap_patch_accepted rfl (relay_reads false 5 (by simp [relayDocuments])) (relay_starts false 5 (by simp [relayDocuments]) rfl)
    (relay_noticed 5 false (by simp))

-- TLS switched on: no restart is asked for, and STARTTLS stays off until one.
theorem tls_patch_unlike_restart :
    restartRequired [("tls", "enabled")] = false ∧
      applyPatch Api.asciiPython (relayConfig false 100) tlsPatch = .ok (relayConfig true 100, [("tls", "enabled")]) ∧
      start relayLoader (some (relayFile true 100)) = .ok (relayRunning true 100) ∧
      ¬ LikeRestart asciiRunes relayLoader (relayRunning false 100) (relayRunning true 100) (relayFile true 100) := by
  refine ⟨by decide, tls_patch_accepted, relay_starts true 100 (by simp [relayDocuments]) rfl, fun like => ?_⟩
  have current := noticed_reload relayLoader (relayRunning false 100) (relayFile true 100) (relayLoaded true 100)
    (relay_noticed 100 true (by simp)) (relay_loads true 100 (by simp [relayDocuments]) rfl)
  have frozen := (behaviour_iff asciiRunes _ (relayRunning true 100) (relayLoaded false 100) (relayLoaded true 100)
    (relayLoaded true 100) "" "" rfl rfl current rfl).mp (like "" "")
  exact absurd (congrArg Frozen.startTLS frozen) (by decide)

end Example

end Tempmail.Mx
