import Tempmail.Config.Patched
import Tempmail.Mx.Config

set_option autoImplicit false

namespace Tempmail.Mx

open Tempmail.Config (Key Value)

-- Every field of the Go struct; the ones above Config are only parsed.
structure FileConfig extends Config where
  apiPort : Int := 0
  addressLifetimeHours : Int := 0
  cleanupIntervalHours : Int := 0
  addressFormat : String := ""
  storeResults : Bool := false
  level : String := ""
  format : String := ""
deriving DecidableEq, Repr

def maxInt : Int := 2 ^ 63 - 1
def minInt : Int := -2 ^ 63

section Scalars

-- The text of a float in the file, which a string field keeps.
variable (printed : Rat → String)

-- yaml.v3 on one value and one field: none is a type error, some none leaves
-- the field as it is. An integer below int64 is read as a float and converted.
def asInt : Value → Option (Option Int)
  | .null => some none
  | .int value => if maxInt < value then none else some (some (max value minInt))
  | .float value =>
      if 2 ^ 63 < value then none
      else some (some (if -2 ^ 63 ≤ value ∧ value < 2 ^ 63 then value.num.tdiv value.den else minInt))
  | _ => none

def asString : Value → Option (Option String)
  | .null => some none
  | .bool value => some (some (if value then "true" else "false"))
  | .int value => some (some (toString value))
  | .float value => some (some (printed value))
  | .str text => some (some text)
  | .other text => some (some text)
  | _ => none

-- A typed bool also takes the words of YAML 1.1.
def asBool : Value → Option (Option Bool)
  | .null => some none
  | .bool value => some (some value)
  | .str text =>
      if text ∈ ["y", "Y", "yes", "Yes", "YES", "on", "On", "ON"] then some (some true)
      else if text ∈ ["n", "N", "no", "No", "NO", "off", "Off", "OFF"] then some (some false)
      else none
  | _ => none

def asStrings : Value → Option (Option (List String))
  | .null => some none
  | .list items => (items.mapM (asString printed)).map (fun texts => some (texts.filterMap id))
  | _ => none

def pointer {α : Type} (decode : Value → Option (Option α)) (value : Value) : Option (Option (Option α)) :=
  (decode value).map (Option.map some)

end Scalars

abbrev Entries := List (Key × Value)

def asMapping : Value → Option Entries
  | .null => some []
  | .map entries => some entries
  | _ => none

def decoded {α : Type} (decode : Value → Option (Option α)) (zero : α) : Option Value → Option α
  | none => some zero
  | some value => (decode value).map (fun found => found.getD zero)

def field {α : Type} (decode : Value → Option (Option α)) (zero : α) (entries : Entries) (key : String) : Option α :=
  decoded decode zero (entries.lookup (.str key))

def group (entries : Entries) (outer : String) : Option Entries :=
  match entries.lookup (.str outer) with
  | none => some []
  | some value => asMapping value

def nested {α : Type} (decode : Value → Option (Option α)) (zero : α) (entries : Entries) (outer key : String) : Option α :=
  (group entries outer).bind (fun found => field decode zero found key)

section Unmarshal

variable (printed : Rat → String)

def unmarshalServer (entries : Entries) : Option ServerConfig := do
  let mxPort ← nested asInt 0 entries "server" "mx_port"
  let maxMsgSizeMB ← nested asInt 0 entries "server" "max_message_size_mb"
  let hostname ← nested (asString printed) "" entries "server" "hostname"
  let maxConnections ← nested asInt 0 entries "server" "max_connections"
  let maxMessagesPerHourIP ← nested (pointer asInt) none entries "server" "max_messages_per_hour_per_ip"
  let maxMIMEParts ← nested (pointer asInt) none entries "server" "max_mime_parts"
  some { mxPort, maxMsgSizeMB := Int64.ofInt maxMsgSizeMB, hostname, maxConnections, maxMessagesPerHourIP, maxMIMEParts }

def unmarshalDatabase (entries : Entries) : Option DatabaseConfig := do
  let url ← nested (asString printed) "" entries "database" "url"
  let poolSize ← nested asInt 0 entries "database" "pool_size"
  some { url, poolSize }

def unmarshalTLS (entries : Entries) : Option TLSConfig := do
  let enabled ← nested asBool false entries "tls" "enabled"
  let certFile ← nested (asString printed) "" entries "tls" "cert_file"
  let keyFile ← nested (asString printed) "" entries "tls" "key_file"
  some { enabled, certFile, keyFile }

def unmarshalValidation (entries : Entries) : Option ValidationConfig := do
  let checkDKIM ← nested asBool false entries "validation" "check_dkim"
  let checkSPF ← nested asBool false entries "validation" "check_spf"
  let checkDMARC ← nested asBool false entries "validation" "check_dmarc"
  some { checkDKIM, checkSPF, checkDMARC }

-- yaml.Unmarshal of a document into the zero Config.
def unmarshal (config : Value) : Option FileConfig := do
  let entries ← asMapping config
  let domains ← field (asStrings printed) [] entries "domains"
  let database ← unmarshalDatabase printed entries
  let server ← unmarshalServer printed entries
  let tls ← unmarshalTLS printed entries
  let maxEmailsPerAddress ← nested asInt 0 entries "tempmail" "max_emails_per_address"
  let validation ← unmarshalValidation entries
  let apiPort ← nested asInt 0 entries "server" "api_port"
  let addressLifetimeHours ← nested asInt 0 entries "tempmail" "address_lifetime_hours"
  let cleanupIntervalHours ← nested asInt 0 entries "tempmail" "cleanup_interval_hours"
  let addressFormat ← nested (asString printed) "" entries "tempmail" "address_format"
  let storeResults ← nested asBool false entries "validation" "store_results"
  let level ← nested (asString printed) "" entries "logging" "level"
  let format ← nested (asString printed) "" entries "logging" "format"
  let read : Config := { domains, database, server, tls, maxEmailsPerAddress, validation }
  some { toConfig := read, apiPort, addressLifetimeHours, cleanupIntervalHours, addressFormat, storeResults, level, format }

theorem nested_shape {α : Type} (decode : Value → Option (Option α)) (zero found : α) (entries : Entries) (outer key : String)
    (read : nested decode zero entries outer key = some found) : (group entries outer).isSome = true := by
  rw [nested] at read
  cases shape : group entries outer with
  | none =>
      rw [shape] at read
      cases read
  | some inner => rfl

theorem nested_decoded {α : Type} (decode : Value → Option (Option α)) (zero : α) (entries : Entries) (outer key : String)
    (shaped : (group entries outer).isSome = true) :
    nested decode zero entries outer key = decoded decode zero ((Value.map entries).setting outer key) := by
  rw [nested, Value.setting, Value.top]
  rw [group] at shaped ⊢
  cases present : entries.lookup (.str outer) with
  | none => rfl
  | some value =>
      rw [present] at shaped
      cases value with
      | null => rfl
      | map inner => rfl
      | _ => cases shaped

structure Unmarshalled (entries : Entries) (file : FileConfig) : Prop where
  domains : field (asStrings printed) [] entries "domains" = some file.domains
  url : nested (asString printed) "" entries "database" "url" = some file.database.url
  poolSize : nested asInt 0 entries "database" "pool_size" = some file.database.poolSize
  mxPort : nested asInt 0 entries "server" "mx_port" = some file.server.mxPort
  maxMsgSizeMB : ∃ size, nested asInt 0 entries "server" "max_message_size_mb" = some size ∧
    file.server.maxMsgSizeMB = Int64.ofInt size
  hostname : nested (asString printed) "" entries "server" "hostname" = some file.server.hostname
  maxConnections : nested asInt 0 entries "server" "max_connections" = some file.server.maxConnections
  maxMessagesPerHourIP : nested (pointer asInt) none entries "server" "max_messages_per_hour_per_ip" =
    some file.server.maxMessagesPerHourIP
  maxMIMEParts : nested (pointer asInt) none entries "server" "max_mime_parts" = some file.server.maxMIMEParts
  enabled : nested asBool false entries "tls" "enabled" = some file.tls.enabled
  certFile : nested (asString printed) "" entries "tls" "cert_file" = some file.tls.certFile
  keyFile : nested (asString printed) "" entries "tls" "key_file" = some file.tls.keyFile
  maxEmailsPerAddress : nested asInt 0 entries "tempmail" "max_emails_per_address" = some file.maxEmailsPerAddress
  checkDKIM : nested asBool false entries "validation" "check_dkim" = some file.validation.checkDKIM
  checkSPF : nested asBool false entries "validation" "check_spf" = some file.validation.checkSPF
  checkDMARC : nested asBool false entries "validation" "check_dmarc" = some file.validation.checkDMARC
  apiPort : nested asInt 0 entries "server" "api_port" = some file.apiPort
  addressLifetimeHours : nested asInt 0 entries "tempmail" "address_lifetime_hours" = some file.addressLifetimeHours
  cleanupIntervalHours : nested asInt 0 entries "tempmail" "cleanup_interval_hours" = some file.cleanupIntervalHours
  addressFormat : nested (asString printed) "" entries "tempmail" "address_format" = some file.addressFormat
  storeResults : nested asBool false entries "validation" "store_results" = some file.storeResults
  level : nested (asString printed) "" entries "logging" "level" = some file.level
  format : nested (asString printed) "" entries "logging" "format" = some file.format

theorem server_found (entries : Entries) (server : ServerConfig) (read : unmarshalServer printed entries = some server) :
    nested asInt 0 entries "server" "mx_port" = some server.mxPort ∧
      (∃ size, nested asInt 0 entries "server" "max_message_size_mb" = some size ∧ server.maxMsgSizeMB = Int64.ofInt size) ∧
      nested (asString printed) "" entries "server" "hostname" = some server.hostname ∧
      nested asInt 0 entries "server" "max_connections" = some server.maxConnections ∧
      nested (pointer asInt) none entries "server" "max_messages_per_hour_per_ip" = some server.maxMessagesPerHourIP ∧
      nested (pointer asInt) none entries "server" "max_mime_parts" = some server.maxMIMEParts := by
  obtain ⟨mxPort, port, read⟩ := Option.bind_eq_some_iff.mp read
  obtain ⟨maxMsgSizeMB, size, read⟩ := Option.bind_eq_some_iff.mp read
  obtain ⟨hostname, host, read⟩ := Option.bind_eq_some_iff.mp read
  obtain ⟨maxConnections, connections, read⟩ := Option.bind_eq_some_iff.mp read
  obtain ⟨maxMessagesPerHourIP, rate, read⟩ := Option.bind_eq_some_iff.mp read
  obtain ⟨maxMIMEParts, parts, read⟩ := Option.bind_eq_some_iff.mp read
  rw [← Option.some.inj read]
  exact ⟨port, ⟨maxMsgSizeMB, size, rfl⟩, host, connections, rate, parts⟩

theorem database_found (entries : Entries) (database : DatabaseConfig)
    (read : unmarshalDatabase printed entries = some database) :
    nested (asString printed) "" entries "database" "url" = some database.url ∧
      nested asInt 0 entries "database" "pool_size" = some database.poolSize := by
  obtain ⟨url, reached, read⟩ := Option.bind_eq_some_iff.mp read
  obtain ⟨poolSize, pool, read⟩ := Option.bind_eq_some_iff.mp read
  rw [← Option.some.inj read]
  exact ⟨reached, pool⟩

theorem tls_found (entries : Entries) (tls : TLSConfig) (read : unmarshalTLS printed entries = some tls) :
    nested asBool false entries "tls" "enabled" = some tls.enabled ∧
      nested (asString printed) "" entries "tls" "cert_file" = some tls.certFile ∧
      nested (asString printed) "" entries "tls" "key_file" = some tls.keyFile := by
  obtain ⟨enabled, flag, read⟩ := Option.bind_eq_some_iff.mp read
  obtain ⟨certFile, cert, read⟩ := Option.bind_eq_some_iff.mp read
  obtain ⟨keyFile, key, read⟩ := Option.bind_eq_some_iff.mp read
  rw [← Option.some.inj read]
  exact ⟨flag, cert, key⟩

theorem validation_found (entries : Entries) (validation : ValidationConfig)
    (read : unmarshalValidation entries = some validation) :
    nested asBool false entries "validation" "check_dkim" = some validation.checkDKIM ∧
      nested asBool false entries "validation" "check_spf" = some validation.checkSPF ∧
      nested asBool false entries "validation" "check_dmarc" = some validation.checkDMARC := by
  obtain ⟨checkDKIM, dkim, read⟩ := Option.bind_eq_some_iff.mp read
  obtain ⟨checkSPF, spf, read⟩ := Option.bind_eq_some_iff.mp read
  obtain ⟨checkDMARC, dmarc, read⟩ := Option.bind_eq_some_iff.mp read
  rw [← Option.some.inj read]
  exact ⟨dkim, spf, dmarc⟩

theorem unmarshal_iff (config : Value) (file : FileConfig) :
    unmarshal printed config = some file ↔ ∃ entries, asMapping config = some entries ∧ Unmarshalled printed entries file := by
  constructor
  · intro read
    obtain ⟨entries, mapping, read⟩ := Option.bind_eq_some_iff.mp read
    obtain ⟨domains, listed, read⟩ := Option.bind_eq_some_iff.mp read
    obtain ⟨database, databaseRead, read⟩ := Option.bind_eq_some_iff.mp read
    obtain ⟨server, serverRead, read⟩ := Option.bind_eq_some_iff.mp read
    obtain ⟨tls, tlsRead, read⟩ := Option.bind_eq_some_iff.mp read
    obtain ⟨maxEmailsPerAddress, cap, read⟩ := Option.bind_eq_some_iff.mp read
    obtain ⟨validation, validationRead, read⟩ := Option.bind_eq_some_iff.mp read
    obtain ⟨apiPort, api, read⟩ := Option.bind_eq_some_iff.mp read
    obtain ⟨addressLifetimeHours, lifetime, read⟩ := Option.bind_eq_some_iff.mp read
    obtain ⟨cleanupIntervalHours, interval, read⟩ := Option.bind_eq_some_iff.mp read
    obtain ⟨addressFormat, style, read⟩ := Option.bind_eq_some_iff.mp read
    obtain ⟨storeResults, store, read⟩ := Option.bind_eq_some_iff.mp read
    obtain ⟨level, levelRead, read⟩ := Option.bind_eq_some_iff.mp read
    obtain ⟨format, formatRead, read⟩ := Option.bind_eq_some_iff.mp read
    obtain ⟨url, pool⟩ := database_found printed entries database databaseRead
    obtain ⟨port, size, host, connections, rate, parts⟩ := server_found printed entries server serverRead
    obtain ⟨enabled, cert, key⟩ := tls_found printed entries tls tlsRead
    obtain ⟨dkim, spf, dmarc⟩ := validation_found entries validation validationRead
    rw [← Option.some.inj read]
    exact ⟨entries, mapping, listed, url, pool, port, size, host, connections, rate, parts, enabled, cert, key,
      cap, dkim, spf, dmarc, api, lifetime, interval, style, store, levelRead, formatRead⟩
  · intro ⟨entries, mapping, read⟩
    obtain ⟨size, sizeRead, size_eq⟩ := read.maxMsgSizeMB
    have database : unmarshalDatabase printed entries = some file.database := by
      simp only [unmarshalDatabase, bind, read.url, read.poolSize, Option.bind_some]
    have server : unmarshalServer printed entries = some file.server := by
      simp only [unmarshalServer, bind, read.mxPort, sizeRead, read.hostname, read.maxConnections, read.maxMessagesPerHourIP,
        read.maxMIMEParts, Option.bind_some, ← size_eq]
    have tls : unmarshalTLS printed entries = some file.tls := by
      simp only [unmarshalTLS, bind, read.enabled, read.certFile, read.keyFile, Option.bind_some]
    have validation : unmarshalValidation entries = some file.validation := by
      simp only [unmarshalValidation, bind, read.checkDKIM, read.checkSPF, read.checkDMARC, Option.bind_some]
    simp only [unmarshal, bind, mapping, read.domains, database, server, tls, read.maxEmailsPerAddress, validation, read.apiPort,
      read.addressLifetimeHours, read.cleanupIntervalHours, read.addressFormat, read.storeResults, read.level, read.format,
      Option.bind_some]

end Unmarshal

def loadFile {Content : Type} (unmarshal : Content → Option FileConfig) (data : Option Content) : Except LoadError FileConfig :=
  match data with
  | none => .error .unreadable
  | some content =>
      match unmarshal content with
      | none => .error .unparsable
      | some file =>
          if file.database.url = "" then .error .databaseUrlRequired
          else if file.domains.length = 0 then .error .domainRequired
          else .ok { file with toConfig := withDefaults file.toConfig }

theorem load_file_config {Content : Type} (unmarshal : Content → Option FileConfig) (data : Option Content) :
    (loadFile unmarshal data).map FileConfig.toConfig =
      loadConfig (fun content => (unmarshal content).map FileConfig.toConfig) data := by
  cases data with
  | none => rfl
  | some content =>
      simp only [loadFile, loadConfig]
      cases unmarshal content with
      | none => rfl
      | some file =>
          simp only [Option.map_some]
          split
          · rfl
          · split <;> rfl

theorem load_config_ok {Content : Type} (unmarshal : Content → Option Config) (content : Content) (cfg : Config)
    (loads : loadConfig unmarshal (some content) = .ok cfg) :
    ∃ raw, unmarshal content = some raw ∧ raw.database.url ≠ "" ∧ raw.domains ≠ [] ∧ cfg = withDefaults raw := by
  simp only [loadConfig] at loads
  cases read : unmarshal content with
  | none =>
      rw [read] at loads
      cases loads
  | some raw =>
      simp only [read] at loads
      by_cases url : raw.database.url = ""
      · rw [if_pos url] at loads
        cases loads
      · rw [if_neg url] at loads
        by_cases empty : raw.domains.length = 0
        · rw [if_pos empty] at loads
          cases loads
        · rw [if_neg empty] at loads
          exact ⟨raw, rfl, url, fun none => empty (by rw [none]; rfl), (Except.ok.inj loads).symm⟩

end Tempmail.Mx
