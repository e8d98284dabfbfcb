import Tempmail.Api.Creation
import Tempmail.Config.Yaml

set_option autoImplicit false

namespace Tempmail.Config

open Api (Python strip matchLine domainLabel)

def allowedPatchSections : List (String × List String) :=
  [("server", ["max_message_size_mb", "docs_enabled", "hostname"]),
    ("tempmail", ["address_lifetime_hours", "max_emails_per_address", "cleanup_interval_hours", "address_format",
      "allow_custom_usernames", "min_username_length", "max_username_length", "reserved_usernames", "max_storage_mb",
      "permanent_email_retention_days", "max_permanent_addresses"]),
    ("validation", ["check_dkim", "check_spf", "check_dmarc", "store_results"]),
    ("cors", ["allow_origins", "allow_credentials", "allow_methods", "allow_headers"]),
    ("database", ["pool_size", "max_overflow"]),
    ("admin", ["token"]),
    ("tls", ["enabled"]),
    ("web", ["hostname", "allow_ip_access"]),
    ("rate_limits", ["address_create_per_minute", "permanent_create_per_minute", "api_create_per_minute",
      "setup_per_minute", "admin_per_minute", "email_read_per_minute"])]

def intKeys : List (String × String) :=
  [("server", "max_message_size_mb"), ("tempmail", "address_lifetime_hours"), ("tempmail", "max_emails_per_address"),
    ("tempmail", "cleanup_interval_hours"), ("tempmail", "min_username_length"), ("tempmail", "max_username_length"),
    ("tempmail", "max_storage_mb"), ("tempmail", "permanent_email_retention_days"), ("tempmail", "max_permanent_addresses"),
    ("database", "pool_size"), ("database", "max_overflow"),
    ("rate_limits", "address_create_per_minute"), ("rate_limits", "permanent_create_per_minute"),
    ("rate_limits", "api_create_per_minute"), ("rate_limits", "setup_per_minute"),
    ("rate_limits", "admin_per_minute"), ("rate_limits", "email_read_per_minute")]

def boolKeys : List (String × String) :=
  [("server", "docs_enabled"), ("tempmail", "allow_custom_usernames"), ("validation", "check_dkim"),
    ("validation", "check_spf"), ("validation", "check_dmarc"), ("validation", "store_results"),
    ("cors", "allow_credentials"), ("tls", "enabled"), ("web", "allow_ip_access")]

def listKeys : List (String × String) :=
  [("tempmail", "reserved_usernames"), ("cors", "allow_origins"), ("cors", "allow_methods"), ("cors", "allow_headers")]

def positiveIntKeys : List (String × String) :=
  [("server", "max_message_size_mb"), ("tempmail", "address_lifetime_hours"), ("tempmail", "max_emails_per_address"),
    ("tempmail", "cleanup_interval_hours"), ("tempmail", "min_username_length"), ("tempmail", "max_username_length"),
    ("tempmail", "permanent_email_retention_days"), ("tempmail", "max_permanent_addresses"),
    ("database", "pool_size"), ("database", "max_overflow")]

def topLevelLabel (label : List Char) : Bool := 2 ≤ label.length && label.length ≤ 63 && label.all Char.isAlpha

def hostnamePattern (chars : List Char) : Bool :=
  chars.length ≤ 253 && 2 ≤ (chars.splitOn '.').length && (chars.splitOn '.').dropLast.all domainLabel &&
    (chars.splitOn '.').getLast?.any topLevelLabel

def isHostname (text : String) : Bool := matchLine hostnamePattern text

namespace Value

def isInt : Value → Bool
  | .int _ => true
  | _ => false

def isBool : Value → Bool
  | .bool _ => true
  | _ => false

def isStr : Value → Bool
  | .str _ => true
  | _ => false

def isWords : Value → Bool
  | .list items => items.all isStr
  | _ => false

def smaller (value : Value) (bound : Int) : Bool :=
  match value with
  | .int number => number < bound
  | _ => false

def lessThan (left right : Value) : Except Raised Bool :=
  match left.number, right.number with
  | some x, some y => .ok (x < y)
  | _, _ => .error .typeError

def strMeets (check : String → Bool) : Value → Bool
  | .str text => check text
  | _ => false

end Value

def Key.text : Key → String
  | .str text => text
  | .other text => text

def refuse (condition : Bool) (message : String) : Except Raised Unit :=
  if condition then .error (.valueError message) else .ok ()

def checkShape (group key : String) (value : Value) : Except Raised Unit := do
  let k := (group, key)
  let dotted := group ++ "." ++ key
  if k ∈ intKeys then
    refuse (!value.isInt) (dotted ++ " 必须是整数")
    refuse (k ∈ positiveIntKeys && value.smaller 1) (dotted ++ " 必须 >= 1")
    refuse (group == "rate_limits" && value.smaller 0) "限流值不能为负数（0 表示关闭该限制）"
    refuse (k == ("tempmail", "max_storage_mb") && value.smaller 0) "max_storage_mb 必须 >= 0（0 表示不限制）"
  refuse (k ∈ boolKeys && !value.isBool) (dotted ++ " 必须是布尔值")
  refuse (k ∈ listKeys && !value.isWords) (dotted ++ " 必须是字符串列表")
  refuse (k == ("server", "hostname") && !value.strMeets (fun text => isHostname (strip text)))
    "server.hostname 必须是合法主机名（如 mx.example.com）"
  refuse (k == ("web", "hostname") && !value.strMeets (fun text => strip text == "" || isHostname (strip text)))
    "web.hostname 必须是合法主机名，或留空表示不单独配置面板域名"
  refuse (k == ("admin", "token") && !value.strMeets (fun text => 8 ≤ (strip text).length && (strip text).length ≤ 128))
    "admin.token 必须是 8-128 字符的字符串"

-- The checks that read the other username bound from the configuration.
def checkBounds (config : Value) (group key : String) (value : Value) : Except Raised Unit := do
  let k := (group, key)
  if k == ("tempmail", "min_username_length") then
    let tempmail ← config.get "tempmail" (.map [])
    let most ← tempmail.get "max_username_length" (.int 64)
    let above ← most.lessThan value
    refuse above "min_username_length 不能大于 max_username_length"
  if k == ("tempmail", "max_username_length") then
    let tempmail ← config.get "tempmail" (.map [])
    let least ← tempmail.get "min_username_length" (.int 3)
    let under ← value.lessThan least
    refuse under "max_username_length 不能小于 min_username_length"

def checkEntry (config : Value) (group key : String) (value : Value) : Except Raised Unit := do
  checkShape group key value
  checkBounds config group key value

def normalizeEntry (python : Python) (group key : String) (value : Value) : Value :=
  match value with
  | .str text => if (group, key) ∈ [("server", "hostname"), ("web", "hostname")] then .str (python.lower (strip text)) else value
  | _ => value

abbrev Changes := List (String × String)

def applyEntry (python : Python) (group : String) (allowed : List String) (state : Value × Changes) (entry : Key × Value) :
    Except Raised (Value × Changes) := do
  let (config, changed) := state
  let key := entry.1.text
  refuse (match entry.1 with
      | .str text => text ∉ allowed
      | .other _ => true) ("不允许修改的配置项: " ++ group ++ "." ++ key)
  checkEntry config group key entry.2
  let value := normalizeEntry python group key entry.2
  let nested ← config.get group (.map [])
  let old ← nested.get key .null
  let patched ← config.setNested group key value
  .ok (patched, if old.same value || (group, key) ∈ changed then changed else changed ++ [(group, key)])

def applySection (python : Python) (state : Value × Changes) (part : Key × Value) : Except Raised (Value × Changes) :=
  match part with
  | (.str group, values) => match allowedPatchSections.lookup group, values with
      | none, _ => .error (.valueError ("不允许修改的配置段: " ++ group))
      | some allowed, .map entries => entries.foldlM (applyEntry python group allowed) state
      | some _, _ => .error (.valueError ("配置段 " ++ group ++ " 必须是对象"))
  | (.other text, _) => .error (.valueError ("不允许修改的配置段: " ++ text))

def webHostname (web : Value) : Except Raised String := do
  let hostname ← web.get "hostname" .null
  match hostname with
  | .str text => .ok (strip text)
  | other => if other.truthy then .error .attributeError else .ok ""

def checkPanel (config : Value) : Except Raised Unit := do
  let web ← config.get "web" (.map [])
  match ← web.get "allow_ip_access" .null with
  | .bool false => do
      let hostname ← webHostname web
      refuse (hostname == "") "web.allow_ip_access 不能在没有 web.hostname 时关闭（否则无法限制访问）"
  | _ => .ok ()

def applyPatch (python : Python) (config patch : Value) : Except Raised (Value × Changes) :=
  match patch with
  | .map sections => do
      let (patched, changed) ← sections.foldlM (applySection python) (config, [])
      checkPanel patched
      .ok (patched, changed)
  | _ => .error (.valueError "patch must be an object")

end Tempmail.Config
