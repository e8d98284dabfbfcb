import Tempmail.Config.Yaml

set_option autoImplicit false

namespace Tempmail.Config

inductive Attribute where
  | domains | adminToken | setupInitialized | databaseUrl | dbPoolSize | dbMaxOverflow
  | apiHost | apiPort | mxPort | maxMessageSizeMb | hostname | docsEnabled
  | addressLifetimeHours | maxEmailsPerAddress | cleanupIntervalHours | addressFormat | allowCustomUsernames
  | minUsernameLength | maxUsernameLength | maxStorageMb | reservedUsernames
  | checkDkim | checkSpf | checkDmarc | storeValidationResults
  | tlsEnabled | tlsCertFile | tlsKeyFile | webHostname | webAllowIpAccess | integrationApiKey
  | permanentEmailRetentionDays | maxPermanentAddresses | logLevel | logFormat
  | corsAllowOrigins | corsAllowCredentials | corsAllowMethods | corsAllowHeaders | setupKey
  | rlAddressCreate | rlPermanentCreate | rlApiCreate | rlSetup | rlAdmin | rlEmailRead
deriving DecidableEq, Repr

abbrev Settings := Attribute → Value

-- self.X = config.get(key, fallback), self.X = config.get(outer, {}).get(key, fallback),
-- and the check that no wildcard origin keeps its credentials.
inductive Assignment where
  | top (name : Attribute) (key : String) (fallback : Value)
  | nested (name : Attribute) (outer key : String) (fallback : Value)
  | refuseWildcardCredentials

def words (items : List String) : Value := .list (items.map Value.str)

def reservedUsernames : List String :=
  ["admin", "postmaster", "abuse", "noreply", "no-reply", "root", "webmaster", "hostmaster", "mailer-daemon",
    "info", "support", "security", "sales", "contact"]

def assignments : List Assignment :=
  [.top .domains "domains" (.list []),
    .nested .adminToken "admin" "token" (.str ""),
    .nested .setupInitialized "setup" "initialized" (.bool false),
    .nested .databaseUrl "database" "url" (.str ""),
    .nested .dbPoolSize "database" "pool_size" (.int 10),
    .nested .dbMaxOverflow "database" "max_overflow" (.int 20),
    .nested .apiHost "server" "api_host" (.str "127.0.0.1"),
    .nested .apiPort "server" "api_port" (.int 8000),
    .nested .mxPort "server" "mx_port" (.int 25),
    .nested .maxMessageSizeMb "server" "max_message_size_mb" (.int 10),
    .nested .hostname "server" "hostname" (.str "mail.tempmail.local"),
    .nested .docsEnabled "server" "docs_enabled" (.bool true),
    .nested .addressLifetimeHours "tempmail" "address_lifetime_hours" (.int 24),
    .nested .maxEmailsPerAddress "tempmail" "max_emails_per_address" (.int 100),
    .nested .cleanupIntervalHours "tempmail" "cleanup_interval_hours" (.int 1),
    .nested .addressFormat "tempmail" "address_format" (.str "random"),
    .nested .allowCustomUsernames "tempmail" "allow_custom_usernames" (.bool true),
    .nested .minUsernameLength "tempmail" "min_username_length" (.int 3),
    .nested .maxUsernameLength "tempmail" "max_username_length" (.int 64),
    .nested .maxStorageMb "tempmail" "max_storage_mb" (.int 1024),
    .nested .reservedUsernames "tempmail" "reserved_usernames" (words reservedUsernames),
    .nested .checkDkim "validation" "check_dkim" (.bool true),
    .nested .checkSpf "validation" "check_spf" (.bool true),
    .nested .checkDmarc "validation" "check_dmarc" (.bool true),
    .nested .storeValidationResults "validation" "store_results" (.bool true),
    .nested .tlsEnabled "tls" "enabled" (.bool false),
    .nested .tlsCertFile "tls" "cert_file" (.str "/config/certs/cert.pem"),
    .nested .tlsKeyFile "tls" "key_file" (.str "/config/certs/key.pem"),
    .nested .webHostname "web" "hostname" (.str ""),
    .nested .webAllowIpAccess "web" "allow_ip_access" (.bool true),
    .nested .integrationApiKey "integration" "api_key" (.str ""),
    .nested .permanentEmailRetentionDays "tempmail" "permanent_email_retention_days" (.int 30),
    .nested .maxPermanentAddresses "tempmail" "max_permanent_addresses" (.int 0),
    .nested .logLevel "logging" "level" (.str "info"),
    .nested .logFormat "logging" "format" (.str "json"),
    .nested .corsAllowOrigins "cors" "allow_origins" (.list []),
    .nested .corsAllowCredentials "cors" "allow_credentials" (.bool false),
    .nested .corsAllowMethods "cors" "allow_methods" (words ["*"]),
    .nested .corsAllowHeaders "cors" "allow_headers" (words ["*"]),
    .refuseWildcardCredentials,
    .nested .setupKey "setup" "key" (.str ""),
    .nested .rlAddressCreate "rate_limits" "address_create_per_minute" (.int 50),
    .nested .rlPermanentCreate "rate_limits" "permanent_create_per_minute" (.int 20),
    .nested .rlApiCreate "rate_limits" "api_create_per_minute" (.int 0),
    .nested .rlSetup "rate_limits" "setup_per_minute" (.int 5),
    .nested .rlAdmin "rate_limits" "admin_per_minute" (.int 120),
    .nested .rlEmailRead "rate_limits" "email_read_per_minute" (.int 300)]

def Settings.set (settings : Settings) (name : Attribute) (value : Value) : Settings :=
  fun asked => if asked = name then value else settings asked

def Assignment.run (config : Value) (settings : Settings) : Assignment → Except Raised Settings
  | .top name key fallback => do
      let value ← config.get key fallback
      .ok (settings.set name value)
  | .nested name outer key fallback => do
      let nested ← config.get outer (.map [])
      let value ← nested.get key fallback
      .ok (settings.set name value)
  | .refuseWildcardCredentials => do
      let star ← (settings .corsAllowOrigins).hasStar
      if star && (settings .corsAllowCredentials).truthy then .ok (settings.set .corsAllowCredentials (.bool false))
      else .ok settings

-- The assignments made before an exception stay.
def assign (config : Value) : List Assignment → Settings → Except Raised Unit × Settings
  | [], settings => (.ok (), settings)
  | assignment :: rest, settings => match assignment.run config settings with
      | .ok next => assign config rest next
      | .error raised => (.error raised, settings)

def apply (config : Value) (settings : Settings) : Except Raised Unit × Settings := assign config assignments settings

def Assignment.sets : Assignment → List Attribute
  | .top name _ _ => [name]
  | .nested name _ _ _ => [name]
  | .refuseWildcardCredentials => []

def Assignment.reads : Assignment → List Attribute
  | .refuseWildcardCredentials => [.corsAllowOrigins, .corsAllowCredentials]
  | _ => []

def Agree (known : List Attribute) (left right : Settings) : Prop := ∀ name ∈ known, left name = right name

def ordered : List Attribute → List Assignment → Bool
  | _, [] => true
  | known, assignment :: rest => assignment.reads.all (· ∈ known) && ordered (assignment.sets ++ known) rest

theorem agree_set (known : List Attribute) (left right : Settings) (name : Attribute) (value : Value)
    (agree : Agree known left right) : Agree (name :: known) (left.set name value) (right.set name value) := by
  intro asked member
  unfold Settings.set
  split
  · rfl
  · rename_i other
    exact agree asked ((List.mem_cons.mp member).resolve_left other)

theorem agree_refuse (known : List Attribute) (left right : Settings) (value : Value) (agree : Agree known left right) :
    Agree known (left.set .corsAllowCredentials value) (right.set .corsAllowCredentials value) :=
  fun asked member => agree_set known left right _ value agree asked (List.mem_cons_of_mem _ member)

-- One assignment answers alike on settings that agree on what it reads, and keeps them alike.
theorem run_agree (config : Value) (assignment : Assignment) (known : List Attribute) (left right : Settings)
    (reads : ∀ name ∈ assignment.reads, name ∈ known) (agree : Agree known left right) :
    match assignment.run config left, assignment.run config right with
      | .ok nextLeft, .ok nextRight => Agree (assignment.sets ++ known) nextLeft nextRight
      | .error raisedLeft, .error raisedRight => raisedLeft = raisedRight
      | _, _ => False := by
  cases assignment with
  | top name key fallback =>
      cases read : config.get key fallback with
      | error raised => simp [Assignment.run, read, bind, Except.bind]
      | ok value =>
          simpa [Assignment.run, read, bind, Except.bind, Assignment.sets]
            using agree_set known left right name value agree
  | nested name outer key fallback =>
      cases inner : config.get outer (.map []) with
      | error raised => simp [Assignment.run, inner, bind, Except.bind]
      | ok nested =>
          cases read : nested.get key fallback with
          | error raised => simp [Assignment.run, inner, read, bind, Except.bind]
          | ok value =>
              simpa [Assignment.run, inner, read, bind, Except.bind, Assignment.sets] using
                agree_set known left right name value agree
  | refuseWildcardCredentials =>
      have origins := agree .corsAllowOrigins (reads _ (by simp [Assignment.reads]))
      have credentials := agree .corsAllowCredentials (reads _ (by simp [Assignment.reads]))
      cases star : (right .corsAllowOrigins).hasStar with
      | error raised => simp [Assignment.run, origins, star, bind, Except.bind]
      | ok found =>
          by_cases refused : found && (right .corsAllowCredentials).truthy
          · simpa [Assignment.run, origins, credentials, star, refused, bind, Except.bind, Assignment.sets] using
              agree_refuse known left right (.bool false) agree
          · simpa [Assignment.run, origins, credentials, star, refused, bind, Except.bind, Assignment.sets] using agree

theorem assign_agree (config : Value) (program : List Assignment) (known : List Attribute) (left right : Settings)
    (inOrder : ordered known program = true) (agree : Agree known left right) :
    (assign config program left).1 = (assign config program right).1 ∧
      ((assign config program left).1 = .ok () →
        Agree (program.flatMap Assignment.sets ++ known) (assign config program left).2 (assign config program right).2) := by
  induction program generalizing known left right with
  | nil => exact ⟨rfl, fun _ => agree⟩
  | cons assignment rest ih =>
      rw [ordered, Bool.and_eq_true, List.all_eq_true] at inOrder
      have here := run_agree config assignment known left right (fun a member => by simpa using inOrder.1 a member) agree
      revert here
      unfold assign
      cases assignment.run config left with
      | error raised =>
          cases assignment.run config right with
          | error other =>
              intro here
              exact ⟨by rw [show raised = other from here], fun done => by cases done⟩
          | ok next => exact False.elim
      | ok nextLeft =>
          cases assignment.run config right with
          | error other => exact False.elim
          | ok nextRight =>
              intro here
              obtain ⟨answers, later⟩ := ih (assignment.sets ++ known) nextLeft nextRight inOrder.2 here
              refine ⟨answers, fun done name member => later done name ?_⟩
              simp only [List.flatMap_cons, List.mem_append] at member ⊢
              tauto

theorem apply_forgets (config : Value) (left right : Settings) :
    (apply config left).1 = (apply config right).1 ∧
    ((apply config left).1 = .ok () → (apply config left).2 = (apply config right).2) := by
  obtain ⟨answers, agree⟩ := assign_agree config assignments [] left right (by decide) (by simp [Agree])
  refine ⟨answers, fun done => funext fun name => agree done name ?_⟩
  cases name <;> decide

end Tempmail.Config
