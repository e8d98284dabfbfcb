import Tempmail.Api.RateLimit
import Tempmail.Store.Operations

set_option autoImplicit false

namespace Tempmail.Api

open Store (Uuid Time AddressType AddressRow Db)

-- str.lower; outside ASCII it is Unicode data the repository does not hold.
structure Python where
  lower : String → String
  ascii : ∀ text : String, (∀ c ∈ text.toList, c.toNat < 128) → lower text = Text.mapChars Char.toLower text
  noUpper : ∀ text : String, ∀ c ∈ (lower text).toList, c.isUpper = false
  newline : ∀ text : String, (lower text).toList.getLast? = some '\n' → text.toList.getLast? = some '\n'

structure CreationSettings where
  domains : List String
  allowCustomUsernames : Bool
  reservedUsernames : List String
  minUsernameLength : Int
  maxUsernameLength : Int
  addressLifetimeHours : Int
  maxPermanentAddresses : Int
  integrationApiKey : String
deriving DecidableEq, Repr

-- re.match with a trailing $: the end of the text, or the newline that ends it.
def matchLine (whole : List Char → Bool) (text : String) : Bool :=
  whole text.toList || (text.toList.getLast? == some '\n' && whole text.toList.dropLast)

def isAlnum (c : Char) : Bool := c.isAlpha || c.isDigit

def isUsernameChar (c : Char) : Bool := isAlnum c || c == '.' || c == '_' || c == '-'

def usernamePattern (chars : List Char) : Bool := !chars.isEmpty && chars.all isUsernameChar

def domainLabel (label : List Char) : Bool :=
  label.length ≤ 63 && label.all (fun c => isAlnum c || c == '-') &&
    label.head?.any isAlnum && label.getLast?.any isAlnum

def domainPattern (chars : List Char) : Bool := (chars.splitOn '.').all domainLabel

def usernameTooShort (bound : Int) : String := "Username must be at least " ++ toString bound ++ " characters"
def usernameTooLong (bound : Int) : String := "Username must be at most " ++ toString bound ++ " characters"
def usernameCharacters : String := "Username can only contain letters, numbers, dots, hyphens, and underscores"
def invalidDomainFormat : String := "Invalid domain format"

structure AddressCreate where
  username : Option String := none
  domain : Option String := none
deriving DecidableEq, Repr

structure PermanentAddressCreate where
  username : String
  domain : Option String := none
deriving DecidableEq, Repr

section Schemas

variable (python : Python)

def validateDomainFormat : Option String → Except String (Option String)
  | none => .ok none
  | some v =>
      let v := python.lower (strip v)
      if matchLine domainPattern v then .ok (some v) else .error invalidDomainFormat

def AddressCreate.validateUsername (settings : CreationSettings) : Option String → Except String (Option String)
  | none => .ok none
  | some v =>
      let v := strip v
      if (v.length : Int) < settings.minUsernameLength then .error (usernameTooShort settings.minUsernameLength)
      else if (v.length : Int) > settings.maxUsernameLength then .error (usernameTooLong settings.maxUsernameLength)
      else if matchLine usernamePattern v then .ok (some (python.lower v))
      else .error usernameCharacters

def PermanentAddressCreate.validateUsername (v : String) : Except String String :=
  let v := python.lower (strip v)
  if v.length < 3 then .error (usernameTooShort 3)
  else if v.length > 64 then .error (usernameTooLong 64)
  else if matchLine usernamePattern v then .ok v
  else .error usernameCharacters

def AddressCreate.validate (settings : CreationSettings) (body : AddressCreate) : Except String AddressCreate :=
  match AddressCreate.validateUsername python settings body.username, validateDomainFormat python body.domain with
  | .ok username, .ok domain => .ok ⟨username, domain⟩
  | .error message, _ => .error message
  | _, .error message => .error message

def PermanentAddressCreate.validate (body : PermanentAddressCreate) : Except String PermanentAddressCreate :=
  match PermanentAddressCreate.validateUsername python body.username, validateDomainFormat python body.domain with
  | .ok username, .ok domain => .ok ⟨username, domain⟩
  | .error message, _ => .error message
  | _, .error message => .error message

end Schemas

def unprocessable (message : String) : HTTPException := ⟨422, message, []⟩
def internalServerError : HTTPException := ⟨500, "Internal server error", []⟩
def noDomainsConfigured : HTTPException := ⟨500, "No domains configured", []⟩
def noDomainsOnServer : HTTPException := ⟨500, "No domains configured on server", []⟩
def domainNotAvailable (domain : String) : HTTPException :=
  ⟨400, "Domain '" ++ domain ++ "' is not available. Use GET /api/v1/domains to see available domains", []⟩
def customUsernamesNotAllowed : HTTPException := ⟨403, "Custom usernames are not allowed on this server", []⟩
def usernameReserved (username : String) : HTTPException :=
  ⟨400, "Username '" ++ username ++ "' is reserved and cannot be used", []⟩
def emailTaken (email : String) : HTTPException := ⟨409, "Email address '" ++ email ++ "' is already taken", []⟩
def noUniqueEmail : HTTPException := ⟨500, "Failed to generate unique email address", []⟩
def permanentLimitReached : HTTPException :=
  ⟨403, "Permanent mailbox limit reached (tempmail.max_permanent_addresses)", []⟩
def customUsernamesDisabled : HTTPException :=
  ⟨403, "Custom usernames are disabled (tempmail.allow_custom_usernames is false)", []⟩
def usernameLength (settings : CreationSettings) : HTTPException :=
  ⟨400, "用户名长度需在 " ++ toString settings.minUsernameLength ++ "-" ++ toString settings.maxUsernameLength ++ " 字符之间", []⟩
def usernameKept (username : String) : HTTPException := ⟨400, "用户名 '" ++ username ++ "' 是保留名称，无法使用", []⟩
def emailOccupied (email : String) : HTTPException := ⟨409, "邮箱地址 '" ++ email ++ "' 已被占用", []⟩
def integrationKeyMissing : HTTPException :=
  ⟨503, "Integration API key not configured - generate one in the admin panel", []⟩
def invalidApiKey : HTTPException := ⟨401, "Invalid X-API-Key", []⟩

def isLocalPart (text : String) : Bool := text.length == 8 && text.toList.all (fun c => c.isLower || c.isDigit)

structure Draws where
  id : Uuid
  token : String
  localPart : Nat → String
  drawn : ∀ attempt, isLocalPart (localPart attempt) = true
  now : Time

-- The database calls of one request: the queries before the first write, the
-- commit of the release, the commit of the insert, and the refresh.
structure Faults where
  queryFails : Bool := false
  release : Mx.CommitOutcome := .done
  insert : Mx.CommitOutcome := .done
  refreshFails : Bool := false

-- A checked request: the row it will insert and the expired row it releases.
-- expiresAt is none when the date cannot be computed.
structure Creation where
  email : String
  existing : Option AddressRow
  addressType : AddressType
  expiresAt : Option (Option Time)

def addHours (now : Time) (hours : Int) : Option Time := Store.datetime (now + hours * Mx.hour)

def findEmail (db : Db) (email : String) : Option AddressRow := db.addresses.find? (fun row => row.email == email)

section Prepare

variable (python : Python) (settings : CreationSettings) (db : Db) (draws : Draws)

def validateUsername (username : String) : Except HTTPException Unit :=
  if !settings.allowCustomUsernames then .error customUsernamesNotAllowed
  else if (settings.reservedUsernames.map python.lower).contains (python.lower username) then
    .error (usernameReserved username)
  else .ok ()

def validateDomain (domain : String) : Except HTTPException Unit :=
  if settings.domains.isEmpty then .error noDomainsOnServer
  else if !settings.domains.contains domain then .error (domainNotAvailable domain)
  else .ok ()

def randomEmail (domain : String) : Nat → Nat → Except HTTPException String
  | 0, _ => .error noUniqueEmail
  | left + 1, attempt =>
      let email := draws.localPart attempt ++ "@" ++ domain
      if (findEmail db email).isNone then .ok email else randomEmail domain left (attempt + 1)

def addressDomain : Option String → Except HTTPException String
  | none => match settings.domains with
    | [] => .error noDomainsConfigured
    | domain :: _ => .ok domain
  | some domain => (validateDomain settings domain).map (fun _ => domain)

-- create_address up to its first write. A username that passed validation is
-- never empty.
def prepareAddress (request : AddressCreate) : Except HTTPException Creation :=
  match addressDomain settings request.domain with
  | .error refusal => .error refusal
  | .ok domain =>
      let expiresAt := (addHours draws.now settings.addressLifetimeHours).map some
      match request.username with
      | none => (randomEmail db draws domain 10 0).map (fun email => ⟨email, none, .temp, expiresAt⟩)
      | some username =>
          match validateUsername python settings username with
          | .error refusal => .error refusal
          | .ok () =>
              let email := username ++ "@" ++ domain
              match findEmail db email with
              | none => .ok ⟨email, none, .temp, expiresAt⟩
              | some existing =>
                  if existing.isExpired draws.now then .ok ⟨email, some existing, .temp, expiresAt⟩
                  else .error (emailTaken email)

def permanentDomain : Option String → Except HTTPException String
  | none => match settings.domains with
    | [] => .error noDomainsConfigured
    | domain :: _ => .ok domain
  | some domain => if settings.domains.contains domain then .ok domain else .error (domainNotAvailable domain)

def permanentCount : Nat := db.addresses.countP (fun row => row.addressType == .permanent)

def preparePermanent (request : PermanentAddressCreate) : Except HTTPException Creation :=
  match permanentDomain settings request.domain with
  | .error refusal => .error refusal
  | .ok domain =>
      if settings.maxPermanentAddresses > 0 ∧ (permanentCount db : Int) ≥ settings.maxPermanentAddresses then
        .error permanentLimitReached
      else if !settings.allowCustomUsernames then .error customUsernamesDisabled
      else
        let username := python.lower (strip request.username)
        if (username.length : Int) < settings.minUsernameLength ∨ (username.length : Int) > settings.maxUsernameLength then
          .error (usernameLength settings)
        else if (settings.reservedUsernames.map python.lower).contains username then .error (usernameKept username)
        else
          let email := username ++ "@" ++ domain
          match findEmail db email with
          | none => .ok ⟨email, none, .permanent, some none⟩
          | some existing =>
              if existing.addressType = .temp ∧ existing.isExpired draws.now = true then
                .ok ⟨email, some existing, .permanent, some none⟩
              else .error (emailOccupied email)

end Prepare

inductive AddressWrite where
  | deleted (row : AddressRow)
  | inserted (row : AddressRow)
deriving DecidableEq

structure Outcome where
  answer : Except HTTPException AddressRow
  db : Db
  writes : List AddressWrite

section Perform

variable (db : Db) (draws : Draws) (faults : Faults)

def Creation.row (creation : Creation) : Option AddressRow :=
  match creation.expiresAt with
  | none => none
  | some expiresAt =>
      if checked : Store.emailCheck creation.email = true ∧ Store.tokenCheck draws.token = true then
        some ⟨draws.id, creation.email, draws.token, creation.addressType, draws.now, expiresAt, checked.1, checked.2⟩
      else none

-- add, commit, refresh; an exception anywhere becomes a 500.
def Creation.insert (creation : Creation) (writes : List AddressWrite) : Outcome :=
  match creation.row draws with
  | none => ⟨.error internalServerError, db, writes⟩
  | some row =>
      if !db.accepts row then ⟨.error internalServerError, db, writes⟩
      else
        match faults.insert with
        | .failed => ⟨.error internalServerError, db, writes⟩
        | .unconfirmed => ⟨.error internalServerError, db.insertAddress row, writes ++ [.inserted row]⟩
        | .done =>
            ⟨if faults.refreshFails then .error internalServerError else .ok row, db.insertAddress row, writes ++ [.inserted row]⟩

-- The expired row is deleted in a transaction of its own before the insert.
def Creation.perform (creation : Creation) : Outcome :=
  match creation.existing with
  | none => creation.insert db draws faults []
  | some existing =>
      match faults.release with
      | .failed => ⟨.error internalServerError, db, []⟩
      | .unconfirmed => ⟨.error internalServerError, db.deleteAddress existing.id, [.deleted existing]⟩
      | .done => creation.insert (db.deleteAddress existing.id) draws faults [.deleted existing]

def perform (prepared : Except HTTPException Creation) : Outcome :=
  if faults.queryFails then ⟨.error internalServerError, db, []⟩
  else
    match prepared with
    | .error refusal => ⟨.error refusal, db, []⟩
    | .ok creation => creation.perform db draws faults

-- The response model is checked after the handler returned.
def respond (responseAccepts : String → Bool) (outcome : Outcome) : Outcome :=
  match outcome.answer with
  | .error _ => outcome
  | .ok row => if responseAccepts row.email then outcome else { outcome with answer := .error internalServerError }

end Perform

-- The dependencies of the route (rate limit, admin token) ran before.
inductive CreationRoute where
  | createAddress (body : AddressCreate)
  | createPermanentAddressPublic (body : PermanentAddressCreate)
  | createPermanentAddressApi (body : PermanentAddressCreate) (xApiKey : Option String)
  | createPermanentAddressAdmin (body : PermanentAddressCreate)
deriving DecidableEq, Repr

def checkApiKey (settings : CreationSettings) (xApiKey : Option String) : Except HTTPException Unit :=
  if settings.integrationApiKey = "" then .error integrationKeyMissing
  else if xApiKey = some settings.integrationApiKey then .ok () else .error invalidApiKey

section Routes

variable (python : Python) (settings : CreationSettings)

def CreationRoute.prepare (dependencies : Except HTTPException Unit) (db : Db) (draws : Draws) :
    CreationRoute → Except HTTPException Creation
  | .createAddress body => do
      dependencies
      match body.validate python settings with
      | .error message => .error (unprocessable message)
      | .ok request => prepareAddress python settings db draws request
  | .createPermanentAddressPublic body => do
      dependencies
      match body.validate python with
      | .error message => .error (unprocessable message)
      | .ok request => preparePermanent python settings db draws request
  | .createPermanentAddressApi body xApiKey => do
      dependencies
      match body.validate python with
      | .error message => .error (unprocessable message)
      | .ok request => do
          checkApiKey settings xApiKey
          preparePermanent python settings db draws request
  | .createPermanentAddressAdmin body => do
      dependencies
      -- The admin body is validated again inside the handler: a failure there is a 500.
      match body.validate python with
      | .error _ => .error internalServerError
      | .ok request => preparePermanent python settings db draws request

-- AddressResponse and PermanentAddressResponse hold an EmailStr, the admin
-- response a plain string.
def CreationRoute.responseAccepts (emailStr : String → Bool) : CreationRoute → String → Bool
  | .createPermanentAddressAdmin _, _ => true
  | _, email => emailStr email

def CreationRoute.handle (emailStr : String → Bool) (dependencies : Except HTTPException Unit) (db : Db) (draws : Draws)
    (faults : Faults) (route : CreationRoute) : Outcome :=
  respond (route.responseAccepts emailStr)
    (perform db draws faults (route.prepare python settings dependencies db draws))

end Routes

section Specs

variable (python : Python) (settings : CreationSettings) (db : Db) (draws : Draws)

theorem random_email_shape (domain email : String) (left attempt : Nat)
    (drawn : randomEmail db draws domain left attempt = .ok email) : ∃ index, email = draws.localPart index ++ "@" ++ domain := by
  induction left generalizing attempt with
  | zero => cases drawn
  | succ left ih =>
      simp only [randomEmail] at drawn
      split at drawn
      · cases drawn
        exact ⟨attempt, rfl⟩
      · exact ih (attempt + 1) drawn

theorem permanent_domain_listed (requested : Option String) (domain : String)
    (located : permanentDomain settings requested = .ok domain) : domain ∈ settings.domains := by
  cases requested with
  | none =>
      cases listed : settings.domains with
      | nil => simp [permanentDomain, listed] at located
      | cons first rest =>
          simp only [permanentDomain, listed, Except.ok.injEq] at located
          exact located ▸ List.mem_cons_self
  | some wanted =>
      simp only [permanentDomain] at located
      split at located
      · rename_i known
        cases located
        simpa using known
      · cases located

theorem address_domain_iff (requested : Option String) (domain : String) :
    addressDomain settings requested = .ok domain ↔ permanentDomain settings requested = .ok domain := by
  cases requested with
  | none => rfl
  | some wanted =>
      by_cases known : wanted ∈ settings.domains
      · simp [addressDomain, validateDomain, permanentDomain, known, List.ne_nil_of_mem known, Except.map]
      · by_cases empty : settings.domains = []
        · simp [addressDomain, validateDomain, permanentDomain, empty, Except.map]
        · simp [addressDomain, validateDomain, permanentDomain, known, empty, Except.map]

theorem address_domain_listed (requested : Option String) (domain : String)
    (located : addressDomain settings requested = .ok domain) : domain ∈ settings.domains :=
  permanent_domain_listed settings requested domain ((address_domain_iff settings requested domain).mp located)

-- What a checked create_address request is about to write; only an expired row is
-- released for its name.
theorem prepare_address_spec (request : AddressCreate) (creation : Creation)
    (prepared : prepareAddress python settings db draws request = .ok creation) :
    creation.addressType = .temp ∧ creation.expiresAt = (addHours draws.now settings.addressLifetimeHours).map some ∧
      (∀ existing, creation.existing = some existing →
        findEmail db creation.email = some existing ∧ existing.isExpired draws.now = true) ∧
      ∃ domain, addressDomain settings request.domain = .ok domain ∧
        ((∃ index, creation.email = draws.localPart index ++ "@" ++ domain) ∨
          ∃ username, request.username = some username ∧ creation.email = username ++ "@" ++ domain) := by
  unfold prepareAddress at prepared
  cases located : addressDomain settings request.domain with
  | error refusal => simp [located] at prepared
  | ok domain =>
      simp only [located] at prepared
      cases named : request.username with
      | none =>
          simp only [named, Except.map] at prepared
          cases drawn : randomEmail db draws domain 10 0 with
          | error refusal => simp [drawn] at prepared
          | ok email =>
              simp only [drawn, Except.ok.injEq] at prepared
              subst prepared
              have shape := random_email_shape db draws domain email 10 0 drawn
              refine ⟨rfl, rfl, fun existing held => ?_, domain, rfl, Or.inl shape⟩
              cases held
      | some username =>
          simp only [named] at prepared
          split at prepared
          · cases prepared
          · split at prepared
            · cases prepared
              refine ⟨rfl, rfl, fun existing held => ?_, domain, rfl, Or.inr ⟨username, rfl, rfl⟩⟩
              cases held
            · rename_i other found
              split at prepared
              · rename_i expired
                cases prepared
                refine ⟨rfl, rfl, fun existing held => ?_, domain, rfl, Or.inr ⟨username, rfl, rfl⟩⟩
                cases held
                exact ⟨found, expired⟩
              · cases prepared

theorem prepare_permanent_spec (request : PermanentAddressCreate) (creation : Creation)
    (prepared : preparePermanent python settings db draws request = .ok creation) :
    creation.addressType = .permanent ∧ creation.expiresAt = some none ∧
      (∀ existing, creation.existing = some existing →
        findEmail db creation.email = some existing ∧ existing.isExpired draws.now = true) ∧
      ∃ domain, permanentDomain settings request.domain = .ok domain ∧
        creation.email = python.lower (strip request.username) ++ "@" ++ domain := by
  unfold preparePermanent at prepared
  cases located : permanentDomain settings request.domain with
  | error refusal => simp [located] at prepared
  | ok domain =>
      simp only [located] at prepared
      split at prepared
      · cases prepared
      · split at prepared
        · cases prepared
        · split at prepared
          · cases prepared
          · split at prepared
            · cases prepared
            · split at prepared
              · cases prepared
                refine ⟨rfl, rfl, fun existing held => ?_, domain, rfl, rfl⟩
                cases held
              · rename_i other found
                split at prepared
                · rename_i expired
                  cases prepared
                  refine ⟨rfl, rfl, fun existing held => ?_, domain, rfl, rfl⟩
                  cases held
                  exact ⟨found, expired.2⟩
                · cases prepared

theorem prepare_cases (dependencies : Except HTTPException Unit) (route : CreationRoute) (creation : Creation)
    (prepared : route.prepare python settings dependencies db draws = .ok creation) :
    (∃ body request, route = .createAddress body ∧ body.validate python settings = .ok request ∧
        prepareAddress python settings db draws request = .ok creation) ∨
      ∃ body request, PermanentAddressCreate.validate python body = .ok request ∧
        preparePermanent python settings db draws request = .ok creation := by
  cases dependencies with
  | error refusal => cases route <;> cases prepared
  | ok passed =>
      cases route with
      | createAddress body =>
          cases valid : body.validate python settings with
          | error message => simp [CreationRoute.prepare, valid, bind, Except.bind] at prepared
          | ok request =>
              simp only [CreationRoute.prepare, valid, bind, Except.bind] at prepared
              exact Or.inl ⟨body, request, rfl, valid, prepared⟩
      | createPermanentAddressPublic body =>
          cases valid : body.validate python with
          | error message => simp [CreationRoute.prepare, valid, bind, Except.bind] at prepared
          | ok request =>
              simp only [CreationRoute.prepare, valid, bind, Except.bind] at prepared
              exact Or.inr ⟨body, request, valid, prepared⟩
      | createPermanentAddressApi body xApiKey =>
          cases valid : body.validate python with
          | error message => simp [CreationRoute.prepare, valid, bind, Except.bind] at prepared
          | ok request =>
              simp only [CreationRoute.prepare, valid, bind, Except.bind] at prepared
              split at prepared
              · cases prepared
              · exact Or.inr ⟨body, request, valid, prepared⟩
      | createPermanentAddressAdmin body =>
          cases valid : body.validate python with
          | error message => simp [CreationRoute.prepare, valid, bind, Except.bind] at prepared
          | ok request =>
              simp only [CreationRoute.prepare, valid, bind, Except.bind] at prepared
              exact Or.inr ⟨body, request, valid, prepared⟩

theorem prepare_existing (dependencies : Except HTTPException Unit) (route : CreationRoute) (creation : Creation)
    (prepared : route.prepare python settings dependencies db draws = .ok creation) (existing : AddressRow)
    (held : creation.existing = some existing) :
    findEmail db creation.email = some existing ∧ existing.isExpired draws.now = true := by
  rcases prepare_cases python settings db draws dependencies route creation prepared with
    ⟨body, request, -, -, checked⟩ | ⟨body, request, -, checked⟩
  · exact (prepare_address_spec python settings db draws request creation checked).2.2.1 existing held
  · exact (prepare_permanent_spec python settings db draws request creation checked).2.2.1 existing held

end Specs

end Tempmail.Api
