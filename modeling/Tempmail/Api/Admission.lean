import Tempmail.Api.Usernames
import Tempmail.Api.Atomicity
import Tempmail.Store.Consistency

set_option autoImplicit false

namespace Tempmail.Api

open Store (Db AddressRow)

section Rule

variable (python : Python) (settings : CreationSettings)

def canonical (username : String) : String := python.lower (strip username)

-- The rule the creation paths are meant to share.
structure Admissible (username : String) : Prop where
  characters : usernamePattern (canonical python username).toList = true
  least : settings.minUsernameLength ≤ (canonical python username).length
  most : ((canonical python username).length : Int) ≤ settings.maxUsernameLength
  unreserved : (settings.reservedUsernames.map python.lower).contains (canonical python username) = false

def admissionRoutes (username : String) (asked : Option String) : List CreationRoute :=
  [.createAddress ⟨some username, asked⟩, .createPermanentAddressPublic ⟨username, asked⟩,
    .createPermanentAddressAdmin ⟨username, asked⟩]

def servedDomain : Option String → Option String
  | none => settings.domains.head?
  | some v =>
      let v := python.lower (strip v)
      if matchLine domainPattern v && settings.domains.contains v then some v else none

-- What the table asks of the row beyond a free address: a date, a length, a
-- new id and a new token.
structure Storable (db : Db) (draws : Draws) (email : String) : Prop where
  dated : ∃ expiry, addHours draws.now settings.addressLifetimeHours = some expiry
  shaped : Store.emailCheck email = true
  short : Store.tokenCheck draws.token = true
  fresh : ∀ other ∈ db.addresses, other.id ≠ draws.id ∧ other.token ≠ draws.token

structure Fitting (emailStr : String → Bool) (db : Db) (draws : Draws) (username : String) (asked : Option String) : Prop where
  characters : usernamePattern (canonical python username).toList = true
  least : 3 ≤ (canonical python username).length
  most : (canonical python username).length ≤ 64
  domain : ∀ v, asked = some v → matchLine domainPattern (python.lower (strip v)) = true
  served : Admissible python settings username →
    settings.allowCustomUsernames = true ∧ usernamePattern (strip username).toList = true ∧
      ∃ domain, servedDomain python settings asked = some domain ∧
        emailStr (canonical python username ++ "@" ++ domain) = true ∧
        Storable settings db draws (canonical python username ++ "@" ++ domain)

def answerTo (emailStr : String → Bool) (db : Db) (draws : Draws) (route : CreationRoute) : Except HTTPException AddressRow :=
  (route.handle python settings emailStr (.ok ()) db draws {}).answer

def HTTPException.blamesRequest (refusal : HTTPException) : Prop := 400 ≤ refusal.statusCode ∧ refusal.statusCode < 500

structure OneRule (emailStr : String → Bool) (db : Db) (draws : Draws) (username : String) (asked : Option String) : Prop where
  accepts : ∀ route ∈ admissionRoutes username asked,
    (∃ row, answerTo python settings emailStr db draws route = .ok row) ↔ Admissible python settings username
  refuses : ∀ route ∈ admissionRoutes username asked, ∀ refusal,
    answerTo python settings emailStr db draws route = .error refusal → refusal.blamesRequest

end Rule

section Forms

variable (python : Python)

theorem match_stripped (username : String) :
    matchLine usernamePattern (strip username) = usernamePattern (strip username).toList :=
  match_line_solid usernamePattern (strip username) (strip_last username)

theorem match_canonical (username : String) :
    matchLine usernamePattern (canonical python username) = usernamePattern (canonical python username).toList :=
  match_line_solid usernamePattern _ (lower_stripped_last python username)

theorem pattern_chars (chars : List Char) (matched : usernamePattern chars = true) :
    chars ≠ [] ∧ ∀ c ∈ chars, isUsernameChar c = true := by
  simpa [usernamePattern, List.all_eq_true] using matched

theorem stripped_lower (username : String) (matched : usernamePattern (strip username).toList = true) :
    (canonical python username).toList = (strip username).toList.map Char.toLower := by
  have chars := (pattern_chars _ matched).2
  unfold canonical
  rw [python.ascii (strip username) (fun c member => (username_char_plain c (chars c member)).1), Text.map_chars_list]

theorem canonical_length (username : String) (matched : usernamePattern (strip username).toList = true) :
    (canonical python username).length = (strip username).length := by
  rw [← String.length_toList, stripped_lower python username matched, List.length_map, String.length_toList]

theorem canonical_matched (username : String) (matched : usernamePattern (strip username).toList = true) :
    usernamePattern (canonical python username).toList = true := by
  have checked := pattern_chars _ matched
  have plain := python_lower_plain python (strip username) checked.2
  have filled : (canonical python username).toList ≠ [] := by
    rw [stripped_lower python username matched]
    simpa using checked.1
  simp only [usernamePattern, Bool.and_eq_true, List.all_eq_true]
  exact ⟨by simpa using filled, plain.chars⟩

theorem canonical_plain (username : String) (matched : usernamePattern (canonical python username).toList = true) :
    PlainUsername (canonical python username) :=
  ⟨(pattern_chars _ matched).2, python.noUpper (strip username)⟩

theorem canonical_again (username : String) (matched : usernamePattern (canonical python username).toList = true) :
    python.lower (strip (canonical python username)) = canonical python username := by
  have plain := canonical_plain python username matched
  rw [strip_same _ plain, python_lower_same python _ plain]

end Forms

section Schemas

variable (python : Python) (settings : CreationSettings) (username : String) (asked : Option String)

theorem create_username_iff (found : Option String) :
    AddressCreate.validateUsername python settings (some username) = .ok found ↔
      found = some (canonical python username) ∧ usernamePattern (strip username).toList = true ∧
        settings.minUsernameLength ≤ (strip username).length ∧ ((strip username).length : Int) ≤ settings.maxUsernameLength := by
  simp only [AddressCreate.validateUsername, match_stripped]
  by_cases short : ((strip username).length : Int) < settings.minUsernameLength
  · simp only [short, if_true, reduceCtorEq, false_iff]
    rintro ⟨-, -, least, -⟩
    omega
  · by_cases long : ((strip username).length : Int) > settings.maxUsernameLength
    · simp only [short, long, if_true, if_false, reduceCtorEq, false_iff]
      rintro ⟨-, -, -, most⟩
      omega
    · by_cases matched : usernamePattern (strip username).toList = true
      · simp only [short, long, matched, if_true, if_false, Except.ok.injEq, true_and]
        exact ⟨fun same => ⟨same.symm, by omega, by omega⟩, fun checked => checked.1.symm⟩
      · simp [short, long, matched]

theorem permanent_username_iff (found : String) :
    PermanentAddressCreate.validateUsername python username = .ok found ↔
      found = canonical python username ∧ usernamePattern (canonical python username).toList = true ∧
        3 ≤ (canonical python username).length ∧ (canonical python username).length ≤ 64 := by
  have form : PermanentAddressCreate.validateUsername python username =
      if (canonical python username).length < 3 then .error (usernameTooShort 3)
      else if (canonical python username).length > 64 then .error (usernameTooLong 64)
      else if usernamePattern (canonical python username).toList then .ok (canonical python username)
      else .error usernameCharacters := by
    rw [← match_canonical]
    rfl
  rw [form]
  by_cases short : (canonical python username).length < 3
  · simp only [short, if_true, reduceCtorEq, false_iff]
    rintro ⟨-, -, least, -⟩
    omega
  · by_cases long : (canonical python username).length > 64
    · simp only [short, long, if_true, if_false, reduceCtorEq, false_iff]
      rintro ⟨-, -, -, most⟩
      omega
    · by_cases matched : usernamePattern (canonical python username).toList = true
      · simp only [short, long, matched, if_true, if_false, Except.ok.injEq, true_and]
        exact ⟨fun same => ⟨same.symm, by omega, by omega⟩, fun checked => checked.1.symm⟩
      · simp [short, long, matched]

theorem domain_format_iff (found : Option String) :
    validateDomainFormat python asked = .ok found ↔
      found = asked.map (fun v => python.lower (strip v)) ∧
        ∀ v, asked = some v → matchLine domainPattern (python.lower (strip v)) = true := by
  cases asked with
  | none =>
      simp only [validateDomainFormat, Except.ok.injEq, Option.map_none, reduceCtorEq, IsEmpty.forall_iff, implies_true, and_true]
      exact ⟨Eq.symm, Eq.symm⟩
  | some v =>
      by_cases matched : matchLine domainPattern (python.lower (strip v)) = true
      · simp only [validateDomainFormat, matched, if_true, Except.ok.injEq, Option.map_some]
        exact ⟨fun same => ⟨same.symm, fun other here => Option.some.inj here ▸ matched⟩, fun checked => checked.1.symm⟩
      · simp [validateDomainFormat, matched]

theorem create_validate_iff (request : AddressCreate) :
    AddressCreate.validate python settings ⟨some username, asked⟩ = .ok request ↔
      AddressCreate.validateUsername python settings (some username) = .ok request.username ∧
        validateDomainFormat python asked = .ok request.domain := by
  cases named : AddressCreate.validateUsername python settings (some username) with
  | error message => simp [AddressCreate.validate, named]
  | ok found =>
      cases located : validateDomainFormat python asked with
      | error message => simp [AddressCreate.validate, named, located]
      | ok domain =>
          obtain ⟨wanted, place⟩ := request
          simp [AddressCreate.validate, named, located]

theorem permanent_validate_iff (request : PermanentAddressCreate) :
    PermanentAddressCreate.validate python ⟨username, asked⟩ = .ok request ↔
      PermanentAddressCreate.validateUsername python username = .ok request.username ∧
        validateDomainFormat python asked = .ok request.domain := by
  cases named : PermanentAddressCreate.validateUsername python username with
  | error message => simp [PermanentAddressCreate.validate, named]
  | ok found =>
      cases located : validateDomainFormat python asked with
      | error message => simp [PermanentAddressCreate.validate, named, located]
      | ok domain =>
          obtain ⟨wanted, place⟩ := request
          simp [PermanentAddressCreate.validate, named, located]

end Schemas

section Domains

variable (python : Python) (settings : CreationSettings) (asked : Option String)

theorem domains_agree (configured : settings.domains ≠ []) (found : Option String) :
    permanentDomain settings found = addressDomain settings found := by
  cases found with
  | none => rfl
  | some domain =>
      by_cases listed : domain ∈ settings.domains
      · simp [permanentDomain, addressDomain, validateDomain, listed, configured, Except.map]
      · simp [permanentDomain, addressDomain, validateDomain, listed, configured, Except.map]

theorem served_iff (configured : settings.domains ≠ []) (found : Option String)
    (located : validateDomainFormat python asked = .ok found) (domain : String) :
    addressDomain settings found = .ok domain ↔ servedDomain python settings asked = some domain := by
  obtain ⟨same, format⟩ := (domain_format_iff python asked found).mp located
  subst same
  cases asked with
  | none =>
      cases listed : settings.domains with
      | nil => exact absurd listed configured
      | cons first rest => simp [addressDomain, servedDomain, listed]
  | some v =>
      by_cases known : python.lower (strip v) ∈ settings.domains
      · simp [addressDomain, validateDomain, servedDomain, format v rfl, known, configured, Except.map]
      · simp [addressDomain, validateDomain, servedDomain, format v rfl, known, configured, Except.map]

theorem served_located (domain : String) (served : servedDomain python settings asked = some domain) :
    ∃ found, validateDomainFormat python asked = .ok found := by
  cases asked with
  | none => exact ⟨none, rfl⟩
  | some v =>
      by_cases matched : matchLine domainPattern (python.lower (strip v)) = true
      · exact ⟨some (python.lower (strip v)), by simp [validateDomainFormat, matched]⟩
      · simp [servedDomain, matched] at served

theorem blames_request (code : Nat) (detail : String) (headers : List (String × String)) (least : 400 ≤ code)
    (most : code < 500) : HTTPException.blamesRequest ⟨code, detail, headers⟩ :=
  ⟨least, most⟩

theorem domain_refusal (configured : settings.domains ≠ []) (found : Option String) (refusal : HTTPException)
    (refused : addressDomain settings found = .error refusal) : refusal.blamesRequest := by
  cases found with
  | none =>
      cases listed : settings.domains with
      | nil => exact absurd listed configured
      | cons first rest => simp [addressDomain, listed] at refused
  | some domain =>
      by_cases known : domain ∈ settings.domains
      · simp [addressDomain, validateDomain, known, configured, Except.map] at refused
      · have named : domainNotAvailable domain = refusal := by
          simpa [addressDomain, validateDomain, known, configured, Except.map] using refused
        exact named ▸ blames_request _ _ _ (by decide) (by decide)

end Domains

section Rows

variable (settings : CreationSettings) (db : Db) (draws : Draws) (email : String)

def temporary : Creation := ⟨email, none, .temp, (addHours draws.now settings.addressLifetimeHours).map some⟩

def lasting : Creation := ⟨email, none, .permanent, some none⟩

theorem insertable_iff (creation : Creation) :
    creation.Insertable db draws ↔
      (∃ expiresAt, creation.expiresAt = some expiresAt) ∧ Store.emailCheck creation.email = true ∧
        Store.tokenCheck draws.token = true ∧
        ∀ other ∈ db.addresses, other.id ≠ draws.id ∧ other.email ≠ creation.email ∧ other.token ≠ draws.token := by
  constructor
  · rintro ⟨row, built, accepted⟩
    unfold Creation.row at built
    split at built
    · cases built
    · rename_i expiresAt dated
      split at built
      · rename_i checked
        cases built
        exact ⟨⟨expiresAt, dated⟩, checked.1, checked.2, (Store.accepts_iff db _).mp accepted⟩
      · cases built
  · rintro ⟨⟨expiresAt, dated⟩, shaped, short, fresh⟩
    refine ⟨⟨draws.id, creation.email, draws.token, creation.addressType, draws.now, expiresAt, shaped, short⟩, ?_,
      (Store.accepts_iff db _).mpr fresh⟩
    simp [Creation.row, dated, shaped, short]

theorem free_email (free : findEmail db email = none) (other : AddressRow) (present : other ∈ db.addresses) :
    other.email ≠ email := by
  have none := List.find?_eq_none.mp free other present
  simpa using none

theorem temporary_insertable_iff (free : findEmail db email = none) :
    (temporary settings draws email).Insertable db draws ↔ Storable settings db draws email := by
  rw [insertable_iff]
  constructor
  · rintro ⟨⟨expiresAt, dated⟩, shaped, short, fresh⟩
    obtain ⟨expiry, computed, -⟩ := Option.map_eq_some_iff.mp dated
    exact ⟨⟨expiry, computed⟩, shaped, short, fun other present => ⟨(fresh other present).1, (fresh other present).2.2⟩⟩
  · rintro ⟨⟨expiry, computed⟩, shaped, short, fresh⟩
    refine ⟨⟨some expiry, by simp [temporary, computed]⟩, shaped, short, fun other present => ?_⟩
    exact ⟨(fresh other present).1, free_email db email free other present, (fresh other present).2⟩

theorem lasting_insertable (free : findEmail db email = none) (storable : Storable settings db draws email) :
    (lasting email).Insertable db draws := by
  refine (insertable_iff db draws (lasting email)).mpr ⟨⟨none, rfl⟩, storable.shaped, storable.short, fun other present => ?_⟩
  exact ⟨(storable.fresh other present).1, free_email db email free other present, (storable.fresh other present).2⟩

end Rows

section Prepared

variable (python : Python) (settings : CreationSettings) (db : Db) (draws : Draws)

theorem prepare_address_refusal (configured : settings.domains ≠ []) (username : String) (found : Option String)
    (refusal : HTTPException) (refused : prepareAddress python settings db draws ⟨some username, found⟩ = .error refusal) :
    refusal.blamesRequest := by
  unfold prepareAddress at refused
  cases located : addressDomain settings found with
  | error unknown =>
      simp only [located, Except.error.injEq] at refused
      exact refused ▸ domain_refusal settings configured found unknown located
  | ok domain =>
      simp only [located] at refused
      split at refused
      · rename_i withheld barred
        cases refused
        unfold validateUsername at barred
        split at barred
        · cases barred
          exact blames_request _ _ _ (by decide) (by decide)
        · split at barred
          · cases barred
            exact blames_request _ _ _ (by decide) (by decide)
          · cases barred
      · split at refused
        · cases refused
        · split at refused
          · cases refused
          · cases refused
            exact blames_request _ _ _ (by decide) (by decide)

theorem prepare_permanent_refusal (configured : settings.domains ≠ []) (request : PermanentAddressCreate)
    (refusal : HTTPException) (refused : preparePermanent python settings db draws request = .error refusal) :
    refusal.blamesRequest := by
  unfold preparePermanent at refused
  cases located : permanentDomain settings request.domain with
  | error unknown =>
      simp only [located, Except.error.injEq] at refused
      rw [domains_agree settings configured] at located
      exact refused ▸ domain_refusal settings configured request.domain unknown located
  | ok domain =>
      simp only [located] at refused
      split at refused
      · cases refused
        exact blames_request _ _ _ (by decide) (by decide)
      · split at refused
        · cases refused
          exact blames_request _ _ _ (by decide) (by decide)
        · split at refused
          · cases refused
            exact blames_request _ _ _ (by decide) (by decide)
          · split at refused
            · cases refused
              exact blames_request _ _ _ (by decide) (by decide)
            · split at refused
              · cases refused
              · split at refused
                · cases refused
                · cases refused
                  exact blames_request _ _ _ (by decide) (by decide)

theorem prepare_address_iff (configured : settings.domains ≠ []) (username : String) (asked found : Option String)
    (located : validateDomainFormat python asked = .ok found)
    (matched : usernamePattern (canonical python username).toList = true)
    (free : ∀ domain, servedDomain python settings asked = some domain →
      findEmail db (canonical python username ++ "@" ++ domain) = none) (creation : Creation) :
    prepareAddress python settings db draws ⟨some (canonical python username), found⟩ = .ok creation ↔
      settings.allowCustomUsernames = true ∧
        (settings.reservedUsernames.map python.lower).contains (canonical python username) = false ∧
        ∃ domain, servedDomain python settings asked = some domain ∧
          creation = temporary settings draws (canonical python username ++ "@" ++ domain) := by
  have again := python_lower_same python _ (canonical_plain python username matched)
  have place := served_iff python settings asked configured found located
  cases resolved : addressDomain settings found with
  | error unknown =>
      simp only [prepareAddress, resolved, reduceCtorEq, false_iff]
      rintro ⟨-, -, domain, served, -⟩
      rw [(place domain).mpr served] at resolved
      cases resolved
  | ok domain =>
      have served := (place domain).mp resolved
      by_cases custom : settings.allowCustomUsernames = true
      · by_cases kept : (settings.reservedUsernames.map python.lower).contains (canonical python username) = true
        · simp only [prepareAddress, resolved, validateUsername, custom, again, kept, Bool.not_true, Bool.false_eq_true,
            if_true, if_false, reduceCtorEq, false_and, and_false]
        · simp only [prepareAddress, resolved, validateUsername, custom, again, kept, Bool.not_true, Bool.false_eq_true,
            if_false, free domain served, served, Except.ok.injEq, Option.some.injEq, exists_eq_left', true_and]
          exact eq_comm
      · simp only [prepareAddress, resolved, validateUsername, custom, Bool.not_false, if_true, reduceCtorEq, false_and]

theorem prepare_permanent_iff (configured : settings.domains ≠ []) (username : String) (asked found : Option String)
    (located : validateDomainFormat python asked = .ok found)
    (matched : usernamePattern (canonical python username).toList = true)
    (room : ¬ (settings.maxPermanentAddresses > 0 ∧ (permanentCount db : Int) ≥ settings.maxPermanentAddresses))
    (free : ∀ domain, servedDomain python settings asked = some domain →
      findEmail db (canonical python username ++ "@" ++ domain) = none) (creation : Creation) :
    preparePermanent python settings db draws ⟨canonical python username, found⟩ = .ok creation ↔
      settings.allowCustomUsernames = true ∧ Admissible python settings username ∧
        ∃ domain, servedDomain python settings asked = some domain ∧
          creation = lasting (canonical python username ++ "@" ++ domain) := by
  have again := canonical_again python username matched
  have place := served_iff python settings asked configured found located
  rw [← domains_agree settings configured] at place
  cases resolved : permanentDomain settings found with
  | error unknown =>
      simp only [preparePermanent, resolved, reduceCtorEq, false_iff]
      rintro ⟨-, -, domain, served, -⟩
      rw [(place domain).mpr served] at resolved
      cases resolved
  | ok domain =>
      have served := (place domain).mp resolved
      by_cases custom : settings.allowCustomUsernames = true
      · by_cases bounded : ((canonical python username).length : Int) < settings.minUsernameLength ∨
            ((canonical python username).length : Int) > settings.maxUsernameLength
        · simp only [preparePermanent, resolved, room, custom, again, bounded, Bool.not_true, Bool.false_eq_true, if_true,
            if_false, reduceCtorEq, false_iff]
          rintro ⟨-, rule, -⟩
          have least := rule.least
          have most := rule.most
          omega
        · by_cases kept : (settings.reservedUsernames.map python.lower).contains (canonical python username) = true
          · simp only [preparePermanent, resolved, room, custom, again, bounded, kept, Bool.not_true, Bool.false_eq_true,
              if_true, if_false, reduceCtorEq, false_iff]
            rintro ⟨-, rule, -⟩
            exact absurd (rule.unreserved.symm.trans kept) (by decide)
          · simp only [preparePermanent, resolved, room, custom, again, bounded, kept, Bool.not_true, Bool.false_eq_true,
              if_false, free domain served, served, Except.ok.injEq, Option.some.injEq, exists_eq_left']
            have rule : Admissible python settings username :=
              ⟨matched, by omega, by omega, by simpa using kept⟩
            exact ⟨fun same => ⟨trivial, rule, same.symm⟩, fun checked => checked.2.2.symm⟩
      · simp only [preparePermanent, resolved, room, custom, Bool.not_false, if_true, if_false, reduceCtorEq, false_and]

end Prepared

section Answers

variable (python : Python) (settings : CreationSettings) (emailStr : String → Bool) (db : Db) (draws : Draws)

theorem answer_refused (route : CreationRoute) (refusal : HTTPException)
    (refused : route.prepare python settings (.ok ()) db draws = .error refusal) :
    answerTo python settings emailStr db draws route = .error refusal := by
  simp [answerTo, CreationRoute.handle, refused, perform, respond]

theorem answer_prepared_iff (route : CreationRoute) (creation : Creation)
    (prepared : route.prepare python settings (.ok ()) db draws = .ok creation) (new : creation.existing = none) :
    (∃ row, answerTo python settings emailStr db draws route = .ok row) ↔
      creation.Insertable db draws ∧ route.responseAccepts emailStr creation.email = true := by
  have form : answerTo python settings emailStr db draws route =
      (respond (route.responseAccepts emailStr) (creation.insert db draws {} [])).answer := by
    simp [answerTo, CreationRoute.handle, prepared, perform, Creation.perform, new]
  simp only [form, respond_ok_iff]
  by_cases insertable : creation.Insertable db draws
  · obtain ⟨row, email, -, -, answer⟩ := insert_committed db draws {} creation [] insertable (by decide)
    simp [answer, email, insertable]
  · rw [insert_refused db draws {} creation [] (fun both => insertable both.1)]
    simp [insertable]

theorem answer_ok_prepared (route : CreationRoute) (row : AddressRow)
    (answer : answerTo python settings emailStr db draws route = .ok row) :
    ∃ creation, route.prepare python settings (.ok ()) db draws = .ok creation := by
  cases prepared : route.prepare python settings (.ok ()) db draws with
  | error refusal =>
      rw [answer_refused python settings emailStr db draws route refusal prepared] at answer
      cases answer
  | ok creation => exact ⟨creation, rfl⟩

end Answers

section Paths

variable (python : Python) (settings : CreationSettings) (db : Db) (draws : Draws) (username : String)
  (asked : Option String) (configured : settings.domains ≠ [])
  (free : ∀ domain, servedDomain python settings asked = some domain →
    findEmail db (canonical python username ++ "@" ++ domain) = none)

include configured free

theorem create_prepare_iff (creation : Creation) :
    (CreationRoute.createAddress ⟨some username, asked⟩).prepare python settings (.ok ()) db draws = .ok creation ↔
      settings.allowCustomUsernames = true ∧ Admissible python settings username ∧
        usernamePattern (strip username).toList = true ∧ ∃ domain, servedDomain python settings asked = some domain ∧
          creation = temporary settings draws (canonical python username ++ "@" ++ domain) := by
  constructor
  · intro prepared
    cases valid : AddressCreate.validate python settings ⟨some username, asked⟩ with
    | error message => simp [CreationRoute.prepare, valid, bind, Except.bind] at prepared
    | ok request =>
        simp only [CreationRoute.prepare, valid, bind, Except.bind] at prepared
        obtain ⟨named, located⟩ := (create_validate_iff python settings username asked request).mp valid
        obtain ⟨form, matched, least, most⟩ := (create_username_iff python settings username request.username).mp named
        have whole := canonical_matched python username matched
        obtain ⟨wanted, place⟩ := request
        dsimp only at form located
        subst form
        obtain ⟨custom, unreserved, target⟩ := (prepare_address_iff python settings db draws configured username asked place
          located whole free creation).mp prepared
        have length := canonical_length python username matched
        exact ⟨custom, ⟨whole, by omega, by omega, unreserved⟩, matched, target⟩
  · rintro ⟨custom, rule, matched, domain, served, same⟩
    obtain ⟨found, located⟩ := served_located python settings asked domain served
    have length := canonical_length python username matched
    have least := rule.least
    have most := rule.most
    have named := (create_username_iff python settings username (some (canonical python username))).mpr
      ⟨rfl, matched, by omega, by omega⟩
    have valid := (create_validate_iff python settings username asked ⟨_, found⟩).mpr ⟨named, located⟩
    simp only [CreationRoute.prepare, valid, bind, Except.bind]
    exact (prepare_address_iff python settings db draws configured username asked found located rule.characters free
      creation).mpr ⟨custom, rule.unreserved, domain, served, same⟩

omit free in
theorem create_prepare_refusal (refusal : HTTPException)
    (refused : (CreationRoute.createAddress ⟨some username, asked⟩).prepare python settings (.ok ()) db draws =
      .error refusal) : refusal.blamesRequest := by
  cases valid : AddressCreate.validate python settings ⟨some username, asked⟩ with
  | error message =>
      simp only [CreationRoute.prepare, valid, bind, Except.bind, Except.error.injEq] at refused
      exact refused ▸ blames_request _ _ _ (by decide) (by decide)
  | ok request =>
      simp only [CreationRoute.prepare, valid, bind, Except.bind] at refused
      obtain ⟨named, -⟩ := (create_validate_iff python settings username asked request).mp valid
      have form := ((create_username_iff python settings username request.username).mp named).1
      obtain ⟨wanted, place⟩ := request
      dsimp only at form
      subst form
      exact prepare_address_refusal python settings db draws configured _ place refusal refused

end Paths

section Agreement

variable (python : Python) (settings : CreationSettings) (emailStr : String → Bool) (db : Db) (draws : Draws)
  (username : String) (asked : Option String)

theorem route_follows (route : CreationRoute)
    (admissible : ∀ creation, route.prepare python settings (.ok ()) db draws = .ok creation →
      Admissible python settings username)
    (stored : Admissible python settings username → ∃ creation,
      route.prepare python settings (.ok ()) db draws = .ok creation ∧ creation.existing = none ∧
        creation.Insertable db draws ∧ route.responseAccepts emailStr creation.email = true)
    (blamed : ∀ refusal, route.prepare python settings (.ok ()) db draws = .error refusal → refusal.blamesRequest) :
    ((∃ row, answerTo python settings emailStr db draws route = .ok row) ↔ Admissible python settings username) ∧
      ∀ refusal, answerTo python settings emailStr db draws route = .error refusal → refusal.blamesRequest := by
  have accepted (rule : Admissible python settings username) :
      ∃ row, answerTo python settings emailStr db draws route = .ok row := by
    obtain ⟨creation, prepared, new, fits⟩ := stored rule
    exact (answer_prepared_iff python settings emailStr db draws route creation prepared new).mpr fits
  constructor
  · refine ⟨?_, accepted⟩
    rintro ⟨row, answer⟩
    obtain ⟨creation, prepared⟩ := answer_ok_prepared python settings emailStr db draws route row answer
    exact admissible creation prepared
  · intro refusal answer
    cases prepared : route.prepare python settings (.ok ()) db draws with
    | error known =>
        rw [answer_refused python settings emailStr db draws route known prepared, Except.error.injEq] at answer
        exact answer ▸ blamed known prepared
    | ok creation =>
        obtain ⟨row, other⟩ := accepted (admissible creation prepared)
        rw [answer] at other
        cases other

theorem permanent_validated (fitting : Fitting python settings emailStr db draws username asked) :
    ∃ found, validateDomainFormat python asked = .ok found ∧
      PermanentAddressCreate.validate python ⟨username, asked⟩ = .ok ⟨canonical python username, found⟩ := by
  have located := (domain_format_iff python asked _).mpr ⟨rfl, fitting.domain⟩
  have named := (permanent_username_iff python username _).mpr ⟨rfl, fitting.characters, fitting.least, fitting.most⟩
  exact ⟨_, located, (permanent_validate_iff python username asked ⟨_, _⟩).mpr ⟨named, located⟩⟩

variable (configured : settings.domains ≠ [])
  (room : ¬ (settings.maxPermanentAddresses > 0 ∧ (permanentCount db : Int) ≥ settings.maxPermanentAddresses))
  (free : ∀ domain, servedDomain python settings asked = some domain →
    findEmail db (canonical python username ++ "@" ++ domain) = none)

include configured free

theorem create_follows (fitting : Fitting python settings emailStr db draws username asked) :
    ((∃ row, answerTo python settings emailStr db draws (.createAddress ⟨some username, asked⟩) = .ok row) ↔
        Admissible python settings username) ∧
      ∀ refusal, answerTo python settings emailStr db draws (.createAddress ⟨some username, asked⟩) = .error refusal →
        refusal.blamesRequest := by
  have prepares := create_prepare_iff python settings db draws username asked configured free
  apply route_follows
  · exact fun creation prepared => ((prepares creation).mp prepared).2.1
  · intro rule
    obtain ⟨custom, matched, domain, served, accepted, storable⟩ := fitting.served rule
    refine ⟨_, (prepares _).mpr ⟨custom, rule, matched, domain, served, rfl⟩, rfl, ?_, accepted⟩
    exact (temporary_insertable_iff settings db draws _ (free domain served)).mpr storable
  · exact create_prepare_refusal python settings db draws username asked configured

include room

theorem permanent_follows (fitting : Fitting python settings emailStr db draws username asked) (route : CreationRoute)
    (permanent : route = .createPermanentAddressPublic ⟨username, asked⟩ ∨
      route = .createPermanentAddressAdmin ⟨username, asked⟩) :
    ((∃ row, answerTo python settings emailStr db draws route = .ok row) ↔ Admissible python settings username) ∧
      ∀ refusal, answerTo python settings emailStr db draws route = .error refusal → refusal.blamesRequest := by
  obtain ⟨found, located, valid⟩ := permanent_validated python settings emailStr db draws username asked fitting
  have same : route.prepare python settings (.ok ()) db draws =
      preparePermanent python settings db draws ⟨canonical python username, found⟩ := by
    rcases permanent with rfl | rfl
    · simp only [CreationRoute.prepare, valid, bind, Except.bind]
    · simp only [CreationRoute.prepare, valid, bind, Except.bind]
  have prepares := prepare_permanent_iff python settings db draws configured username asked found located
    fitting.characters room free
  rw [← same] at prepares
  apply route_follows
  · exact fun creation prepared => ((prepares creation).mp prepared).2.1
  · intro rule
    obtain ⟨custom, -, domain, served, accepted, storable⟩ := fitting.served rule
    refine ⟨_, (prepares _).mpr ⟨custom, rule, domain, served, rfl⟩, rfl, ?_, ?_⟩
    · exact lasting_insertable settings db draws _ (free domain served) storable
    · rcases permanent with rfl | rfl
      · exact accepted
      · rfl
  · rw [same]
    exact prepare_permanent_refusal python settings db draws configured _

-- The exact usernames on which the three paths apply one rule.
theorem one_rule_iff :
    OneRule python settings emailStr db draws username asked ↔ Fitting python settings emailStr db draws username asked := by
  constructor
  · intro rule
    cases valid : PermanentAddressCreate.validate python ⟨username, asked⟩ with
    | error message =>
        have refused := answer_refused python settings emailStr db draws (.createPermanentAddressAdmin ⟨username, asked⟩)
          internalServerError (by simp only [CreationRoute.prepare, valid, bind, Except.bind])
        have blamed := rule.refuses _ (by simp [admissionRoutes]) _ refused
        exact absurd blamed.2 (by decide)
    | ok request =>
        obtain ⟨named, located⟩ := (permanent_validate_iff python username asked request).mp valid
        obtain ⟨-, characters, least, most⟩ := (permanent_username_iff python username _).mp named
        refine ⟨characters, least, most, ((domain_format_iff python asked _).mp located).2, fun admissible => ?_⟩
        have accepts := rule.accepts (.createAddress ⟨some username, asked⟩) (by simp [admissionRoutes])
        obtain ⟨row, answer⟩ := accepts.mpr admissible
        obtain ⟨creation, prepared⟩ := answer_ok_prepared python settings emailStr db draws _ row answer
        obtain ⟨custom, -, matched, domain, served, same⟩ :=
          (create_prepare_iff python settings db draws username asked configured free creation).mp prepared
        subst same
        obtain ⟨insertable, accepted⟩ :=
          (answer_prepared_iff python settings emailStr db draws _ _ prepared rfl).mp ⟨row, answer⟩
        exact ⟨custom, matched, domain, served, accepted,
          (temporary_insertable_iff settings db draws _ (free domain served)).mp insertable⟩
  · intro fitting
    have follows (route : CreationRoute) (member : route ∈ admissionRoutes username asked) :
        ((∃ row, answerTo python settings emailStr db draws route = .ok row) ↔ Admissible python settings username) ∧
          ∀ refusal, answerTo python settings emailStr db draws route = .error refusal → refusal.blamesRequest := by
      simp only [admissionRoutes, List.mem_cons, List.not_mem_nil, or_false] at member
      rcases member with rfl | permanent
      · exact create_follows python settings emailStr db draws username asked configured free fitting
      · exact permanent_follows python settings emailStr db draws username asked configured room free fitting route permanent
    exact ⟨fun route member => (follows route member).1, fun route member => (follows route member).2⟩

end Agreement

theorem plain_name_agreed :
    (OneRule asciiPython sampleSettings plainEmailStr {} sampleDraws " Alice " (some "example.com") ↔
        Fitting asciiPython sampleSettings plainEmailStr {} sampleDraws " Alice " (some "example.com")) ∧
      Fitting asciiPython sampleSettings plainEmailStr {} sampleDraws " Alice " (some "example.com") := by
  refine ⟨one_rule_iff asciiPython sampleSettings plainEmailStr {} sampleDraws " Alice " (some "example.com") (by decide)
    (by decide) (fun _ _ => rfl), by decide +kernel, by decide +kernel, by decide +kernel, ?_,
      fun _ => ⟨rfl, by decide +kernel, ?_⟩⟩
  · intro v same
    cases same
    decide +kernel
  · exact ⟨"example.com", by decide +kernel, by decide +kernel, ⟨_, rfl⟩, by decide +kernel, by decide +kernel, nofun⟩

theorem short_name_blames_server :
    ¬ OneRule asciiPython sampleSettings plainEmailStr {} sampleDraws "ab" none := by
  intro rule
  have blamed := rule.refuses (.createPermanentAddressAdmin ⟨"ab", none⟩) (by simp [admissionRoutes]) internalServerError (by rfl)
  exact absurd blamed.2 (by decide)

end Tempmail.Api
