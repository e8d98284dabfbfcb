import Tempmail.Api.Atomicity
import Tempmail.Api.Usernames
import Tempmail.Mx.Session

set_option autoImplicit false

namespace Tempmail.Api

open Store (Db AddressRow)

-- net/mail.ParseAddress on an unquoted local part: it must be a dot-atom, and
-- what follows the @ is read by domainPart (blanks and comments dropped).
structure NetMail where
  parseAddress : String → Option String
  domainPart : String → Option String
  unquoted : ∀ username domain : String, (∀ c ∈ username.toList, isUsernameChar c = true) → '@' ∉ domain.toList →
    parseAddress (username ++ "@" ++ domain) =
      if Text.dotAtom username.toList then (domainPart domain).map (fun host => username ++ "@" ++ host) else none
  oneAt : ∀ domain host : String, domainPart domain = some host → '@' ∉ domain.toList → '@' ∉ host.toList
  plainDomain : ∀ domain : String, Text.dotAtom domain.toList = true → domainPart domain = some domain

theorem username_no_at (username : String) (plain : PlainUsername username) : '@' ∉ username.toList :=
  fun member => (username_char_plain '@' (plain.chars '@' member)).2.2 rfl

theorem address_chars (username domain : String) :
    (username ++ "@" ++ domain).toList = username.toList ++ '@' :: domain.toList := by
  simp [String.toList_append]

theorem checked_domain (username domain : String) (plain : PlainUsername username)
    (checked : Store.emailCheck (username ++ "@" ++ domain) = true) : '@' ∉ domain.toList := by
  intro member
  obtain ⟨first, rest, split⟩ := List.append_of_mem member
  have parts : (username ++ "@" ++ domain).toList.splitOn '@' =
      username.toList :: (first.splitOn '@' ++ rest.splitOn '@') := by
    rw [address_chars, List.splitOn_append_cons_self_of_not_mem (username_no_at username plain), split,
      List.splitOn_append_cons_self]
  simp only [Store.emailCheck, parts, Bool.and_eq_true] at checked
  cases left : first.splitOn '@' with
  | nil => exact List.splitOn_ne_nil '@' first left
  | cons a more =>
      cases right : rest.splitOn '@' with
      | nil => exact List.splitOn_ne_nil '@' rest right
      | cons b others =>
          rw [left, right] at checked
          cases more <;> simp at checked

section Rcpt

variable {Content Hash : Type} [DecidableEq Hash] (runes : Mx.Runes) (loader : Mx.Loader Content Hash) (mail : NetMail)

theorem refresh_same_domains (session : Mx.Session) (domain : String) (file : Option Content) (watched : Mx.Watched Hash)
    (cfg : Mx.Config) (loads : Mx.loadConfig loader.unmarshal file = .ok cfg)
    (snapshot : session.domains = cfg.getDomainMap runes) :
    (session.refreshDomains runes loader domain file watched).1.domains = cfg.getDomainMap runes := by
  unfold Mx.Session.refreshDomains
  split
  · exact snapshot
  · dsimp only
    by_cases path : watched.configFilePath = true
    · simp only [Mx.readConfigPath, path, if_true]
      by_cases same : loader.hashFile file = none ∨ loader.hashFile file = watched.configHash
      · rw [Mx.reload_consumed loader file file watched same]
        exact snapshot
      · rw [Mx.reload_fresh loader file file watched cfg same loads]
    · have unread : Mx.readConfigPath watched file = none := by simp [Mx.readConfigPath, path]
      rw [unread, Mx.reload_consumed loader none none watched (Or.inl rfl)]
      exact snapshot

theorem lower_address (username domain : String) (plain : PlainUsername username) :
    runes.lower (username ++ "@" ++ domain) = username ++ "@" ++ runes.lower domain := by
  have fixed : Text.mapChars runes.toLower username = username := by
    apply Text.map_chars_id
    intro c member
    rw [runes.ascii c (username_char_plain c (plain.chars c member)).1]
    exact Text.lower_same c (by simp [plain.noUpper c member])
  have at_ : Text.mapChars runes.toLower "@" = "@" := by
    apply Text.map_chars_id
    intro c member
    rw [List.mem_singleton.mp member]
    exact runes.ascii '@' (by decide)
  rw [Mx.Runes.lower, Text.map_chars_append, Text.map_chars_append, fixed, at_]
  rfl

theorem rcpt_accepts_iff (username domain : String) (plain : PlainUsername username) (oneAt : '@' ∉ domain.toList)
    (addressExists : String → Option Bool) (session : Mx.Session) (file : Option Content) (watched : Mx.Watched Hash)
    (cfg : Mx.Config) (loads : Mx.loadConfig loader.unmarshal file = .ok cfg)
    (snapshot : session.domains = cfg.getDomainMap runes) :
    (session.rcpt runes loader mail.parseAddress addressExists (username ++ "@" ++ domain) file watched).1 = .ok () ↔
      Text.dotAtom username.toList = true ∧ ∃ host, mail.domainPart domain = some host ∧
        runes.lower host ∈ cfg.getDomainMap runes ∧ addressExists (username ++ "@" ++ runes.lower host) = some true := by
  have parsed := mail.unquoted username domain plain.chars oneAt
  unfold Mx.Session.rcpt
  by_cases dots : Text.dotAtom username.toList = true
  · rw [if_pos dots] at parsed
    cases located : mail.domainPart domain with
    | none =>
        rw [located, Option.map_none] at parsed
        simp [parsed]
    | some host =>
        rw [located, Option.map_some] at parsed
        have parts : Mx.recipientDomain runes (username ++ "@" ++ host) = some (runes.lower host) := by
          rw [Mx.recipientDomain, address_chars,
            Text.split_pair '@' _ _ (username_no_at username plain) (mail.oneAt domain host located oneAt)]
          simp
        have known := refresh_same_domains runes loader session (runes.lower host) file watched cfg loads snapshot
        simp only [parsed, parts, known, lower_address runes username host plain, dots, true_and, Option.some.injEq,
          exists_eq_left']
        by_cases listed : runes.lower host ∈ cfg.getDomainMap runes
        · rw [if_neg (not_not.mpr listed)]
          cases found : addressExists (username ++ "@" ++ runes.lower host) with
          | none => simp
          | some exists_ =>
              cases exists_ with
              | false => simp
              | true =>
                  simp only [listed, true_and]
                  split <;> simp
        · simp [listed]
  · rw [if_neg dots] at parsed
    simp [parsed, dots]

end Rcpt

section Created

variable (python : Python) (settings : CreationSettings) (emailStr : String → Bool)

theorem inserted_prepared (dependencies : Except HTTPException Unit) (before : Db) (draws : Draws) (faults : Faults)
    (route : CreationRoute) (row : AddressRow)
    (inserted : .inserted row ∈ (route.handle python settings emailStr dependencies before draws faults).writes) :
    ∃ creation, route.prepare python settings dependencies before draws = .ok creation ∧ row.email = creation.email := by
  have step : ∀ (db : Db) (creation : Creation) (writes : List AddressWrite),
      .inserted row ∈ (creation.insert db draws faults writes).writes → .inserted row ∉ writes →
        row.email = creation.email := by
    intro db creation writes member absent
    by_cases takes : creation.Insertable db draws ∧ faults.insert ≠ .failed
    · obtain ⟨made, email, log, -, -⟩ := insert_committed db draws faults creation writes takes.1 takes.2
      rw [log, List.mem_append, List.mem_singleton, AddressWrite.inserted.injEq] at member
      rw [member.resolve_left absent, email]
    · rw [insert_refused db draws faults creation writes takes] at member
      exact absurd member absent
  rw [CreationRoute.handle, respond_writes] at inserted
  unfold perform at inserted
  split at inserted
  · cases inserted
  · cases prepared : route.prepare python settings dependencies before draws with
    | error refusal =>
        rw [prepared] at inserted
        cases inserted
    | ok creation =>
        rw [prepared] at inserted
        refine ⟨creation, rfl, ?_⟩
        dsimp only at inserted
        unfold Creation.perform at inserted
        split at inserted
        · exact step before creation [] inserted (by simp)
        · split at inserted
          · cases inserted
          · simp at inserted
          · exact step _ creation _ inserted (by simp)

variable {Content Hash : Type} [DecidableEq Hash] (runes : Mx.Runes) (loader : Mx.Loader Content Hash) (mail : NetMail)

def Receives (cfg : Mx.Config) (remoteAddr hostname : String) (validator : Option Mx.Validator) (file : Option Content)
    (watched : Mx.Watched Hash) (db : Db) (now : Store.Time) (email : String) : Prop :=
  ((Mx.newSession runes remoteAddr hostname cfg (some cfg) validator).rcpt runes loader mail.parseAddress
    (fun address => some (db.activeAddress now address).isSome) email file watched).1 = .ok ()

-- The username is a dot-atom, and what the MX makes of the domain is a
-- configured domain under which an active row is stored.
def Reachable (cfg : Mx.Config) (db : Db) (now : Store.Time) (username domain : String) : Prop :=
  Text.dotAtom username.toList = true ∧ ∃ host, mail.domainPart domain = some host ∧
    runes.lower host ∈ cfg.getDomainMap runes ∧ (db.activeAddress now (username ++ "@" ++ runes.lower host)).isSome = true

theorem plain_domain_listed (cfg : Mx.Config) (domain : String) (listed : domain ∈ cfg.domains)
    (plain : Text.dotAtom domain.toList = true) (lowered : runes.lower domain = domain) :
    domain ∈ cfg.getDomainMap runes := by
  apply Mx.domain_map_member runes cfg domain listed _ lowered
  · intro empty
    subst empty
    exact Text.dot_atom_named _ plain rfl
  · intro c member
    have code := Text.dot_atom_code domain.toList plain c member
    simp only [Mx.isSpace, Bool.or_eq_false_iff, Bool.and_eq_false_iff, decide_eq_false_iff_not, beq_eq_false_iff_ne]
    omega

theorem active_present (db : Db) (now : Store.Time) (row : AddressRow) (present : row ∈ db.addresses)
    (alive : row.active now = true) : (db.activeAddress now row.email).isSome = true := by
  rw [Db.activeAddress, Option.isSome_map, List.find?_isSome]
  exact ⟨row, present, by simp [alive]⟩

-- The row came from one of the four routes, it is still there and has not
-- expired, and the MX runs under the same list of domains.
theorem created_mailbox_receives_iff (dependencies : Except HTTPException Unit) (before : Db) (draws : Draws)
    (faults : Faults) (route : CreationRoute) (row : AddressRow)
    (inserted : .inserted row ∈ (route.handle python settings emailStr dependencies before draws faults).writes)
    (cfg : Mx.Config) (same : cfg.domains = settings.domains) (file : Option Content)
    (loads : Mx.loadConfig loader.unmarshal file = .ok cfg) (watched : Mx.Watched Hash) (remoteAddr hostname : String)
    (validator : Option Mx.Validator) (db : Db) (now : Store.Time) (present : row ∈ db.addresses)
    (alive : row.active now = true) :
    ∃ username domain, row.email = username ++ "@" ++ domain ∧ PlainUsername username ∧ domain ∈ cfg.domains ∧
      (Receives runes loader mail cfg remoteAddr hostname validator file watched db now row.email ↔
        Reachable runes mail cfg db now username domain) ∧
      (Text.dotAtom domain.toList = true → runes.lower domain = domain →
        (Receives runes loader mail cfg remoteAddr hostname validator file watched db now row.email ↔
          Text.dotAtom username.toList = true)) := by
  obtain ⟨creation, prepared, email⟩ :=
    inserted_prepared python settings emailStr dependencies before draws faults route row inserted
  obtain ⟨username, domain, shape, plain, listed⟩ :=
    prepared_email python settings before draws dependencies route creation prepared
  rw [shape] at email
  have oneAt : '@' ∉ domain.toList := checked_domain username domain plain (email ▸ row.emailChecked)
  rw [← same] at listed
  have accepts : Receives runes loader mail cfg remoteAddr hostname validator file watched db now row.email ↔
      Reachable runes mail cfg db now username domain := by
    have answer := rcpt_accepts_iff runes loader mail username domain plain oneAt
      (fun address => some (db.activeAddress now address).isSome)
      (Mx.newSession runes remoteAddr hostname cfg (some cfg) validator) file watched cfg loads rfl
    simp only [Option.some.injEq] at answer
    rw [Receives, email]
    exact answer
  refine ⟨username, domain, email, plain, listed, accepts, ?_⟩
  intro plainDomain lowered
  rw [accepts]
  constructor
  · exact And.left
  · intro dots
    have stored := active_present db now row present alive
    rw [email] at stored
    exact ⟨dots, domain, mail.plainDomain domain plainDomain, by
      rw [lowered]
      exact ⟨plain_domain_listed runes cfg domain listed plainDomain lowered, stored⟩⟩

end Created

section DoubleDot

def plainMail : NetMail where
  parseAddress address :=
    match address.toList.splitOn '@' with
    | [username, domain] => if Text.dotAtom username && Text.dotAtom domain then some address else none
    | _ => none
  domainPart domain := if Text.dotAtom domain.toList then some domain else none
  unquoted username domain chars oneAt := by
    have plain : '@' ∉ username.toList := fun member => (username_char_plain '@' (chars '@' member)).2.2 rfl
    rw [address_chars, Text.split_pair '@' _ _ plain oneAt]
    cases dots : Text.dotAtom username.toList <;> cases host : Text.dotAtom domain.toList <;> simp [dots, host]
  oneAt domain host located oneAt := by
    split at located
    · cases located
      exact oneAt
    · cases located
  plainDomain domain plain := by simp [plain]

def sharedConfig : Mx.Config :=
  Mx.withDefaults { domains := ["example.com"], database := { url := "postgresql://u:p@localhost:5432/db" } }

def sharedLoader : Mx.Loader String String := ⟨fun _ => some sharedConfig, id⟩

def createMailbox (username : String) : Outcome :=
  (CreationRoute.createPermanentAddressAdmin ⟨username, none⟩).handle asciiPython sampleSettings plainEmailStr (.ok ()) {}
    sampleDraws {}

def mailboxRow (email : String) (checked : Store.emailCheck email = true) : AddressRow :=
  ⟨1, email, "token", .permanent, 0, none, checked, by decide⟩

theorem single_dot_mailbox :
    ∃ username domain, "a.b@example.com" = username ++ "@" ++ domain ∧ domain ∈ sharedConfig.domains ∧
      (Receives Mx.asciiRunes sharedLoader plainMail sharedConfig "203.0.113.5:4000" "mx.sender.test" none (some "config")
        ⟨true, none, none⟩ (createMailbox "a.b").db 0 "a.b@example.com" ↔
          Reachable Mx.asciiRunes plainMail sharedConfig (createMailbox "a.b").db 0 username domain) := by
  obtain ⟨username, domain, shape, -, listed, accepts, -⟩ :=
    created_mailbox_receives_iff asciiPython sampleSettings plainEmailStr Mx.asciiRunes sharedLoader plainMail (.ok ()) {}
      sampleDraws {} (.createPermanentAddressAdmin ⟨"a.b", none⟩) (mailboxRow "a.b@example.com" (by decide)) (by decide)
      sharedConfig rfl (some "config") rfl ⟨true, none, none⟩ "203.0.113.5:4000" "mx.sender.test" none
      (createMailbox "a.b").db 0 (by decide) rfl
  exact ⟨username, domain, shape, listed, accepts⟩

theorem double_dot_refused :
    .inserted (mailboxRow "a..b@example.com" (by decide)) ∈ (createMailbox "a..b").writes ∧
      ¬ Receives Mx.asciiRunes sharedLoader plainMail sharedConfig "203.0.113.5:4000" "mx.sender.test" none (some "config")
        ⟨true, none, none⟩ (createMailbox "a..b").db 0 "a..b@example.com" := by
  refine ⟨by decide, ?_⟩
  intro receives
  cases receives

end DoubleDot

end Tempmail.Api
