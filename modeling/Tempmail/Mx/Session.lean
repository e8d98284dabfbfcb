import Tempmail.Mx.Reload
import Tempmail.Mx.Validation

set_option autoImplicit false

namespace Tempmail.Mx

structure SmtpError where
  code : Nat
  enhanced : Nat × Nat × Nat
  message : String
deriving DecidableEq, Repr

def smtpError (code : Nat) (enhanced : Nat × Nat × Nat) (message : String) : SmtpError := ⟨code, enhanced, message⟩

def invalidRecipientAddress : SmtpError := smtpError 550 (5, 1, 3) "invalid recipient address"
def invalidEmailFormat : SmtpError := smtpError 550 (5, 1, 3) "invalid email format"
def relayAccessDenied : SmtpError := smtpError 550 (5, 7, 1) "relay access denied"
def temporaryServerError : SmtpError := smtpError 451 (4, 3, 0) "temporary server error"
def mailboxUnavailable : SmtpError := smtpError 550 (5, 1, 1) "mailbox unavailable"

-- from and to are Lean keywords: the fields are fromAddr and recipients.
structure Session where
  fromAddr : String
  recipients : List String
  remoteAddr : String
  hostname : String
  cfg : Config
  validator : Option Validator
  domains : List String
deriving DecidableEq, Repr

-- Backend.NewSession: the snapshot of the domain map is taken once, here.
def newSession (runes : Runes) (remoteAddr hostname : String) (backend : Config) (current : Option Config)
    (validator : Option Validator) : Session :=
  let cfg := current.getD backend
  { fromAddr := "", recipients := [], remoteAddr, hostname, cfg, validator, domains := cfg.getDomainMap runes }

def Session.mail (session : Session) (sender : String) : Session := { session with fromAddr := sender, recipients := [] }

def Session.reset (session : Session) : Session := { session with fromAddr := "", recipients := [] }

-- strings.Split(addr.Address, "@") with exactly two parts; the second is kept.
def recipientDomain (runes : Runes) (address : String) : Option String :=
  match address.toList.splitOn '@' with
  | [_, host] => some (runes.lower (String.ofList host))
  | _ => none

section Rcpt

variable {Content Hash : Type} [DecidableEq Hash]
variable (runes : Runes) (loader : Loader Content Hash)

-- The re-read of config.yaml before an unknown domain is refused.
def Session.refreshDomains (session : Session) (domain : String) (file : Option Content) (watched : Watched Hash) :
    Session × Watched Hash :=
  if domain ∈ session.domains then (session, watched)
  else
    let read := readConfigPath watched file
    match reloadIfChanged loader read read watched with
    | (some cfg, next) => ({ session with cfg := cfg, domains := cfg.getDomainMap runes }, next)
    | (none, next) => (session, next)

-- parseAddress is net/mail.ParseAddress reduced to the Address it returns;
-- addressExists is the database's answer at this moment, none a failed query.
def Session.rcpt (parseAddress : String → Option String) (addressExists : String → Option Bool)
    (session : Session) (recipient : String) (file : Option Content) (watched : Watched Hash) :
    Except SmtpError Unit × Session × Watched Hash :=
  match parseAddress recipient with
  | none => (.error invalidRecipientAddress, session, watched)
  | some address =>
      match recipientDomain runes address with
      | none => (.error invalidEmailFormat, session, watched)
      | some domain =>
          let (session, watched) := session.refreshDomains runes loader domain file watched
          if domain ∉ session.domains then (.error relayAccessDenied, session, watched)
          else
            let normalizedEmail := runes.lower address
            match addressExists normalizedEmail with
            | none => (.error temporaryServerError, session, watched)
            | some false => (.error mailboxUnavailable, session, watched)
            | some true =>
                if normalizedEmail ∈ session.recipients then (.ok (), session, watched)
                else (.ok (), { session with recipients := session.recipients ++ [normalizedEmail] }, watched)

theorem refresh_keeps_recipients (session : Session) (domain : String) (file : Option Content)
    (watched : Watched Hash) : (session.refreshDomains runes loader domain file watched).1.recipients = session.recipients := by
  unfold Session.refreshDomains
  split
  · rfl
  · dsimp only
    split <;> rfl

theorem refresh_knows_iff (session : Session) (domain : String) (file : Option Content) (watched : Watched Hash)
    (cfg : Config) (loads : loadConfig loader.unmarshal file = .ok cfg) (configured : domain ∈ cfg.getDomainMap runes) :
    domain ∈ (session.refreshDomains runes loader domain file watched).1.domains ↔
      domain ∈ session.domains ∨
        (watched.configFilePath = true ∧ loader.hashFile file ≠ watched.configHash) := by
  by_cases known : domain ∈ session.domains
  · simp [Session.refreshDomains, known]
  · simp only [Session.refreshDomains, known, if_false, false_or]
    by_cases path : watched.configFilePath = true
    · have readable : loader.hashFile file ≠ none := by
        cases file with
        | none => simp [loadConfig] at loads
        | some content => simp [Loader.hashFile]
      simp only [readConfigPath, path, if_true, true_and]
      by_cases same : loader.hashFile file = watched.configHash
      · rw [reload_consumed loader file file watched (Or.inr same)]
        simp [known, same]
      · rw [reload_fresh loader file file watched cfg (by simp [readable, same]) loads]
        simp [configured, same]
    · have unread : readConfigPath watched file = none := by simp [readConfigPath, path]
      rw [unread, reload_consumed loader none none watched (Or.inl rfl)]
      simp [known, path]

theorem refresh_unlisted (session : Session) (domain : String) (file : Option Content) (watched : Watched Hash)
    (unlisted : ∀ cfg, loadConfig loader.unmarshal file = .ok cfg → domain ∉ cfg.getDomainMap runes) :
    domain ∈ (session.refreshDomains runes loader domain file watched).1.domains ↔ domain ∈ session.domains := by
  by_cases known : domain ∈ session.domains
  · simp [Session.refreshDomains, known]
  · simp only [Session.refreshDomains, known, if_false, iff_false]
    by_cases same : loader.hashFile (readConfigPath watched file) = none ∨
        loader.hashFile (readConfigPath watched file) = watched.configHash
    · rwa [reload_consumed loader _ _ watched same]
    · have opened : readConfigPath watched file = file := by
        rw [readConfigPath]
        split
        · rfl
        · next closed => simp [readConfigPath, closed, Loader.hashFile] at same
      rw [opened] at same ⊢
      cases loads : loadConfig loader.unmarshal file with
      | error failure => simpa [reloadIfChanged, same, loads] using known
      | ok cfg =>
          rw [reload_fresh loader file file watched cfg same loads]
          exact unlisted cfg loads

theorem rcpt_denied_iff (parseAddress : String → Option String) (addressExists : String → Option Bool)
    (session : Session) (recipient : String) (file : Option Content) (watched : Watched Hash) (address domain : String)
    (parsed : parseAddress recipient = some address) (located : recipientDomain runes address = some domain) :
    (session.rcpt runes loader parseAddress addressExists recipient file watched).1 = .error relayAccessDenied ↔
      domain ∉ (session.refreshDomains runes loader domain file watched).1.domains := by
  simp only [Session.rcpt, parsed, located]
  by_cases known : domain ∈ (session.refreshDomains runes loader domain file watched).1.domains
  · rw [if_neg (not_not.mpr known)]
    have others : temporaryServerError ≠ relayAccessDenied ∧ mailboxUnavailable ≠ relayAccessDenied := by decide
    split
    · simp [known, others.1]
    · simp [known, others.2]
    · split <;> simp [known]
  · simp [known]

end Rcpt

end Tempmail.Mx
