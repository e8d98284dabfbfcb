import Tempmail.Lib.Machine
import Tempmail.Lib.Table
import Tempmail.Mx.Session

set_option autoImplicit false

namespace Tempmail.Mx

-- Three copies of the domain set: the file, the configuration loaded last and
-- the snapshot in every open session.
structure World (Content Hash : Type) where
  file : Option Content
  watched : Watched Hash
  backend : Config
  validator : Option Validator
  sessions : Table Nat Session

inductive Event (Content : Type) where
  | write (content : Option Content)
  | watch
  | tick
  | openSession (id : Nat) (remoteAddr hostname : String)
  | mail (id : Nat) (sender : String)
  | rcpt (id : Nat) (recipient : String) (addressExists : String → Option Bool)
  | reset (id : Nat)

variable {Content Hash : Type} [DecidableEq Hash]

def World.updateSession (world : World Content Hash) (id : Nat) (change : Session → Session) : World Content Hash :=
  match world.sessions.lookup id with
  | none => world
  | some session => { world with sessions := world.sessions.insert id (change session) }

-- watch is main's go watchConfig(configPath, hashFile(configPath), ...); a tick
-- before it finds no path to read.
def serve (runes : Runes) (loader : Loader Content Hash) (parseAddress : String → Option String)
    (world : World Content Hash) : Event Content → World Content Hash × Option (Except SmtpError Unit)
  | .write content => ({ world with file := content }, none)
  | .watch =>
      ({ world with watched := { world.watched.setConfigPath with configHash := loader.hashFile world.file } }, none)
  | .tick =>
      let read := readConfigPath world.watched world.file
      ({ world with watched := (reloadIfChanged loader read read world.watched).2 }, none)
  | .openSession id remoteAddr hostname =>
      let session := newSession runes remoteAddr hostname world.backend world.watched.currentConfig world.validator
      ({ world with sessions := world.sessions.insert id session }, none)
  | .mail id sender => (world.updateSession id (fun session => session.mail sender), some (.ok ()))
  | .reset id => (world.updateSession id Session.reset, none)
  | .rcpt id recipient addressExists =>
      match world.sessions.lookup id with
      | none => (world, none)
      | some session =>
          let result := session.rcpt runes loader parseAddress addressExists recipient world.file world.watched
          ({ world with watched := result.2.2, sessions := world.sessions.insert id result.2.1 }, some result.1)

def server (runes : Runes) (loader : Loader Content Hash) (parseAddress : String → Option String) :
    Machine (World Content Hash) (Event Content) (Option (Except SmtpError Unit)) :=
  ⟨serve runes loader parseAddress⟩

-- An RCPT in an open session whose recipient lies in a domain that config.yaml,
-- as it stands at that moment, loads and lists.
def ConfiguredRcpt (runes : Runes) (loader : Loader Content Hash) (parseAddress : String → Option String)
    (world : World Content Hash) (id : Nat) (recipient : String) (session : Session) (domain : String) : Prop :=
  world.sessions.lookup id = some session ∧
    ∃ address cfg, parseAddress recipient = some address ∧ recipientDomain runes address = some domain ∧
      loadConfig loader.unmarshal world.file = .ok cfg ∧ domain ∈ cfg.getDomainMap runes

def NeverRefused (runes : Runes) (loader : Loader Content Hash) (parseAddress : String → Option String)
    (moment : Machine.Moment (World Content Hash) (Event Content) (Option (Except SmtpError Unit))) : Prop :=
  ∀ id recipient addressExists session domain, moment.event = .rcpt id recipient addressExists →
    ConfiguredRcpt runes loader parseAddress moment.before id recipient session domain →
    moment.answer ≠ some (.error relayAccessDenied)

-- The snapshot knows the domain, or nobody has consumed the change yet: the
-- file no longer hashes to what was loaded last.
def ChangeVisible (runes : Runes) (loader : Loader Content Hash) (parseAddress : String → Option String)
    (moment : Machine.Moment (World Content Hash) (Event Content) (Option (Except SmtpError Unit))) : Prop :=
  ∀ id recipient addressExists session domain, moment.event = .rcpt id recipient addressExists →
    ConfiguredRcpt runes loader parseAddress moment.before id recipient session domain →
    domain ∈ session.domains ∨
      (moment.before.watched.configFilePath = true ∧
        loader.hashFile moment.before.file ≠ moment.before.watched.configHash)

theorem serve_refused_iff (runes : Runes) (loader : Loader Content Hash) (parseAddress : String → Option String)
    (world : World Content Hash) (id : Nat) (recipient : String) (addressExists : String → Option Bool)
    (session : Session) (domain : String)
    (configured : ConfiguredRcpt runes loader parseAddress world id recipient session domain) :
    (serve runes loader parseAddress world (.rcpt id recipient addressExists)).2 = some (.error relayAccessDenied) ↔
      ¬ (domain ∈ session.domains ∨
        (world.watched.configFilePath = true ∧ loader.hashFile world.file ≠ world.watched.configHash)) := by
  obtain ⟨present, address, cfg, parsed, located, loads, listed⟩ := configured
  simp only [serve, present, Option.some.injEq]
  rw [rcpt_denied_iff runes loader parseAddress addressExists session recipient world.file world.watched address domain
    parsed located]
  exact not_congr (refresh_knows_iff runes loader session domain world.file world.watched cfg loads listed)

-- Each side speaks about every RCPT of the run.
theorem configured_domain_refused_iff (runes : Runes) (loader : Loader Content Hash)
    (parseAddress : String → Option String) (start : World Content Hash) (events : List (Event Content)) :
    (∀ moment ∈ (server runes loader parseAddress).trace start events, NeverRefused runes loader parseAddress moment) ↔
      ∀ moment ∈ (server runes loader parseAddress).trace start events, ChangeVisible runes loader parseAddress moment := by
  apply Machine.trace_forall_iff (server runes loader parseAddress) (fun _ => True) (fun _ => True)
  · exact fun _ _ _ _ => trivial
  · intro world event _ _
    constructor
    · intro honest id recipient addressExists session domain isRcpt configured
      have answer := honest id recipient addressExists session domain isRcpt configured
      dsimp only at isRcpt configured answer ⊢
      subst isRcpt
      by_contra invisible
      exact answer ((serve_refused_iff runes loader parseAddress world id recipient addressExists session domain
        configured).mpr invisible)
    · intro visible id recipient addressExists session domain isRcpt configured
      have seen := visible id recipient addressExists session domain isRcpt configured
      dsimp only at isRcpt configured seen ⊢
      subst isRcpt
      intro refused
      exact (serve_refused_iff runes loader parseAddress world id recipient addressExists session domain
        configured).mp refused seen
  · exact fun _ _ => trivial
  · trivial

def firstFile : String :=
  "domains:\n- first.test\ndatabase:\n  url: postgresql://u:p@localhost:5432/db\nserver:\n  mx_port: 25\n"
def secondFile : String :=
  "domains:\n- first.test\n- second.test\ndatabase:\n  url: postgresql://u:p@localhost:5432/db\nserver:\n  mx_port: 25\n"

def sampleConfig (domains : List String) : Config :=
  { domains, database := { url := "postgresql://u:p@localhost:5432/db" }, server := { mxPort := 25 } }

def sampleLoader : Loader String String where
  unmarshal content :=
    if content = firstFile then some (sampleConfig ["first.test"])
    else if content = secondFile then some (sampleConfig ["first.test", "second.test"])
    else none
  sha256 := id

def sampleWorld : World String String where
  file := some firstFile
  watched := ⟨false, none, some (withDefaults (sampleConfig ["first.test"]))⟩
  backend := withDefaults (sampleConfig ["first.test"])
  validator := none
  sessions := ∅

def sampleEvents : List (Event String) :=
  [.watch, .openSession 1 "203.0.113.5:4000" "mx.sender.test", .write (some secondFile), .tick]
def sampleRcpt : Event String := .rcpt 1 "user@second.test" (fun _ => some true)

theorem added_domain_refused :
    ¬ ∀ moment ∈ (server asciiRunes sampleLoader some).trace sampleWorld (sampleEvents ++ [sampleRcpt]),
      NeverRefused asciiRunes sampleLoader some moment := by
  intro honest
  let world := (server asciiRunes sampleLoader some).final sampleWorld sampleEvents
  have reached : (⟨world, sampleRcpt, (serve asciiRunes sampleLoader some world sampleRcpt).2⟩ : Machine.Moment _ _ _) ∈
      (server asciiRunes sampleLoader some).trace sampleWorld (sampleEvents ++ [sampleRcpt]) := by
    rw [Machine.trace_append]
    exact List.mem_append_right _ (List.mem_singleton.mpr rfl)
  have configured : ConfiguredRcpt asciiRunes sampleLoader some world 1 "user@second.test"
      (newSession asciiRunes "203.0.113.5:4000" "mx.sender.test" sampleWorld.backend
        sampleWorld.watched.currentConfig none) "second.test" :=
    ⟨by rfl, "user@second.test", withDefaults (sampleConfig ["first.test", "second.test"]),
      by rfl, by decide, by rfl, by decide⟩
  exact honest _ reached 1 "user@second.test" (fun _ => some true) _ "second.test" rfl configured (by rfl)

end Tempmail.Mx
