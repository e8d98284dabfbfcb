import Tempmail.Mx.Guards
import Tempmail.Mx.SessionSafety

set_option autoImplicit false

namespace Tempmail.Mx

inductive Cause where
  | malformedRecipient
  | domainNotConfigured
  | staleSnapshot
  | unreadConfig
  | recipientGone
  | overSize
  | overParts
  | unparseable
  | databaseError
  | readError
  | rateLimit
deriving DecidableEq, Repr

-- Retrying does not make it go away. A session's snapshot is replaced by the next
-- session, and a config.yaml that does not load by the one that does.
def Cause.permanent : Cause → Bool
  | .staleSnapshot | .unreadConfig | .databaseError | .readError | .rateLimit => false
  | _ => true

def Cause.Class (cause : Cause) (code : Nat) : Prop :=
  if cause.permanent then 500 ≤ code ∧ code < 600 else 400 ≤ code ∧ code < 500

instance (cause : Cause) (code : Nat) : Decidable (cause.Class code) := by
  unfold Cause.Class
  infer_instance

-- What the outcomes of the calls do not show. A read can fail because the
-- connection did, or at the MaxMessageBytes the SMTP library was started with;
-- a link can fail because the database did, or because the address row was
-- deleted after its lookup.
structure Faults where
  oversize : Bool
  vanished : Nat → Bool

section Causes

variable {Content Hash IP Id : Type} [DecidableEq Hash] (runes : Runes) (loader : Loader Content Hash)
variable (parseAddress : String → Option String) (services : Services IP)

def Visible (file : Option Content) (watched : Watched Hash) : Prop :=
  watched.configFilePath = true ∧ loader.hashFile file ≠ watched.configHash

-- config.yaml, as it stands, loads and lists the domain.
def Listed (file : Option Content) (domain : String) : Prop :=
  ∃ cfg, loadConfig loader.unmarshal file = .ok cfg ∧ domain ∈ cfg.getDomainMap runes

def Session.Serves (session : Session) (domain : String) (file : Option Content) (watched : Watched Hash) : Prop :=
  domain ∈ session.domains ∨ Listed runes loader file domain ∧ Visible loader file watched

inductive RcptCause (session : Session) (recipient : String) (addressExists : String → Option Bool) (file : Option Content)
    (watched : Watched Hash) : Cause → Prop
  | format (bad : parseAddress recipient = none) : RcptCause session recipient addressExists file watched .malformedRecipient
  | shape (address : String) (parsed : parseAddress recipient = some address) (bad : recipientDomain runes address = none) :
      RcptCause session recipient addressExists file watched .malformedRecipient
  | domain (address domain : String) (parsed : parseAddress recipient = some address)
      (located : recipientDomain runes address = some domain) (missing : domain ∉ session.domains) (cfg : Config)
      (loads : loadConfig loader.unmarshal file = .ok cfg) (unlisted : domain ∉ cfg.getDomainMap runes) :
      RcptCause session recipient addressExists file watched .domainNotConfigured
  | stale (address domain : String) (parsed : parseAddress recipient = some address)
      (located : recipientDomain runes address = some domain) (missing : domain ∉ session.domains)
      (listed : Listed runes loader file domain) (unseen : ¬ Visible loader file watched) :
      RcptCause session recipient addressExists file watched .staleSnapshot
  | unread (address domain : String) (parsed : parseAddress recipient = some address)
      (located : recipientDomain runes address = some domain) (missing : domain ∉ session.domains)
      (broken : ∀ cfg, loadConfig loader.unmarshal file ≠ .ok cfg) :
      RcptCause session recipient addressExists file watched .unreadConfig
  | query (address domain : String) (parsed : parseAddress recipient = some address)
      (located : recipientDomain runes address = some domain) (served : session.Serves runes loader domain file watched)
      (failed : addressExists (runes.lower address) = none) :
      RcptCause session recipient addressExists file watched .databaseError
  | gone (address domain : String) (parsed : parseAddress recipient = some address)
      (located : recipientDomain runes address = some domain) (served : session.Serves runes loader domain file watched)
      (absent : addressExists (runes.lower address) = some false) :
      RcptCause session recipient addressExists file watched .recipientGone

def StoreCalls.Finds (calls : StoreCalls Id) (recipient : String) : Prop :=
  calls.begins = true ∧ calls.insertEmail = true ∧ ∃ addressID,
    calls.selectAddress (runes.lower recipient) = some (some addressID)

inductive StoreCause (calls : StoreCalls Id) (vanished : Bool) (recipient : String) (attachments : Nat) : Cause → Prop
  | begins (failed : calls.begins = false) : StoreCause calls vanished recipient attachments .databaseError
  | insert (began : calls.begins = true) (failed : calls.insertEmail = false) :
      StoreCause calls vanished recipient attachments .databaseError
  | query (began : calls.begins = true ∧ calls.insertEmail = true) (failed : calls.selectAddress (runes.lower recipient) = none) :
      StoreCause calls vanished recipient attachments .databaseError
  | gone (began : calls.begins = true ∧ calls.insertEmail = true)
      (absent : calls.selectAddress (runes.lower recipient) = some none) :
      StoreCause calls vanished recipient attachments .recipientGone
  | link (finds : calls.Finds runes recipient) (failed : calls.insertRecipient = false) (there : vanished = false) :
      StoreCause calls vanished recipient attachments .databaseError
  | deleted (finds : calls.Finds runes recipient) (failed : calls.insertRecipient = false) (absent : vanished = true) :
      StoreCause calls vanished recipient attachments .recipientGone
  | attachment (finds : calls.Finds runes recipient) (linked : calls.insertRecipient = true) (index : Nat)
      (inside : index < attachments) (failed : calls.insertAttachment index = false) :
      StoreCause calls vanished recipient attachments .databaseError
  | commit (ready : calls.Ready runes recipient attachments) (failed : calls.commit ≠ .done) :
      StoreCause calls vanished recipient attachments .databaseError

def Reached (session : Session) (arrival : Arrival Id) (attachments position : Nat) (recipient : String) : Prop :=
  session.recipients[position]? = some recipient ∧
    ∀ earlier other, earlier < position → session.recipients[earlier]? = some other →
      (arrival.calls earlier).Succeeds runes other attachments

def Session.Breaks (session : Session) (incoming : Incoming) : Prop :=
  (incoming.bytes.length : Int) < session.cfg.getMaxMessageSize.toInt ∧ incoming.broken = true

inductive DataCause (session : Session) (arrival : Arrival Id) (faults : Faults) : Cause → Prop
  | read (breaks : session.Breaks arrival.incoming) (honest : faults.oversize = false) :
    DataCause session arrival faults .readError
  | cut (breaks : session.Breaks arrival.incoming) (limited : faults.oversize = true) : DataCause session arrival faults .overSize
  | size (large : session.cfg.getMaxMessageSize.toInt ≤ arrival.incoming.bytes.length) :
      DataCause session arrival faults .overSize
  | rate (fits : session.Fits arrival.incoming) (refused : (allowMessageFrom arrival.windows arrival.now
      (session.getClientIP services) session.cfg.getMaxMessagesPerHourIP).1 = false) : DataCause session arrival faults .rateLimit
  | parts (fits : session.Fits arrival.incoming) (allowed : (allowMessageFrom arrival.windows arrival.now
      (session.getClientIP services) session.cfg.getMaxMessagesPerHourIP).1 = true)
      (many : session.cfg.getMaxMIMEParts < (countMIMEParts arrival.incoming.bytes : Int)) :
      DataCause session arrival faults .overParts
  | parse (fits : session.Fits arrival.incoming) (allowed : (allowMessageFrom arrival.windows arrival.now
      (session.getClientIP services) session.cfg.getMaxMessagesPerHourIP).1 = true)
      (few : (countMIMEParts arrival.incoming.bytes : Int) ≤ session.cfg.getMaxMIMEParts)
      (unread : services.readEnvelope arrival.incoming.bytes = none) : DataCause session arrival faults .unparseable
  | store (envelope : Envelope) (admitted : Admitted services session arrival envelope) (position : Nat) (recipient : String)
      (reached : Reached runes session arrival (extractAttachments envelope).length position recipient) (cause : Cause)
      (failing : StoreCause runes (arrival.calls position) (faults.vanished position) recipient
        (extractAttachments envelope).length cause) : DataCause session arrival faults cause

-- One call with the causes behind its outcomes.
abbrev Explained (Content Hash Id : Type) := Call Content Hash Id × Faults

def CallCause (session : Session) (call : Explained Content Hash Id) (cause : Cause) : Prop :=
  match call.1 with
  | .command (.rcpt recipient addressExists file watched) =>
      RcptCause runes loader parseAddress session recipient addressExists file watched cause
  | .command _ => False
  | .data arrival => DataCause runes services session arrival call.2 cause

def replying : Machine Session (Explained Content Hash Id) (Except SmtpError Unit) where
  step session call :=
    (((conversation runes loader parseAddress services).step session call.1).1,
      ((conversation runes loader parseAddress services).step session call.1).2.answer)

abbrev Replied (Content Hash Id : Type) := Machine.Moment Session (Explained Content Hash Id) (Except SmtpError Unit)

structure RightClass (turn : Replied Content Hash Id) : Prop where
  explained : ∀ refusal, turn.answer = .error refusal → ∃ cause,
    CallCause runes loader parseAddress services turn.before turn.event cause
  classed : ∀ cause, CallCause runes loader parseAddress services turn.before turn.event cause →
    ∃ refusal, turn.answer = .error refusal ∧ cause.Class refusal.code

-- The address row is gone when the store looks it up or links it.
def GoneInStore (calls : StoreCalls Id) (vanished : Bool) (recipient : String) : Prop :=
  (calls.begins = true ∧ calls.insertEmail = true ∧ calls.selectAddress (runes.lower recipient) = some none) ∨
    calls.Finds runes recipient ∧ calls.insertRecipient = false ∧ vanished = true

-- A DATA that meets neither the library's own limit nor a mailbox that went
-- away after its RCPT.
structure Undisturbed (session : Session) (arrival : Arrival Id) (faults : Faults) : Prop where
  unlimited : session.Breaks arrival.incoming → faults.oversize = false
  kept : ∀ envelope, Admitted services session arrival envelope → ∀ position recipient,
    Reached runes session arrival (extractAttachments envelope).length position recipient →
      ¬ GoneInStore runes (arrival.calls position) (faults.vanished position) recipient

-- A RCPT for a domain outside the snapshot finds a config.yaml that loads, and where
-- that lists the domain, nobody loaded it before.
def UndisturbedRcpt (session : Session) (recipient : String) (file : Option Content) (watched : Watched Hash) : Prop :=
  ∀ address domain, parseAddress recipient = some address → recipientDomain runes address = some domain →
    domain ∉ session.domains → ∃ cfg, loadConfig loader.unmarshal file = .ok cfg ∧
      (domain ∈ cfg.getDomainMap runes → Visible loader file watched)

def UndisturbedCall (session : Session) (call : Explained Content Hash Id) : Prop :=
  match call.1 with
  | .command (.rcpt recipient _ file watched) => UndisturbedRcpt runes loader parseAddress session recipient file watched
  | .command _ => True
  | .data arrival => Undisturbed runes services session arrival call.2

section Rcpt

variable (session : Session) (recipient : String) (addressExists : String → Option Bool) (file : Option Content)
variable (watched : Watched Hash)

omit [DecidableEq Hash] in
theorem listed_one (cfg : Config) (loads : loadConfig loader.unmarshal file = .ok cfg) (domain : String) :
    Listed runes loader file domain ↔ domain ∈ cfg.getDomainMap runes :=
  ⟨fun ⟨_, loaded, listed⟩ => Except.ok.inj (loaded.symm.trans loads) ▸ listed, fun listed => ⟨cfg, loads, listed⟩⟩

theorem serves_iff (domain : String) : domain ∈ (session.refreshDomains runes loader domain file watched).1.domains ↔
    session.Serves runes loader domain file watched := by
  by_cases listed : Listed runes loader file domain
  · obtain ⟨cfg, loads, inside⟩ := listed
    rw [refresh_knows_iff runes loader session domain file watched cfg loads inside, Session.Serves,
      iff_true_intro ((listed_one runes loader file cfg loads domain).mpr inside), true_and]
    rfl
  · have unlisted : session.Serves runes loader domain file watched ↔ domain ∈ session.domains :=
      ⟨fun serves => serves.resolve_right (fun both => listed both.1), Or.inl⟩
    rw [unlisted]
    exact refresh_unlisted runes loader session domain file watched (fun cfg loads inside => listed ⟨cfg, loads, inside⟩)

theorem rcpt_denied (address domain : String) (parsed : parseAddress recipient = some address)
    (located : recipientDomain runes address = some domain) (unserved : ¬ session.Serves runes loader domain file watched) :
    (session.rcpt runes loader parseAddress addressExists recipient file watched).1 = .error relayAccessDenied :=
  (rcpt_denied_iff runes loader parseAddress addressExists session recipient file watched address domain parsed located).mpr
    (mt (serves_iff runes loader session file watched domain).mp unserved)

theorem rcpt_classed (undisturbed : UndisturbedRcpt runes loader parseAddress session recipient file watched) (cause : Cause)
    (caused : RcptCause runes loader parseAddress session recipient addressExists file watched cause) :
    ∃ refusal, (session.rcpt runes loader parseAddress addressExists recipient file watched).1 = .error refusal ∧
      cause.Class refusal.code := by
  cases caused with
  | format bad => exact ⟨invalidRecipientAddress, by simp [Session.rcpt, bad], by decide⟩
  | shape address parsed bad => exact ⟨invalidEmailFormat, by simp [Session.rcpt, parsed, bad], by decide⟩
  | domain address domain parsed located missing cfg loads unlisted =>
      have unserved : ¬ session.Serves runes loader domain file watched := by
        rintro (known | ⟨listed, -⟩)
        · exact missing known
        · exact unlisted ((listed_one runes loader file cfg loads domain).mp listed)
      exact ⟨_, rcpt_denied runes loader parseAddress session recipient addressExists file watched address domain
        parsed located unserved,
        by decide⟩
  | stale address domain parsed located missing listed unseen =>
      obtain ⟨cfg, loads, seen⟩ := undisturbed address domain parsed located missing
      exact absurd (seen ((listed_one runes loader file cfg loads domain).mp listed)) unseen
  | unread address domain parsed located missing broken =>
      obtain ⟨cfg, loads, -⟩ := undisturbed address domain parsed located missing
      exact absurd loads (broken cfg)
  | query address domain parsed located served failed =>
      have known := (serves_iff runes loader session file watched domain).mpr served
      exact ⟨temporaryServerError, by simp [Session.rcpt, parsed, located, known, failed], by decide⟩
  | gone address domain parsed located served absent =>
      have known := (serves_iff runes loader session file watched domain).mpr served
      exact ⟨mailboxUnavailable, by simp [Session.rcpt, parsed, located, known, absent], by decide⟩

theorem rcpt_disturbed (address domain : String) (parsed : parseAddress recipient = some address)
    (located : recipientDomain runes address = some domain) (cause : Cause)
    (passing : cause.permanent = false) (unserved : ¬ session.Serves runes loader domain file watched)
    (right : ∃ refusal, (session.rcpt runes loader parseAddress addressExists recipient file watched).1 = .error refusal ∧
      cause.Class refusal.code) : False := by
  obtain ⟨refusal, answered, ranged⟩ := right
  cases answered.symm.trans
    (rcpt_denied runes loader parseAddress session recipient addressExists file watched address domain parsed located unserved)
  rw [Cause.Class, passing] at ranged
  exact absurd ranged (by decide)

theorem rcpt_undisturbed
    (right : ∀ cause, RcptCause runes loader parseAddress session recipient addressExists file watched cause →
    ∃ refusal, (session.rcpt runes loader parseAddress addressExists recipient file watched).1 = .error refusal ∧
      cause.Class refusal.code) : UndisturbedRcpt runes loader parseAddress session recipient file watched := by
  intro address domain parsed located missing
  cases loads : loadConfig loader.unmarshal file with
  | error failure =>
      have broken : ∀ cfg, loadConfig loader.unmarshal file ≠ .ok cfg := fun cfg => by simp [loads]
      have caused : RcptCause runes loader parseAddress session recipient addressExists file watched .unreadConfig :=
        .unread address domain parsed located missing broken
      have unserved : ¬ session.Serves runes loader domain file watched := by
        rintro (known | ⟨⟨cfg, loaded, -⟩, -⟩)
        · exact missing known
        · exact broken cfg loaded
      exact (rcpt_disturbed runes loader parseAddress session recipient addressExists file watched address domain parsed located
        _ rfl unserved (right _ caused)).elim
  | ok cfg =>
      refine ⟨cfg, rfl, fun inside => ?_⟩
      by_contra unseen
      have caused : RcptCause runes loader parseAddress session recipient addressExists file watched .staleSnapshot :=
        .stale address domain parsed located missing ⟨cfg, loads, inside⟩ unseen
      have unserved : ¬ session.Serves runes loader domain file watched := by
        rintro (known | ⟨-, seen⟩)
        · exact missing known
        · exact unseen seen
      exact rcpt_disturbed runes loader parseAddress session recipient addressExists file watched address domain parsed located
        _ rfl unserved (right _ caused)

theorem rcpt_explained (refusal : SmtpError)
    (refused : (session.rcpt runes loader parseAddress addressExists recipient file watched).1 = .error refusal) :
    ∃ cause, RcptCause runes loader parseAddress session recipient addressExists file watched cause := by
  cases parsed : parseAddress recipient with
  | none => exact ⟨_, .format parsed⟩
  | some address =>
      cases located : recipientDomain runes address with
      | none => exact ⟨_, .shape address parsed located⟩
      | some domain =>
          by_cases served : session.Serves runes loader domain file watched
          · have known := (serves_iff runes loader session file watched domain).mpr served
            cases found : addressExists (runes.lower address) with
            | none => exact ⟨_, .query address domain parsed located served found⟩
            | some there =>
                cases there with
                | false => exact ⟨_, .gone address domain parsed located served found⟩
                | true =>
                    simp only [Session.rcpt, parsed, located, known, found, not_true_eq_false, if_false] at refused
                    split at refused <;> cases refused
          · have missing : domain ∉ session.domains := fun known => served (Or.inl known)
            cases loads : loadConfig loader.unmarshal file with
            | error failure => exact ⟨_, .unread address domain parsed located missing (fun cfg => by simp [loads])⟩
            | ok cfg =>
                by_cases listed : domain ∈ cfg.getDomainMap runes
                · have unseen : ¬ Visible loader file watched := fun seen => served (Or.inr ⟨⟨cfg, loads, listed⟩, seen⟩)
                  exact ⟨_, .stale address domain parsed located missing ⟨cfg, loads, listed⟩ unseen⟩
                · exact ⟨_, .domain address domain parsed located missing cfg loads listed⟩

end Rcpt

theorem store_caused_iff (calls : StoreCalls Id) (vanished : Bool) (recipient : String) (attachments : Nat) :
    (∃ cause, StoreCause runes calls vanished recipient attachments cause) ↔ ¬ calls.Succeeds runes recipient attachments := by
  constructor
  · rintro ⟨cause, caused⟩ ⟨⟨began, inserted, ⟨addressID, found⟩, linked, whole⟩, committed⟩
    cases caused with
    | begins failed => exact absurd began (by simp [failed])
    | insert _ failed => exact absurd inserted (by simp [failed])
    | query _ failed => exact absurd found (by simp [failed])
    | gone _ absent => exact absurd found (by simp [absent])
    | link _ failed _ => exact absurd linked (by simp [failed])
    | deleted _ failed _ => exact absurd linked (by simp [failed])
    | attachment _ _ index inside failed => exact absurd (whole index inside) (by simp [failed])
    | commit _ failed => exact failed committed
  · intro fails
    cases began : calls.begins with
    | false => exact ⟨_, .begins began⟩
    | true =>
        cases inserted : calls.insertEmail with
        | false => exact ⟨_, .insert began inserted⟩
        | true =>
            cases selected : calls.selectAddress (runes.lower recipient) with
            | none => exact ⟨_, .query ⟨began, inserted⟩ selected⟩
            | some row =>
                cases row with
                | none => exact ⟨_, .gone ⟨began, inserted⟩ selected⟩
                | some addressID =>
                    have finds : calls.Finds runes recipient := ⟨began, inserted, addressID, selected⟩
                    cases linked : calls.insertRecipient with
                    | false =>
                        cases there : vanished with
                        | false => exact ⟨_, .link finds linked rfl⟩
                        | true => exact ⟨_, .deleted finds linked rfl⟩
                    | true =>
                        by_cases whole : ∀ index < attachments, calls.insertAttachment index = true
                        · have ready : calls.Ready runes recipient attachments :=
                            ⟨began, inserted, ⟨addressID, selected⟩, linked, whole⟩
                          exact ⟨_, .commit ready (fun committed => fails ⟨ready, committed⟩)⟩
                        · simp only [not_forall, Bool.not_eq_true] at whole
                          obtain ⟨index, inside, failed⟩ := whole
                          exact ⟨_, .attachment finds linked index inside failed⟩

theorem gone_in_store_iff (calls : StoreCalls Id) (vanished : Bool) (recipient : String) (attachments : Nat) :
    GoneInStore runes calls vanished recipient ↔
      ∃ cause, StoreCause runes calls vanished recipient attachments cause ∧ cause.permanent = true := by
  constructor
  · rintro (⟨began, inserted, absent⟩ | ⟨finds, failed, absent⟩)
    · exact ⟨_, .gone ⟨began, inserted⟩ absent, rfl⟩
    · exact ⟨_, .deleted finds failed absent, rfl⟩
  · rintro ⟨cause, caused, lasting⟩
    cases caused with
    | gone began absent => exact Or.inl ⟨began.1, began.2, absent⟩
    | deleted finds failed absent => exact Or.inr ⟨finds, failed, absent⟩
    | _ => cases lasting

section Data

variable (session : Session) (arrival : Arrival Id) (faults : Faults)

theorem read_breaks (breaks : session.Breaks arrival.incoming) :
    session.readMessage arrival.incoming = .error errorReadingMessage := by
  obtain ⟨short, broken⟩ := breaks
  rw [Session.readMessage]
  exact if_pos ⟨by omega, broken⟩

theorem read_large (large : session.cfg.getMaxMessageSize.toInt ≤ arrival.incoming.bytes.length) :
    session.readMessage arrival.incoming = .error (messageTooLarge session.cfg.server.maxMsgSizeMB) := by
  simp only [Session.readMessage]
  rw [if_neg (by omega), if_pos (by rw [List.length_take]; omega)]

theorem data_refused (refusal : SmtpError)
    (refused : (session.receive services arrival.windows arrival.now arrival.incoming).1 = .error refusal) :
    (session.data runes services arrival).answer = .error refusal := by
  unfold Session.data
  generalize session.receive services arrival.windows arrival.now arrival.incoming = reception at refused ⊢
  obtain ⟨outcome, windows⟩ := reception
  dsimp only at refused
  subst refused
  rfl

theorem receive_checked (fits : session.Fits arrival.incoming) :
    (session.receive services arrival.windows arrival.now arrival.incoming).1 =
      if (allowMessageFrom arrival.windows arrival.now
        (session.getClientIP services) session.cfg.getMaxMessagesPerHourIP).1 = false then
        .error tooManyMessages
      else if (countMIMEParts arrival.incoming.bytes : Int) > session.cfg.getMaxMIMEParts then .error tooManyMIMEParts
      else (services.readEnvelope arrival.incoming.bytes).elim (.error errorProcessingMessage)
        (fun envelope => .ok (arrival.incoming.bytes, envelope)) := by
  have read := (read_message_ok_iff session arrival.incoming arrival.incoming.bytes).mpr ⟨fits, rfl⟩
  simp only [Session.receive, read]
  split
  · rfl
  · split
    · rfl
    · cases services.readEnvelope arrival.incoming.bytes <;> rfl

theorem receive_read (refusal : SmtpError) (unread : session.readMessage arrival.incoming = .error refusal) :
    (session.receive services arrival.windows arrival.now arrival.incoming).1 = .error refusal := by
  rw [Session.receive, unread]

theorem store_refused (envelope : Envelope) (admitted : Admitted services session arrival envelope) (position : Nat)
    (recipient : String) (reached : Reached runes session arrival (extractAttachments envelope).length position recipient)
    (fails : ¬ (arrival.calls position).Succeeds runes recipient (extractAttachments envelope).length) :
    (session.data runes services arrival).answer = .error errorStoringMessage := by
  obtain ⟨emailData, answer, -⟩ := data_admitted runes services session arrival envelope admitted
  have stored := (store_loop_ok runes emailData (extractAttachments envelope) session.recipients arrival.calls).1
  rw [answer]
  cases loop : (storeLoop runes emailData (extractAttachments envelope) session.recipients arrival.calls).1 with
  | ok done => exact absurd (stored.mp loop position recipient reached.1) fails
  | error refusal => rw [store_loop_refusal runes emailData _ _ _ refusal loop]

theorem data_classed (settled : Undisturbed runes services session arrival faults) (cause : Cause)
    (caused : DataCause runes services session arrival faults cause) :
    ∃ refusal, (session.data runes services arrival).answer = .error refusal ∧ cause.Class refusal.code := by
  cases caused with
  | read breaks honest =>
      exact ⟨_, data_refused runes services session arrival _
        (receive_read services session arrival _ (read_breaks session arrival breaks)),
        by decide⟩
  | cut breaks limited =>
      rw [settled.unlimited breaks] at limited
      cases limited
  | size large =>
      exact ⟨_, data_refused runes services session arrival _
        (receive_read services session arrival _ (read_large session arrival large)),
        by simp [Cause.Class, Cause.permanent, messageTooLarge, smtpError]⟩
  | rate fits refused =>
      refine ⟨tooManyMessages, data_refused runes services session arrival _ ?_, by decide⟩
      rw [receive_checked services session arrival fits, if_pos refused]
  | parts fits allowed many =>
      refine ⟨tooManyMIMEParts, data_refused runes services session arrival _ ?_, by decide⟩
      rw [receive_checked services session arrival fits, allowed, if_neg (by decide), if_pos many]
  | parse fits allowed few unread =>
      refine ⟨errorProcessingMessage, data_refused runes services session arrival _ ?_, by decide⟩
      rw [receive_checked services session arrival fits, allowed, if_neg (by decide), if_neg (by omega), unread]
      rfl
  | store envelope admitted position recipient reached cause failing =>
      have fails := (store_caused_iff runes _ _ _ _).mp ⟨_, failing⟩
      refine ⟨errorStoringMessage,
        store_refused runes services session arrival envelope admitted position recipient reached fails, ?_⟩
      have passing : cause.permanent = false := by
        rw [← Bool.not_eq_true]
        intro lasting
        exact settled.kept envelope admitted position recipient reached
          ((gone_in_store_iff runes _ _ _ (extractAttachments envelope).length).mpr ⟨cause, failing, lasting⟩)
      rw [Cause.Class, passing]
      decide

theorem first_failure (recipients : List String) (calls : Nat → StoreCalls Id) (attachments : Nat)
    (fails : ¬ AllStored runes attachments recipients calls) :
    ∃ position recipient, recipients[position]? = some recipient ∧ ¬ (calls position).Succeeds runes recipient attachments ∧
      ∀ earlier other, earlier < position → recipients[earlier]? = some other →
        (calls earlier).Succeeds runes other attachments := by
  induction recipients generalizing calls with
  | nil => exact absurd (fun position other found => by cases found) fails
  | cons recipient rest ih =>
      rw [all_stored_cons] at fails
      by_cases here : (calls 0).Succeeds runes recipient attachments
      · obtain ⟨position, other, found, failing, before⟩ := ih _ (fun stored => fails ⟨here, stored⟩)
        refine ⟨position + 1, other, found, failing, ?_⟩
        intro earlier another less there
        cases earlier with
        | zero =>
            cases there
            exact here
        | succ earlier => exact before earlier another (by omega) there
      · exact ⟨0, recipient, rfl, here, fun earlier _ less => absurd less (by omega)⟩

theorem data_explained (refusal : SmtpError) (refused : (session.data runes services arrival).answer = .error refusal) :
    ∃ cause, DataCause runes services session arrival faults cause := by
  by_cases fits : session.Fits arrival.incoming
  · cases allowed : (allowMessageFrom arrival.windows arrival.now (session.getClientIP services)
        session.cfg.getMaxMessagesPerHourIP).1 with
    | false => exact ⟨_, .rate fits allowed⟩
    | true =>
        by_cases many : session.cfg.getMaxMIMEParts < (countMIMEParts arrival.incoming.bytes : Int)
        · exact ⟨_, .parts fits allowed many⟩
        · cases parsed : services.readEnvelope arrival.incoming.bytes with
          | none => exact ⟨_, .parse fits allowed (by omega) parsed⟩
          | some envelope =>
              have admitted : Admitted services session arrival envelope := ⟨fits, allowed, by omega, parsed⟩
              obtain ⟨emailData, answer, -⟩ := data_admitted runes services session arrival envelope admitted
              have stored := (store_loop_ok runes emailData (extractAttachments envelope) session.recipients arrival.calls).1
              rw [answer] at refused
              obtain ⟨position, recipient, found, failing, before⟩ := first_failure runes session.recipients arrival.calls
                (extractAttachments envelope).length (fun all => by rw [stored.mpr all] at refused; cases refused)
              obtain ⟨cause, caused⟩ :=
                (store_caused_iff runes (arrival.calls position) (faults.vanished position) recipient _).mpr failing
              exact ⟨cause, .store envelope admitted position recipient ⟨found, before⟩ cause caused⟩
  · by_cases large : session.cfg.getMaxMessageSize.toInt ≤ arrival.incoming.bytes.length
    · exact ⟨_, .size large⟩
    · have breaks : session.Breaks arrival.incoming := by
        refine ⟨by omega, ?_⟩
        by_contra whole
        exact fits ⟨by simpa using whole, by omega⟩
      cases limited : faults.oversize with
      | false => exact ⟨_, .read breaks limited⟩
      | true => exact ⟨_, .cut breaks limited⟩

end Data

theorem call_class_iff (session : Session) (call : Explained Content Hash Id) :
    RightClass runes loader parseAddress services
        ⟨session, call, ((replying runes loader parseAddress services).step session call).2⟩ ↔
      UndisturbedCall runes loader parseAddress services session call := by
  obtain ⟨event, faults⟩ := call
  cases event with
  | command command =>
      cases command with
      | mail sender => exact iff_of_true ⟨nofun, nofun⟩ trivial
      | reset => exact iff_of_true ⟨nofun, nofun⟩ trivial
      | rcpt recipient addressExists file watched =>
          constructor
          · exact fun right =>
              rcpt_undisturbed runes loader parseAddress session recipient addressExists file watched right.classed
          · exact fun undisturbed => ⟨rcpt_explained runes loader parseAddress session recipient addressExists file watched,
              rcpt_classed runes loader parseAddress session recipient addressExists file watched undisturbed⟩
  | data arrival =>
      constructor
      · intro right
        constructor
        · intro breaks
          by_contra limited
          obtain ⟨refusal, answered, lasting⟩ := right.classed .overSize (.cut breaks (by simpa using limited))
          have read := data_refused runes services session arrival _
            (receive_read services session arrival _ (read_breaks session arrival breaks))
          cases answered.symm.trans read
          exact absurd lasting (by decide)
        · intro envelope admitted position recipient reached gone
          obtain ⟨cause, caused, lasting⟩ := (gone_in_store_iff runes _ _ _ (extractAttachments envelope).length).mp gone
          obtain ⟨refusal, answered, ranged⟩ :=
            right.classed cause (.store envelope admitted position recipient reached cause caused)
          have stored := store_refused runes services session arrival envelope admitted position recipient reached
            ((store_caused_iff runes _ _ _ _).mp ⟨_, caused⟩)
          cases answered.symm.trans stored
          rw [Cause.Class, lasting] at ranged
          exact absurd ranged (by decide)
      · intro settled
        exact ⟨data_explained runes services session arrival faults, data_classed runes services session arrival faults settled⟩

-- Over every run of a new session.
theorem reply_classes_iff (remoteAddr hostname : String) (backend : Config) (current : Option Config)
    (validator : Option Validator) (calls : List (Explained Content Hash Id)) :
    (∀ turn ∈ (replying runes loader parseAddress services).trace
        (newSession runes remoteAddr hostname backend current validator) calls,
          RightClass runes loader parseAddress services turn) ↔
      ∀ turn ∈ (replying runes loader parseAddress services).trace
        (newSession runes remoteAddr hostname backend current validator) calls,
          UndisturbedCall runes loader parseAddress services turn.before turn.event :=
  Machine.trace_forall_iff (replying runes loader parseAddress services) (fun _ => True) (fun _ => True)
    (RightClass runes loader parseAddress services)
    (fun turn => UndisturbedCall runes loader parseAddress services turn.before turn.event)
    (fun _ _ _ _ => trivial) (fun session call _ _ => call_class_iff runes loader parseAddress services session call) _ calls
    (fun _ _ => trivial) trivial

end Causes

def expiredCalls : StoreCalls Nat := { readyCalls with selectAddress := fun _ => some none }

def newsletterRun (calls : Nat → StoreCalls Nat) : List (Explained String String Nat) :=
  ((newsletter calls).commands.map Call.command ++ [Call.data (newsletter calls).arrival]).map
    (fun call => (call, ⟨false, fun _ => false⟩))

def replyCode : Except SmtpError Unit → Nat
  | .ok () => 250
  | .error refusal => refusal.code

theorem expired_mailbox_retried :
    ((replying asciiRunes silentLoader some quietServices).trace newsletterSession (newsletterRun (fun _ => expiredCalls))).map
        (fun turn => replyCode turn.answer) = [250, 250, 250, 451] ∧
      ¬ ∀ turn ∈ (replying asciiRunes silentLoader some quietServices).trace newsletterSession
        (newsletterRun (fun _ => expiredCalls)),
        RightClass asciiRunes silentLoader some quietServices turn := by
  refine ⟨by rfl, fun right => ?_⟩
  have settled := (call_class_iff asciiRunes silentLoader some quietServices _ _).mp
    (right _ (List.mem_of_getElem? (i := 3) rfl))
  have admitted : Admitted quietServices
      (converse asciiRunes silentLoader some newsletterSession (newsletter (fun _ => expiredCalls)).commands)
      (newsletter (fun _ => expiredCalls)).arrival ⟨fun _ => "", [], "hello", "", [], []⟩ :=
    ⟨⟨rfl, by decide +kernel⟩, by decide +kernel, by decide +kernel, rfl⟩
  exact settled.kept _ admitted 0 "alice@first.test" ⟨by decide +kernel, fun earlier _ less => absurd less (by omega)⟩
    (Or.inl ⟨rfl, rfl, rfl⟩)

end Tempmail.Mx
