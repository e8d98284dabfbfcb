import Tempmail.Mx.Database

set_option autoImplicit false

namespace Tempmail.Mx

-- What one DATA command meets outside the session: the limiter's table, the
-- message, the clock, and the database, asked once per recipient in order.
structure Arrival (Id : Type) where
  windows : IpWindows
  now : Time
  incoming : Incoming
  receivedAt : Time
  calls : Nat → StoreCalls Id

structure DataResult (Id : Type) where
  answer : Except SmtpError Unit
  windows : IpWindows
  committed : List (Committed Id)

section Data

variable {IP Id : Type} (runes : Runes) (services : Services IP)

def storeLoop (emailData : EmailData) (attachments : List AttachmentData) :
    List String → (Nat → StoreCalls Id) → Except SmtpError Unit × List (Committed Id)
  | [], _ => (.ok (), [])
  | recipient :: rest, calls =>
      match storeEmail runes (calls 0) { emailData with toAddr := recipient } attachments with
      | (.error _, committed) => (.error errorStoringMessage, committed.toList)
      | (.ok (), committed) =>
          let result := storeLoop emailData attachments rest (fun position => calls (position + 1))
          (result.1, committed.toList ++ result.2)

def Session.data (session : Session) (arrival : Arrival Id) : DataResult Id :=
  match session.receive services arrival.windows arrival.now arrival.incoming with
  | (.error refusal, windows) => ⟨.error refusal, windows, []⟩
  | (.ok (rawMessage, envelope), windows) =>
      let emailData := session.composeEmail runes services envelope rawMessage arrival.receivedAt
      let result := storeLoop runes emailData (extractAttachments envelope) session.recipients arrival.calls
      ⟨result.1, windows, result.2⟩

def AllStored (attachments : Nat) (recipients : List String) (calls : Nat → StoreCalls Id) : Prop :=
  ∀ position recipient, recipients[position]? = some recipient → (calls position).Succeeds runes recipient attachments

def FirstFailsCleanly (attachments : Nat) (recipients : List String) (calls : Nat → StoreCalls Id) : Prop :=
  ∃ recipient, recipients[0]? = some recipient ∧ ¬ (calls 0).Succeeds runes recipient attachments ∧
    (calls 0).LeavesNothing runes recipient attachments

theorem all_stored_cons (attachments : Nat) (recipient : String) (rest : List String) (calls : Nat → StoreCalls Id) :
    AllStored runes attachments (recipient :: rest) calls ↔
      (calls 0).Succeeds runes recipient attachments ∧
        AllStored runes attachments rest (fun position => calls (position + 1)) := by
  constructor
  · intro stored
    exact ⟨stored 0 recipient rfl, fun position other found => stored (position + 1) other found⟩
  · rintro ⟨head, tail⟩ position other found
    cases position with
    | zero =>
        cases found
        exact head
    | succ position => exact tail position other found

theorem store_loop_ok (emailData : EmailData) (attachments : List AttachmentData) (recipients : List String)
    (calls : Nat → StoreCalls Id) :
    ((storeLoop runes emailData attachments recipients calls).1 = .ok () ↔
        AllStored runes attachments.length recipients calls) ∧
      ((storeLoop runes emailData attachments recipients calls).1 = .ok () →
        (storeLoop runes emailData attachments recipients calls).2.map Committed.mailbox = recipients.map runes.lower) := by
  induction recipients generalizing calls with
  | nil => simp [storeLoop, AllStored]
  | cons recipient rest ih =>
      obtain ⟨answered, copied⟩ := ih (fun position => calls (position + 1))
      rw [all_stored_cons]
      rcases store_email_cases runes (calls 0) { emailData with toAddr := recipient } attachments with
        ⟨succeeds, committed, stored, mailbox⟩ | ⟨-, fails, reason, stored⟩ | ⟨-, fails, committed, stored⟩
      · simp only [storeLoop, stored]
        refine ⟨?_, ?_⟩
        · rw [answered]
          exact ⟨fun tail => ⟨succeeds, tail⟩, fun both => both.2⟩
        · intro accepted
          simp only [Option.toList_some, List.singleton_append, List.map_cons, mailbox, copied accepted]
      · simp only [storeLoop, stored]
        simp [fails]
      · simp only [storeLoop, stored]
        simp [fails]

theorem store_loop_clean_error_iff (emailData : EmailData) (attachments : List AttachmentData) (recipients : List String)
    (calls : Nat → StoreCalls Id) :
    ((storeLoop runes emailData attachments recipients calls).1 ≠ .ok () ∧
        (storeLoop runes emailData attachments recipients calls).2 = []) ↔
      FirstFailsCleanly runes attachments.length recipients calls := by
  cases recipients with
  | nil => simp [storeLoop, FirstFailsCleanly]
  | cons recipient rest =>
      simp only [FirstFailsCleanly, List.getElem?_cons_zero, Option.some.injEq, exists_eq_left']
      rcases store_email_cases runes (calls 0) { emailData with toAddr := recipient } attachments with
        ⟨succeeds, committed, stored, mailbox⟩ | ⟨clean, fails, reason, stored⟩ | ⟨dirty, fails, committed, stored⟩
      · simp only [storeLoop, stored]
        simp only [Option.toList_some, List.singleton_append, reduceCtorEq, and_false, false_iff, not_and]
        exact fun fails => absurd succeeds fails
      · simp only [storeLoop, stored]
        simp only [Option.toList_none, and_true, ne_eq, reduceCtorEq, not_false_eq_true, true_iff]
        exact ⟨fails, clean⟩
      · simp only [storeLoop, stored]
        simp only [Option.toList_some, reduceCtorEq, and_false, false_iff, not_and]
        exact fun _ clean => dirty clean

end Data

-- The commands a client sends before DATA; other sessions and the watcher may
-- have changed the file and the loaded configuration before each RCPT.
inductive Command (Content Hash : Type) where
  | mail (sender : String)
  | rcpt (recipient : String) (addressExists : String → Option Bool) (file : Option Content) (watched : Watched Hash)
  | reset

section Conversation

variable {Content Hash : Type} [DecidableEq Hash] (runes : Runes) (loader : Loader Content Hash)
variable (parseAddress : String → Option String)

def Session.command (session : Session) : Command Content Hash → Session
  | .mail sender => session.mail sender
  | .rcpt recipient addressExists file watched =>
      (session.rcpt runes loader parseAddress addressExists recipient file watched).2.1
  | .reset => session.reset

def converse (session : Session) (commands : List (Command Content Hash)) : Session :=
  commands.foldl (fun current command => current.command runes loader parseAddress command) session

structure Queued (recipients : List String) : Prop where
  distinct : recipients.Nodup
  normalized : ∀ recipient ∈ recipients, runes.lower recipient = recipient

theorem queued_nil : Queued runes [] := ⟨List.nodup_nil, by simp⟩

theorem queued_push (recipients : List String) (address : String) (queued : Queued runes recipients)
    (fresh : runes.lower address ∉ recipients) : Queued runes (recipients ++ [runes.lower address]) := by
  constructor
  · refine List.nodup_append.mpr ⟨queued.distinct, List.nodup_singleton _, ?_⟩
    intro other known found present same
    rw [List.mem_singleton.mp present] at same
    exact fresh (same ▸ known)
  · intro recipient member
    rcases List.mem_append.mp member with known | added
    · exact queued.normalized recipient known
    · rw [List.mem_singleton.mp added, lower_settled]

theorem rcpt_queued (session : Session) (addressExists : String → Option Bool) (recipient : String)
    (file : Option Content) (watched : Watched Hash) (queued : Queued runes session.recipients) :
    Queued runes (session.rcpt runes loader parseAddress addressExists recipient file watched).2.1.recipients := by
  cases parsed : parseAddress recipient with
  | none => simpa only [Session.rcpt, parsed] using queued
  | some address =>
      cases located : recipientDomain runes address with
      | none => simpa only [Session.rcpt, parsed, located] using queued
      | some domain =>
          rw [← refresh_keeps_recipients runes loader session domain file watched] at queued
          simp only [Session.rcpt, parsed, located]
          split
          · exact queued
          · split
            · exact queued
            · exact queued
            · split
              · exact queued
              · rename_i fresh
                exact queued_push runes _ address queued fresh

theorem command_queued (session : Session) (command : Command Content Hash) (queued : Queued runes session.recipients) :
    Queued runes (session.command runes loader parseAddress command).recipients := by
  cases command with
  | mail sender => exact queued_nil runes
  | rcpt recipient addressExists file watched =>
      exact rcpt_queued runes loader parseAddress session addressExists recipient file watched queued
  | reset => exact queued_nil runes

theorem converse_queued (session : Session) (commands : List (Command Content Hash))
    (queued : Queued runes session.recipients) :
    Queued runes (converse runes loader parseAddress session commands).recipients := by
  induction commands generalizing session with
  | nil => exact queued
  | cons command rest ih =>
      exact ih (session.command runes loader parseAddress command)
        (command_queued runes loader parseAddress session command queued)

end Conversation

structure Attempt (Content Hash Id : Type) where
  remoteAddr : String
  hostname : String
  backend : Config
  current : Option Config
  validator : Option Validator
  commands : List (Command Content Hash)
  arrival : Arrival Id

section Attempts

variable {Content Hash IP Id : Type} [DecidableEq Hash] (runes : Runes) (loader : Loader Content Hash)
variable (parseAddress : String → Option String) (services : Services IP)

def Attempt.session (attempt : Attempt Content Hash Id) : Session :=
  converse runes loader parseAddress
    (newSession runes attempt.remoteAddr attempt.hostname attempt.backend attempt.current attempt.validator) attempt.commands

def Attempt.result (attempt : Attempt Content Hash Id) : DataResult Id :=
  (attempt.session runes loader parseAddress).data runes services attempt.arrival

def copies (mailbox : String) (committed : List (Committed Id)) : Nat :=
  (committed.map Committed.mailbox).count mailbox

def AllOrNothing (recipients : List String) (result : DataResult Id) : Prop :=
  (result.answer = .ok () → ∀ recipient ∈ recipients, copies recipient result.committed = 1) ∧
    (result.answer ≠ .ok () → result.committed = [])

-- The checks before the store loop let the message through.
def Admitted (session : Session) (arrival : Arrival Id) (envelope : Envelope) : Prop :=
  session.Fits arrival.incoming ∧
    (allowMessageFrom arrival.windows arrival.now (session.getClientIP services) session.cfg.getMaxMessagesPerHourIP).1 = true ∧
    (countMIMEParts arrival.incoming.bytes : Int) ≤ session.cfg.getMaxMIMEParts ∧
    services.readEnvelope arrival.incoming.bytes = some envelope

-- Every store of an admitted message succeeds, or already the first one fails
-- without leaving a copy.
def StoresTogether (session : Session) (arrival : Arrival Id) : Prop :=
  ∀ envelope, Admitted services session arrival envelope →
    AllStored runes (extractAttachments envelope).length session.recipients arrival.calls ∨
      FirstFailsCleanly runes (extractAttachments envelope).length session.recipients arrival.calls

-- The sender repeats the whole message until an attempt is answered nil.
def retries : List (Attempt Content Hash Id) → List (Committed Id)
  | [] => []
  | attempt :: rest =>
      let result := attempt.result runes loader parseAddress services
      match result.answer with
      | .ok () => result.committed
      | .error _ => result.committed ++ retries rest

theorem data_admitted (session : Session) (arrival : Arrival Id) (envelope : Envelope)
    (admitted : Admitted services session arrival envelope) :
    ∃ emailData,
      (session.data runes services arrival).answer =
          (storeLoop runes emailData (extractAttachments envelope) session.recipients arrival.calls).1 ∧
        (session.data runes services arrival).committed =
          (storeLoop runes emailData (extractAttachments envelope) session.recipients arrival.calls).2 := by
  obtain ⟨fits, allowed, few, parsed⟩ := admitted
  have received := (receive_ok_iff services session arrival.windows arrival.now arrival.incoming arrival.incoming.bytes
    envelope).mpr ⟨⟨fits, rfl⟩, allowed, few, parsed⟩
  refine ⟨session.composeEmail runes services envelope arrival.incoming.bytes arrival.receivedAt, ?_⟩
  unfold Session.data
  generalize session.receive services arrival.windows arrival.now arrival.incoming = reception at received ⊢
  obtain ⟨outcome, windows⟩ := reception
  dsimp only at received
  subst received
  exact ⟨rfl, rfl⟩

theorem data_turned_away (session : Session) (arrival : Arrival Id)
    (refused : ¬ ∃ envelope, Admitted services session arrival envelope) :
    (session.data runes services arrival).answer ≠ .ok () ∧ (session.data runes services arrival).committed = [] := by
  have never : ∀ rawMessage envelope,
      (session.receive services arrival.windows arrival.now arrival.incoming).1 ≠ .ok (rawMessage, envelope) := by
    intro rawMessage envelope received
    obtain ⟨⟨fits, whole⟩, allowed, few, parsed⟩ := (receive_ok_iff services session arrival.windows arrival.now
      arrival.incoming rawMessage envelope).mp received
    subst whole
    exact refused ⟨envelope, fits, allowed, few, parsed⟩
  unfold Session.data
  generalize session.receive services arrival.windows arrival.now arrival.incoming = reception at never ⊢
  obtain ⟨outcome, windows⟩ := reception
  cases outcome with
  | error refusal => simp
  | ok received => exact absurd rfl (never received.1 received.2)

theorem admitted_unique (session : Session) (arrival : Arrival Id) (a b : Envelope)
    (first : Admitted services session arrival a) (second : Admitted services session arrival b) : a = b :=
  Option.some.inj (first.2.2.2.symm.trans second.2.2.2)

theorem queued_copies (recipients : List String) (committed : List (Committed Id)) (queued : Queued runes recipients)
    (delivered : committed.map Committed.mailbox = recipients.map runes.lower) (mailbox : String) :
    copies mailbox committed = if mailbox ∈ recipients then 1 else 0 := by
  have lowered : recipients.map runes.lower = recipients := by
    rw [List.map_congr_left queued.normalized, List.map_id']
  rw [copies, delivered, lowered]
  split
  · exact List.count_eq_one_of_mem queued.distinct ‹_›
  · exact List.count_eq_zero_of_not_mem ‹_›

theorem data_all_or_nothing_iff (session : Session) (arrival : Arrival Id) (queued : Queued runes session.recipients) :
    AllOrNothing session.recipients (session.data runes services arrival) ↔
      StoresTogether runes services session arrival := by
  by_cases admission : ∃ envelope, Admitted services session arrival envelope
  · obtain ⟨envelope, admitted⟩ := admission
    obtain ⟨emailData, answer, committed⟩ := data_admitted runes services session arrival envelope admitted
    have together : StoresTogether runes services session arrival ↔
        AllStored runes (extractAttachments envelope).length session.recipients arrival.calls ∨
          FirstFailsCleanly runes (extractAttachments envelope).length session.recipients arrival.calls := by
      constructor
      · exact fun every => every envelope admitted
      · intro either other same
        rw [← admitted_unique services session arrival envelope other admitted same]
        exact either
    obtain ⟨accepted, copied⟩ :=
      store_loop_ok runes emailData (extractAttachments envelope) session.recipients arrival.calls
    have clean := store_loop_clean_error_iff runes emailData (extractAttachments envelope) session.recipients arrival.calls
    rw [together, ← accepted, ← clean]
    simp only [AllOrNothing, answer, committed]
    by_cases ok : (storeLoop runes emailData (extractAttachments envelope) session.recipients arrival.calls).1 = .ok ()
    · have exact : ∀ recipient ∈ session.recipients,
          copies recipient (storeLoop runes emailData (extractAttachments envelope) session.recipients arrival.calls).2 = 1 := by
        intro recipient member
        rw [queued_copies runes session.recipients _ queued (copied ok), if_pos member]
      simp only [ok, ne_eq, not_true_eq_false, forall_true_left, IsEmpty.forall_iff, and_true, true_or, iff_true]
      exact exact
    · simp [ok]
  · have refused := data_turned_away runes services session arrival admission
    have vacuous : StoresTogether runes services session arrival :=
      fun envelope admitted => absurd ⟨envelope, admitted⟩ admission
    exact iff_of_true ⟨fun accepted => absurd accepted refused.1, fun _ => refused.2⟩ vacuous

theorem attempt_queued (attempt : Attempt Content Hash Id) :
    Queued runes (attempt.session runes loader parseAddress).recipients :=
  converse_queued runes loader parseAddress _ attempt.commands (queued_nil runes)

theorem data_copies_bounded (session : Session) (arrival : Arrival Id) (queued : Queued runes session.recipients)
    (accepted : (session.data runes services arrival).answer = .ok ()) (mailbox : String) :
    copies mailbox (session.data runes services arrival).committed ≤ 1 := by
  by_cases admission : ∃ envelope, Admitted services session arrival envelope
  · obtain ⟨envelope, admitted⟩ := admission
    obtain ⟨emailData, answer, committed⟩ := data_admitted runes services session arrival envelope admitted
    rw [answer] at accepted
    have copied := (store_loop_ok runes emailData (extractAttachments envelope) session.recipients arrival.calls).2 accepted
    rw [committed, queued_copies runes session.recipients _ queued copied]
    split <;> omega
  · exact absurd accepted (data_turned_away runes services session arrival admission).1

theorem retries_copies_bounded (attempts : List (Attempt Content Hash Id))
    (sound : ∀ attempt ∈ attempts,
      AllOrNothing (attempt.session runes loader parseAddress).recipients (attempt.result runes loader parseAddress services))
    (mailbox : String) : copies mailbox (retries runes loader parseAddress services attempts) ≤ 1 := by
  induction attempts with
  | nil => simp [retries, copies]
  | cons attempt rest ih =>
      have here := sound attempt (by simp)
      have later := ih (fun other member => sound other (by simp [member]))
      cases answer : (attempt.result runes loader parseAddress services).answer with
      | ok =>
          simp only [retries, answer]
          exact data_copies_bounded runes services _ attempt.arrival
            (attempt_queued runes loader parseAddress attempt) answer mailbox
      | error refusal =>
          have nothing := here.2 (by simp [answer])
          simpa only [retries, answer, nothing, List.nil_append] using later

-- One DATA command is all or nothing exactly when its stores go together, and
-- a sender whose attempts all do never leaves two copies in one mailbox.
theorem delivery_all_or_nothing_iff :
    (∀ attempt : Attempt Content Hash Id,
      AllOrNothing (attempt.session runes loader parseAddress).recipients (attempt.result runes loader parseAddress services) ↔
        StoresTogether runes services (attempt.session runes loader parseAddress) attempt.arrival) ∧
    ∀ attempts : List (Attempt Content Hash Id),
      (∀ attempt ∈ attempts, StoresTogether runes services (attempt.session runes loader parseAddress) attempt.arrival) →
        ∀ mailbox, copies mailbox (retries runes loader parseAddress services attempts) ≤ 1 := by
  have single : ∀ attempt : Attempt Content Hash Id,
      AllOrNothing (attempt.session runes loader parseAddress).recipients (attempt.result runes loader parseAddress services) ↔
        StoresTogether runes services (attempt.session runes loader parseAddress) attempt.arrival :=
    fun attempt => data_all_or_nothing_iff runes services _ attempt.arrival (attempt_queued runes loader parseAddress attempt)
  refine ⟨single, ?_⟩
  intro attempts together mailbox
  exact retries_copies_bounded runes loader parseAddress services attempts
    (fun attempt member => (single attempt).mpr (together attempt member)) mailbox

end Attempts

section Duplicate

def quietServices : Services String where
  network := ⟨fun _ => none, some, fun a b => a == b, fun _ _ => false, some, fun _ _ => .error .noSignatures⟩
  splitHostPort _ := some "203.0.113.5"
  readEnvelope _ := some ⟨fun _ => "", [], "hello", "", [], []⟩

def silentLoader : Loader String String := ⟨fun _ => none, id⟩

def readyCalls : StoreCalls Nat :=
  { begins := true, insertEmail := true, selectAddress := fun _ => some (some 1), insertRecipient := true,
    insertAttachment := fun _ => true, commit := .done }

def newsletter (calls : Nat → StoreCalls Nat) : Attempt String String Nat where
  remoteAddr := "203.0.113.5:4000"
  hostname := "mx.sender.test"
  backend := withDefaults { domains := ["first.test"] }
  current := none
  validator := none
  commands :=
    [.mail "news@sender.test", .rcpt "alice@first.test" (fun _ => some true) none ⟨true, none, none⟩,
      .rcpt "bob@first.test" (fun _ => some true) none ⟨true, none, none⟩]
  arrival := { windows := ∅, now := 0, incoming := ⟨[0x68, 0x69], false⟩, receivedAt := 0, calls }

def droppedSecond : Nat → StoreCalls Nat
  | 1 => { readyCalls with begins := false }
  | _ => readyCalls

theorem newsletter_delivered_twice :
    ¬ AllOrNothing ((newsletter droppedSecond).session asciiRunes silentLoader some).recipients
        ((newsletter droppedSecond).result asciiRunes silentLoader some quietServices) ∧
      1 < copies "alice@first.test" (retries asciiRunes silentLoader some quietServices
        [newsletter droppedSecond, newsletter (fun _ => readyCalls)]) := by
  have twice : copies "alice@first.test" (retries asciiRunes silentLoader some quietServices
      [newsletter droppedSecond, newsletter (fun _ => readyCalls)]) = 2 := by rfl
  have refused : ((newsletter droppedSecond).result asciiRunes silentLoader some quietServices).answer =
      .error errorStoringMessage := by rfl
  have left : ((newsletter droppedSecond).result asciiRunes silentLoader some quietServices).committed.length = 1 := by rfl
  constructor
  · intro sound
    rw [sound.2 (by simp [refused])] at left
    cases left
  · omega

end Duplicate

end Tempmail.Mx
