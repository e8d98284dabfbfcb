import Mathlib.Data.List.Induction
import Tempmail.Lib.Machine
import Tempmail.Mx.Delivery

set_option autoImplicit false

namespace Tempmail.Mx

inductive Call (Content Hash Id : Type) where
  | command (command : Command Content Hash)
  | data (arrival : Arrival Id)

structure Reply where
  answer : Except SmtpError Unit
  stored : List EmailData

section Session

variable {Content Hash IP Id : Type} [DecidableEq Hash] (runes : Runes) (loader : Loader Content Hash)
variable (parseAddress : String → Option String) (services : Services IP)

def Session.answer (session : Session) : Command Content Hash → Except SmtpError Unit
  | .mail _ => .ok ()
  | .rcpt recipient addressExists file watched => (session.rcpt runes loader parseAddress addressExists recipient file watched).1
  | .reset => .ok ()

def storeCalls (emailData : EmailData) (attachments : List AttachmentData) :
    List String → (Nat → StoreCalls Id) → List EmailData
  | [], _ => []
  | recipient :: rest, calls =>
      { emailData with toAddr := recipient } ::
        match (storeEmail runes (calls 0) { emailData with toAddr := recipient } attachments).1 with
        | .error _ => []
        | .ok () => storeCalls emailData attachments rest (fun position => calls (position + 1))

def Session.stores (session : Session) (arrival : Arrival Id) : List EmailData :=
  match (session.receive services arrival.windows arrival.now arrival.incoming).1 with
  | .error _ => []
  | .ok (rawMessage, envelope) =>
      storeCalls runes (session.composeEmail runes services envelope rawMessage arrival.receivedAt) (extractAttachments envelope)
        session.recipients arrival.calls

def conversation : Machine Session (Call Content Hash Id) Reply where
  step session call := match call with
    | .command command =>
        (session.command runes loader parseAddress command, ⟨session.answer runes loader parseAddress command, []⟩)
    | .data arrival => (session, ⟨(session.data runes services arrival).answer, session.stores runes services arrival⟩)

theorem store_calls_lead (emailData : EmailData) (attachments : List AttachmentData) (recipients : List String)
    (calls : Nat → StoreCalls Id) :
    (storeCalls runes emailData attachments recipients calls).map EmailData.toAddr <+: recipients := by
  induction recipients generalizing calls with
  | nil => exact List.prefix_rfl
  | cons recipient rest ih =>
      rw [storeCalls, List.map_cons]
      refine (List.prefix_cons_inj recipient).mpr ?_
      cases (storeEmail runes (calls 0) { emailData with toAddr := recipient } attachments).1 with
      | error reason => exact List.nil_prefix
      | ok stored => exact ih (fun position => calls (position + 1))

section Rcpt

variable (session : Session) (addressExists : String → Option Bool) (recipient : String) (file : Option Content)
variable (watched : Watched Hash)

theorem rcpt_accepted (accepted : (session.rcpt runes loader parseAddress addressExists recipient file watched).1 = .ok ()) :
    ∃ address domain, parseAddress recipient = some address ∧ recipientDomain runes address = some domain ∧
      domain ∈ (session.refreshDomains runes loader domain file watched).1.domains ∧
      addressExists (runes.lower address) = some true ∧
      (session.rcpt runes loader parseAddress addressExists recipient file watched).2.1.recipients =
        if runes.lower address ∈ session.recipients then session.recipients else session.recipients ++ [runes.lower address] := by
  have kept := refresh_keeps_recipients runes loader session
  cases parsed : parseAddress recipient with
  | none => simp [Session.rcpt, parsed] at accepted
  | some address =>
      cases located : recipientDomain runes address with
      | none => simp [Session.rcpt, parsed, located] at accepted
      | some domain =>
          refine ⟨address, domain, rfl, located, ?_⟩
          simp only [Session.rcpt, parsed, located] at accepted ⊢
          by_cases known : domain ∈ (session.refreshDomains runes loader domain file watched).1.domains
          · rw [if_neg (not_not.mpr known)] at accepted ⊢
            cases found : addressExists (runes.lower address) with
            | none => simp [found] at accepted
            | some answer =>
                cases answer with
                | false => simp [found] at accepted
                | true =>
                    refine ⟨known, rfl, ?_⟩
                    dsimp only
                    rw [kept]
                    split <;> simp [kept]
          · rw [if_pos known] at accepted
            cases accepted

theorem rcpt_refused (refusal : SmtpError)
    (refused : (session.rcpt runes loader parseAddress addressExists recipient file watched).1 = .error refusal) :
    (session.rcpt runes loader parseAddress addressExists recipient file watched).2.1.recipients = session.recipients := by
  have kept := refresh_keeps_recipients runes loader session
  cases parsed : parseAddress recipient with
  | none => simp [Session.rcpt, parsed]
  | some address =>
      cases located : recipientDomain runes address with
      | none => simp [Session.rcpt, parsed, located]
      | some domain =>
          simp only [Session.rcpt, parsed, located] at refused ⊢
          split
          · exact kept domain file watched
          · split
            · exact kept domain file watched
            · exact kept domain file watched
            · split
              · exact kept domain file watched
              · rename_i known _ found fresh
                simp [known, found, fresh] at refused

end Rcpt

abbrev Turn (Content Hash Id : Type) := Machine.Moment Session (Call Content Hash Id) Reply

def Turn.restarts (turn : Turn Content Hash Id) : Bool :=
  match turn.event with
  | .command (.mail _) => true
  | .command .reset => true
  | _ => false

-- The recipients accepted so far, read off the answers alone.
def accept (recipients : List String) (turn : Turn Content Hash Id) : List String :=
  match turn.event with
  | .command (.mail _) => []
  | .command .reset => []
  | .command (.rcpt recipient _ _ _) =>
      match turn.answer.answer, parseAddress recipient with
      | .ok (), some address =>
          if runes.lower address ∈ recipients then recipients else recipients ++ [runes.lower address]
      | _, _ => recipients
  | .data _ => recipients

def accepted (turns : List (Turn Content Hash Id)) : List String := turns.foldl (accept runes parseAddress) []

structure Vetted (entry : String) (turn : Turn Content Hash Id) : Prop where
  lowered : runes.lower entry = entry
  passed : ∃ recipient addressExists file watched domain mailbox,
    turn.event = .command (.rcpt recipient addressExists file watched) ∧ turn.answer.answer = .ok () ∧
      addressExists entry = some true ∧
      domain ∈ (turn.before.refreshDomains runes loader domain file watched).1.domains ∧
      entry.toList = mailbox ++ '@' :: domain.toList ∧ '@' ∉ mailbox ∧ '@' ∉ domain.toList

-- Lowercasing makes no '@' of another character.
def Letters (runes : Runes) : Prop := ∀ c, runes.toLower c = '@' → c = '@'

omit [DecidableEq Hash] in
theorem recipient_domain_lowered (letters : Letters runes) (address domain : String)
    (located : recipientDomain runes address = some domain) :
    ∃ mailbox, (runes.lower address).toList = mailbox ++ '@' :: domain.toList ∧ '@' ∉ mailbox ∧ '@' ∉ domain.toList := by
  have plain : ∀ chars : List Char, '@' ∉ chars → '@' ∉ chars.map runes.toLower := by
    intro chars absent member
    obtain ⟨c, inside, same⟩ := List.mem_map.mp member
    exact absent (letters c same ▸ inside)
  have sign : runes.toLower '@' = '@' := (runes.ascii '@' (by decide)).trans (by decide)
  rw [recipientDomain] at located
  split at located
  · rename_i mailbox host split
    obtain ⟨whole, plainMailbox, plainHost⟩ := (Text.split_pair_iff '@' _ mailbox host).mp split
    cases located
    refine ⟨mailbox.map runes.toLower, ?_, plain mailbox plainMailbox, ?_⟩
    · rw [Runes.lower, Text.map_chars_list, whole, List.map_append, List.map_cons, sign, Runes.lower, Text.map_chars_list,
        String.toList_ofList]
    · rw [Runes.lower, Text.map_chars_list, String.toList_ofList]
      exact plain host plainHost
  · cases located

theorem step_accepts (session : Session) (call : Call Content Hash Id) :
    ((conversation runes loader parseAddress services).step session call).1.recipients =
      accept runes parseAddress session.recipients
        ⟨session, call, ((conversation runes loader parseAddress services).step session call).2⟩ := by
  cases call with
  | data arrival => rfl
  | command command =>
      cases command with
      | mail sender => rfl
      | reset => rfl
      | rcpt recipient addressExists file watched =>
          simp only [conversation, accept, Session.command, Session.answer]
          cases answered : (session.rcpt runes loader parseAddress addressExists recipient file watched).1 with
          | error refusal =>
              exact rcpt_refused runes loader parseAddress session addressExists recipient file watched refusal answered
          | ok passed =>
              obtain ⟨address, domain, parsed, -, -, -, grown⟩ :=
                rcpt_accepted runes loader parseAddress session addressExists recipient file watched answered
              rw [parsed]
              exact grown

theorem recipients_accepted (session : Session) (fresh : session.recipients = []) (calls : List (Call Content Hash Id)) :
    ((conversation runes loader parseAddress services).final session calls).recipients =
      accepted runes parseAddress ((conversation runes loader parseAddress services).trace session calls) := by
  induction calls using List.reverseRecOn with
  | nil => exact fresh
  | append_singleton earlier call ih =>
      rw [Machine.final_append, Machine.trace_append, Machine.trace_one, accepted, List.foldl_append, ← accepted, ← ih]
      exact step_accepts runes loader parseAddress services _ call

theorem accept_cases (letters : Letters runes) (session : Session) (call : Call Content Hash Id) (recipients : List String)
    (entry : String) (member : entry ∈ accept runes parseAddress recipients
      ⟨session, call, ((conversation runes loader parseAddress services).step session call).2⟩) :
    (entry ∈ recipients ∧
      Turn.restarts ⟨session, call, ((conversation runes loader parseAddress services).step session call).2⟩ = false) ∨
      Vetted runes loader entry ⟨session, call, ((conversation runes loader parseAddress services).step session call).2⟩ := by
  cases call with
  | data arrival => exact Or.inl ⟨member, rfl⟩
  | command command =>
      cases command with
      | mail sender => cases member
      | reset => cases member
      | rcpt recipient addressExists file watched =>
          simp only [conversation, accept, Session.answer] at member ⊢
          cases answered : (session.rcpt runes loader parseAddress addressExists recipient file watched).1 with
          | error refusal =>
              rw [answered] at member
              exact Or.inl ⟨member, rfl⟩
          | ok passed =>
              obtain ⟨address, domain, parsed, located, known, found, -⟩ :=
                rcpt_accepted runes loader parseAddress session addressExists recipient file watched answered
              rw [answered, parsed] at member
              have vetted : Vetted runes loader (runes.lower address)
                  (⟨session, .command (.rcpt recipient addressExists file watched), ⟨.ok (), []⟩⟩ : Turn Content Hash Id) := by
                obtain ⟨mailbox, whole, plain, plainDomain⟩ := recipient_domain_lowered runes letters address domain located
                exact ⟨lower_settled runes address, recipient, addressExists, file, watched, domain, mailbox,
                  rfl, rfl, found, known,
                  whole, plain, plainDomain⟩
              dsimp only at member
              split at member
              · exact Or.inl ⟨member, rfl⟩
              · rcases List.mem_append.mp member with old | new
                · exact Or.inl ⟨old, rfl⟩
                · rw [List.mem_singleton.mp new]
                  exact Or.inr vetted

theorem accepted_vetted (letters : Letters runes) (session : Session) (calls : List (Call Content Hash Id)) (entry : String)
    (member : entry ∈ accepted runes parseAddress ((conversation runes loader parseAddress services).trace session calls)) :
    ∃ first turn since, (conversation runes loader parseAddress services).trace session calls = first ++ turn :: since ∧
      (∀ later ∈ since, Turn.restarts later = false) ∧ Vetted runes loader entry turn := by
  induction calls using List.reverseRecOn with
  | nil => cases member
  | append_singleton earlier call ih =>
      rw [Machine.trace_append, Machine.trace_one] at member ⊢
      rw [accepted, List.foldl_append, ← accepted] at member
      rcases accept_cases runes loader parseAddress services letters _ call _ entry member with ⟨old, kept⟩ | vetted
      · obtain ⟨first, turn, since, split, quiet, vetted⟩ := ih old
        refine ⟨first, turn, since ++ [_], by rw [split, List.append_assoc, List.cons_append], ?_, vetted⟩
        intro later inside
        rcases List.mem_append.mp inside with before | here
        · exact quiet later before
        · rw [List.mem_singleton.mp here]
          exact kept
      · exact ⟨_, _, [], rfl, by simp, vetted⟩

structure SafeList (turns : List (Turn Content Hash Id)) (recipients : List String) : Prop where
  distinct : recipients.Nodup
  ordered : recipients = accepted runes parseAddress turns
  vetted : ∀ entry ∈ recipients, ∃ first turn since, turns = first ++ turn :: since ∧
    (∀ later ∈ since, Turn.restarts later = false) ∧ Vetted runes loader entry turn

structure SafeTurn (turn : Turn Content Hash Id) : Prop where
  refused : ∀ recipient addressExists file watched refusal, turn.event = .command (.rcpt recipient addressExists file watched) →
    turn.answer.answer = .error refusal →
    ((conversation runes loader parseAddress services).step turn.before turn.event).1.recipients = turn.before.recipients
  stores : turn.answer.stored.map EmailData.toAddr <+: turn.before.recipients

theorem stores_lead (session : Session) (arrival : Arrival Id) :
    (session.stores runes services arrival).map EmailData.toAddr <+: session.recipients := by
  unfold Session.stores
  split
  · exact List.nil_prefix
  · exact store_calls_lead runes _ _ session.recipients arrival.calls

theorem turn_safe (session : Session) (call : Call Content Hash Id) :
    SafeTurn runes loader parseAddress services
      ⟨session, call, ((conversation runes loader parseAddress services).step session call).2⟩ := by
  constructor
  · intro recipient addressExists file watched refusal event answered
    dsimp only at event
    subst event
    exact rcpt_refused runes loader parseAddress session addressExists recipient file watched refusal answered
  · cases call with
    | command command => exact List.nil_prefix
    | data arrival => exact stores_lead runes services session arrival

theorem list_safe (letters : Letters runes) (session : Session) (fresh : session.recipients = [])
    (calls : List (Call Content Hash Id)) :
    SafeList runes loader parseAddress ((conversation runes loader parseAddress services).trace session calls)
      ((conversation runes loader parseAddress services).final session calls).recipients := by
  have ordered := recipients_accepted runes loader parseAddress services session fresh calls
  have queued := (Machine.invariant_run (conversation runes loader parseAddress services)
    (fun current => Queued runes current.recipients) (fun _ => True) (fun current call _ holds => by
      cases call with
      | command command => exact command_queued runes loader parseAddress current command holds
      | data arrival => exact holds) session calls (fun _ _ => trivial) (fresh ▸ queued_nil runes)).1
  exact ⟨queued.distinct, ordered,
    fun entry member => accepted_vetted runes loader parseAddress services letters session calls entry (ordered ▸ member)⟩

-- Every sequence of calls on a new session.
theorem session_safe (letters : Letters runes) (remoteAddr hostname : String) (backend : Config) (current : Option Config)
    (validator : Option Validator) (calls : List (Call Content Hash Id)) :
    SafeList runes loader parseAddress
        ((conversation runes loader parseAddress services).trace
          (newSession runes remoteAddr hostname backend current validator) calls)
        ((conversation runes loader parseAddress services).final (newSession runes remoteAddr hostname backend current validator)
          calls).recipients ∧
      ∀ earlier turn later, (conversation runes loader parseAddress services).trace
          (newSession runes remoteAddr hostname backend current validator) calls = earlier ++ turn :: later →
        SafeList runes loader parseAddress earlier turn.before.recipients ∧ SafeTurn runes loader parseAddress services turn := by
  refine ⟨list_safe runes loader parseAddress services letters _ rfl calls, ?_⟩
  rw [Machine.trace_history_iff]
  intro before call after _
  exact ⟨list_safe runes loader parseAddress services letters _ rfl before, turn_safe runes loader parseAddress services _ call⟩

end Session

theorem ascii_letters : Letters asciiRunes := by
  intro c same
  by_cases upper : c.isUpper = true
  · have letter := Text.lower_letter c upper
    rw [show c.toLower = '@' from same] at letter
    cases letter
  · exact (Text.lower_same c upper).symm.trans same

def newsletterCalls : List (Call String String Nat) :=
  (newsletter droppedSecond).commands.map Call.command ++ [.data (newsletter droppedSecond).arrival]

def newsletterSession : Session :=
  newSession asciiRunes "203.0.113.5:4000" "mx.sender.test" (withDefaults { domains := ["first.test"] }) none none

theorem newsletter_safe :
    Letters asciiRunes ∧ SafeList asciiRunes silentLoader some
      ((conversation asciiRunes silentLoader some quietServices).trace newsletterSession newsletterCalls)
      ((conversation asciiRunes silentLoader some quietServices).final newsletterSession newsletterCalls).recipients :=
  ⟨ascii_letters, (session_safe asciiRunes silentLoader some quietServices ascii_letters "203.0.113.5:4000" "mx.sender.test"
    (withDefaults { domains := ["first.test"] }) none none newsletterCalls).1⟩

end Tempmail.Mx
