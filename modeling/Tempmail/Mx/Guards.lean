import Tempmail.Lib.Machine
import Tempmail.Mx.Delivery

set_option autoImplicit false

namespace Tempmail.Mx

structure Submission (Id : Type) where
  session : Session
  now : Time
  incoming : Incoming
  receivedAt : Time
  calls : Nat → StoreCalls Id

section Guards

variable {IP Id : Type} (runes : Runes) (services : Services IP)

def dataMachine : Machine IpWindows (Submission Id) (Except SmtpError Unit) where
  step windows submission :=
    let result := submission.session.data runes services
      ⟨windows, submission.now, submission.incoming, submission.receivedAt, submission.calls⟩
    (result.windows, result.answer)

def GuardsSwitchedOff (cfg : Config) : Prop :=
  ∃ perHour parts, cfg.server.maxMessagesPerHourIP = some perHour ∧ cfg.server.maxMIMEParts = some parts ∧
    perHour ≤ 0 ∧ parts ≤ 0

def NoGuardRejects (moment : Machine.Moment IpWindows (Submission Id) (Except SmtpError Unit)) : Prop :=
  moment.answer ≠ .error tooManyMessages ∧ moment.answer ≠ .error tooManyMIMEParts

-- The message is turned away while it is read, or the limit is exactly 0 and
-- no line of the message looks like a part boundary.
def PassesPartCheck (submission : Submission Id) : Prop :=
  submission.session.Fits submission.incoming →
    submission.session.cfg.server.maxMIMEParts = some 0 ∧ ∀ line ∈ lines submission.incoming.bytes, ¬ isMarker line = true

theorem too_large_not_parts (maxMsgSizeMB : Int64) : messageTooLarge maxMsgSizeMB ≠ tooManyMIMEParts := by
  intro same
  have texts := congrArg (fun refusal => refusal.message.toList.take 9) same
  simp only [messageTooLarge, tooManyMIMEParts, smtpError, String.toList_append] at texts
  rw [List.append_assoc, List.take_append_of_le_length (by decide)] at texts
  exact absurd texts (by decide)

theorem read_message_refusal (session : Session) (incoming : Incoming) (refusal : SmtpError)
    (refused : session.readMessage incoming = .error refusal) :
    refusal ≠ tooManyMessages ∧ refusal ≠ tooManyMIMEParts := by
  simp only [Session.readMessage] at refused
  split at refused
  · cases refused
    decide
  · split at refused
    · cases refused
      refine ⟨?_, too_large_not_parts _⟩
      intro same
      have codes : (552 : Nat) = 451 := congrArg SmtpError.code same
      omega
    · cases refused

theorem store_loop_refusal (emailData : EmailData) (attachments : List AttachmentData) (recipients : List String)
    (calls : Nat → StoreCalls Id) (refusal : SmtpError)
    (refused : (storeLoop runes emailData attachments recipients calls).1 = .error refusal) :
    refusal = errorStoringMessage := by
  induction recipients generalizing calls with
  | nil => cases refused
  | cons recipient rest ih =>
      simp only [storeLoop] at refused
      split at refused
      · cases refused
        rfl
      · exact ih _ refused

-- With the rate guard off, DATA fails on the part count exactly when a message
-- that could be read has more parts than the limit.
theorem data_too_many_parts_iff (session : Session) (arrival : Arrival Id)
    (off : session.cfg.getMaxMessagesPerHourIP ≤ 0) :
    ((session.data runes services arrival).answer ≠ .error tooManyMessages) ∧
    ((session.data runes services arrival).answer = .error tooManyMIMEParts ↔
      session.Fits arrival.incoming ∧ session.cfg.getMaxMIMEParts < (countMIMEParts arrival.incoming.bytes : Int)) := by
  have partsNotRate : tooManyMIMEParts ≠ tooManyMessages := by decide
  have parsing : errorProcessingMessage ≠ tooManyMessages ∧ errorProcessingMessage ≠ tooManyMIMEParts := by decide
  have storing : errorStoringMessage ≠ tooManyMessages ∧ errorStoringMessage ≠ tooManyMIMEParts := by decide
  have allowed := allow_switched_off arrival.windows arrival.now (session.getClientIP services) _ off
  unfold Session.data Session.receive
  cases read : session.readMessage arrival.incoming with
  | error refusal =>
      have others := read_message_refusal session arrival.incoming refusal read
      have unread : ¬ session.Fits arrival.incoming := by
        intro fits
        have whole := (read_message_ok_iff session arrival.incoming _).mpr ⟨fits, rfl⟩
        rw [whole] at read
        cases read
      simp [others, unread]
  | ok rawMessage =>
      obtain ⟨fits, whole⟩ := (read_message_ok_iff session arrival.incoming rawMessage).mp read
      subst whole
      simp only [allowed, Bool.true_eq_false, if_false]
      by_cases many : (countMIMEParts arrival.incoming.bytes : Int) > session.cfg.getMaxMIMEParts
      · rw [if_pos many]
        exact ⟨by simp [partsNotRate], iff_of_true rfl ⟨fits, many⟩⟩
      · have few : ¬ (session.Fits arrival.incoming ∧
            session.cfg.getMaxMIMEParts < (countMIMEParts arrival.incoming.bytes : Int)) := fun both => many both.2
        rw [if_neg many]
        cases parsed : services.readEnvelope arrival.incoming.bytes with
        | none => exact ⟨by simp [parsing], iff_of_false (by simp [parsing]) few⟩
        | some envelope =>
            dsimp only
            generalize stored : (storeLoop runes _ _ _ arrival.calls).1 = answer
            cases answer with
            | ok => exact ⟨by simp, iff_of_false (by simp) few⟩
            | error refusal =>
                have same := store_loop_refusal runes _ _ _ _ refusal stored
                subst same
                exact ⟨by simp [storing], iff_of_false (by simp [storing]) few⟩

theorem submission_guarded_iff (windows : IpWindows) (submission : Submission Id)
    (off : GuardsSwitchedOff submission.session.cfg) :
    NoGuardRejects ⟨windows, submission, ((dataMachine runes services).step windows submission).2⟩ ↔
      PassesPartCheck submission := by
  obtain ⟨perHour, parts, perHourSet, partsSet, perHourOff, partsOff⟩ := off
  have rateOff : submission.session.cfg.getMaxMessagesPerHourIP ≤ 0 := by
    rw [Config.getMaxMessagesPerHourIP, perHourSet]
    exact perHourOff
  obtain ⟨rate, tooMany⟩ := data_too_many_parts_iff runes services submission.session
    ⟨windows, submission.now, submission.incoming, submission.receivedAt, submission.calls⟩ rateOff
  simp only [NoGuardRejects, dataMachine, PassesPartCheck]
  rw [and_iff_right rate, ne_eq, tooMany, not_and]
  refine forall_congr' fun _ => ?_
  rw [← count_parts_zero_iff]
  simp only [Config.getMaxMIMEParts, partsSet, Option.getD_some, Option.some.injEq]
  omega

-- Over every run of DATA commands with both guards configured off.
theorem switched_off_guards_reject_iff (windows : IpWindows) (submissions : List (Submission Id))
    (off : ∀ submission ∈ submissions, GuardsSwitchedOff submission.session.cfg) :
    (∀ moment ∈ (dataMachine runes services).trace windows submissions, NoGuardRejects moment) ↔
      ∀ submission ∈ submissions, PassesPartCheck submission := by
  rw [Machine.trace_forall_iff (dataMachine runes services) (fun _ => True)
    (fun submission => GuardsSwitchedOff submission.session.cfg) NoGuardRejects
    (fun moment => PassesPartCheck moment.event) (fun _ _ _ _ => trivial)
    (fun state submission allowed _ => submission_guarded_iff runes services state submission allowed)
    windows submissions off trivial]
  have events := Machine.trace_events (dataMachine runes services) windows submissions
  constructor
  · intro passes submission member
    rw [← events] at member
    obtain ⟨moment, traced, same⟩ := List.mem_map.mp member
    exact same ▸ passes moment traced
  · intro passes moment traced
    apply passes
    rw [← events]
    exact List.mem_map_of_mem traced

end Guards

def openConfig : Config :=
  withDefaults { domains := ["first.test"], server := { maxMessagesPerHourIP := some 0, maxMIMEParts := some 0 } }

def openSession : Session := newSession asciiRunes "203.0.113.5:4000" "mx.sender.test" openConfig none none

def submit (text : String) : Submission Nat :=
  ⟨openSession, 0, ⟨text.toList.map (fun c => c.toNat.toUInt8), false⟩, 0, fun _ => readyCalls⟩

theorem open_config_off : GuardsSwitchedOff openConfig := ⟨0, 0, rfl, rfl, by decide, by decide⟩

theorem plain_message_not_rejected :
    NoGuardRejects ⟨∅, submit "hello", ((dataMachine asciiRunes quietServices).step ∅ (submit "hello")).2⟩ := by
  have off : ∀ submission ∈ [submit "hello"], GuardsSwitchedOff submission.session.cfg := by
    simpa [submit, openSession, newSession] using open_config_off
  refine (switched_off_guards_reject_iff asciiRunes quietServices ∅ [submit "hello"] off).mpr ?_ _ (List.mem_singleton.mpr rfl)
  intro submission member
  rw [List.mem_singleton.mp member]
  exact fun _ => ⟨rfl, by decide⟩

theorem signature_line_rejected :
    GuardsSwitchedOff openConfig ∧
      ¬ ∀ moment ∈ (dataMachine asciiRunes quietServices).trace ∅ [submit "hello\n-- \nbob"], NoGuardRejects moment := by
  refine ⟨open_config_off, ?_⟩
  intro accepted
  have answer := (accepted _ (List.mem_singleton.mpr rfl)).2
  exact answer (by rfl)

end Tempmail.Mx
