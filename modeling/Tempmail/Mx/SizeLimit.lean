import Mathlib.Algebra.Group.Int.Defs
import Tempmail.Mx.Guards
import Tempmail.Mx.SessionSafety

set_option autoImplicit false

namespace Tempmail.Mx

section Limit

variable {IP Id : Type} (runes : Runes) (services : Services IP) (session : Session) (arrival : Arrival Id)

structure SizeRight (mb : Int) : Prop where
  rejected : (session.data runes services arrival).answer = .error (messageTooLarge session.cfg.server.maxMsgSizeMB) ↔
    mb * 1024 * 1024 < (arrival.incoming.bytes.length : Int)
  read : ∀ rawMessage, session.readMessage arrival.incoming = .ok rawMessage → rawMessage = arrival.incoming.bytes
  stored : ∀ email ∈ session.stores runes services arrival,
    email.rawMessage = arrival.incoming.bytes ∧ email.sizeBytes = arrival.incoming.bytes.length

theorem max_size_exact (cfg : Config) (mb : Int) (set : cfg.server.maxMsgSizeMB.toInt = mb) (positive : 1 ≤ mb)
    (fits : mb * 1024 * 1024 < 2 ^ 63) : cfg.getMaxMessageSize.toInt = mb * 1024 * 1024 := by
  rw [Config.getMaxMessageSize, Int64.toInt_mul, Int64.toInt_mul, Int.bmod_mul_bmod, set]
  change (mb * 1024 * 1024).bmod (2 ^ 64) = mb * 1024 * 1024
  exact Int.bmod_eq_of_le (by omega) (by omega)

theorem compose_email_message (envelope : Envelope) (rawMessage : Bytes) (receivedAt : Time) :
    (session.composeEmail runes services envelope rawMessage receivedAt).rawMessage = rawMessage ∧
      (session.composeEmail runes services envelope rawMessage receivedAt).sizeBytes = rawMessage.length := by
  rw [Session.composeEmail]
  cases session.validator <;> exact ⟨rfl, rfl⟩

theorem store_calls_message (emailData : EmailData) (attachments : List AttachmentData) (recipients : List String)
    (calls : Nat → StoreCalls Id) (email : EmailData) (member : email ∈ storeCalls runes emailData attachments recipients calls) :
    email.rawMessage = emailData.rawMessage ∧ email.sizeBytes = emailData.sizeBytes := by
  induction recipients generalizing calls with
  | nil => cases member
  | cons recipient rest ih =>
      rw [storeCalls] at member
      rcases List.mem_cons.mp member with here | there
      · rw [here]
        exact ⟨rfl, rfl⟩
      · split at there
        · cases there
        · exact ih _ there

theorem stores_whole (email : EmailData) (member : email ∈ session.stores runes services arrival) :
    email.rawMessage = arrival.incoming.bytes ∧ email.sizeBytes = arrival.incoming.bytes.length := by
  unfold Session.stores at member
  cases received : (session.receive services arrival.windows arrival.now arrival.incoming).1 with
  | error refusal => simp [received] at member
  | ok found =>
      obtain ⟨rawMessage, envelope⟩ := found
      obtain ⟨⟨-, whole⟩, -⟩ :=
        (receive_ok_iff services session arrival.windows arrival.now arrival.incoming rawMessage envelope).mp
        received
      rw [received] at member
      obtain ⟨message, size⟩ := store_calls_message runes _ _ _ _ email member
      obtain ⟨composed, counted⟩ := compose_email_message runes services session envelope rawMessage arrival.receivedAt
      exact ⟨(message.trans composed).trans whole, (size.trans counted).trans (congrArg List.length whole)⟩

theorem too_large_unlike (maxMsgSizeMB : Int64) :
    ∀ other ∈ [tooManyMessages, tooManyMIMEParts, errorProcessingMessage, errorStoringMessage],
    other ≠ messageTooLarge maxMsgSizeMB := by
  have codes : ∀ other ∈ [tooManyMessages, errorProcessingMessage, errorStoringMessage], other.code ≠ 552 := by decide
  intro other member same
  by_cases parts : other = tooManyMIMEParts
  · exact too_large_not_parts maxMsgSizeMB (same.symm.trans parts)
  · exact codes other (by simp only [List.mem_cons, parts, false_or] at member ⊢; exact member) (congrArg SmtpError.code same)

-- A message cut off at the limit looks like one that ends there.
theorem too_large_iff (whole : arrival.incoming.broken = false) :
    (session.data runes services arrival).answer = .error (messageTooLarge session.cfg.server.maxMsgSizeMB) ↔
      session.cfg.getMaxMessageSize.toInt ≤ (arrival.incoming.bytes.length : Int) := by
  have others := too_large_unlike session.cfg.server.maxMsgSizeMB
  by_cases fits : session.Fits arrival.incoming
  · have small := fits.2
    refine iff_of_false (fun rejected => ?_) (by omega)
    have read := (read_message_ok_iff session arrival.incoming _).mpr ⟨fits, rfl⟩
    unfold Session.data Session.receive at rejected
    rw [read] at rejected
    dsimp only at rejected
    split_ifs at rejected
    · exact others _ (by simp) (Except.error.inj rejected)
    · exact others _ (by simp) (Except.error.inj rejected)
    · split at rejected
      · rename_i refusal _ failed
        split at failed
        · cases failed
          exact others _ (by simp) (Except.error.inj rejected)
        · cases failed
      · have stored := store_loop_refusal runes _ _ _ _ _ rejected
        exact others _ (by simp) stored.symm
  · have large : session.cfg.getMaxMessageSize.toInt ≤ (arrival.incoming.bytes.length : Int) := by
      by_contra small
      exact fits ⟨whole, by omega⟩
    refine iff_of_true ?_ large
    have refused : session.readMessage arrival.incoming = .error (messageTooLarge session.cfg.server.maxMsgSizeMB) := by
      rw [Session.readMessage, whole]
      dsimp only
      rw [if_neg (by simp), if_pos (by rw [List.length_take]; omega)]
    unfold Session.data Session.receive
    rw [refused]

-- The limit is right for every length but the limit itself.
theorem size_limit_iff (mb : Int) (set : session.cfg.server.maxMsgSizeMB.toInt = mb) (positive : 1 ≤ mb)
    (fits : mb * 1024 * 1024 < 2 ^ 63) (whole : arrival.incoming.broken = false) :
    SizeRight runes services session arrival mb ↔ (arrival.incoming.bytes.length : Int) ≠ mb * 1024 * 1024 := by
  have rejected := too_large_iff runes services session arrival whole
  rw [max_size_exact session.cfg mb set positive fits] at rejected
  constructor
  · intro right
    have strict := rejected.symm.trans right.rejected
    omega
  · intro apart
    refine ⟨rejected.trans (by omega), fun rawMessage read => ?_, stores_whole runes services session arrival⟩
    exact ((read_message_ok_iff session arrival.incoming rawMessage).mp read).2

end Limit

def megabyteSession : Session :=
  newSession asciiRunes "203.0.113.5:4000" "mx.sender.test"
    { domains := ["first.test"], server := { maxMsgSizeMB := 1 } } none none

def zeros (count : Nat) : Arrival Nat := ⟨∅, 0, ⟨List.replicate count 0, false⟩, 0, fun _ => readyCalls⟩

theorem half_megabyte_right : SizeRight asciiRunes quietServices megabyteSession (zeros (512 * 1024)) 1 := by
  refine (size_limit_iff asciiRunes quietServices megabyteSession (zeros (512 * 1024)) 1 rfl (by decide) (by decide) rfl).mpr ?_
  rw [zeros, List.length_replicate]
  decide

-- A message of exactly one megabyte is refused although it is not over it.
theorem exact_megabyte_rejected :
    (zeros (1024 * 1024)).incoming.broken = false ∧
      (megabyteSession.data asciiRunes quietServices (zeros (1024 * 1024))).answer = .error (messageTooLarge 1) ∧
      ¬ SizeRight asciiRunes quietServices megabyteSession (zeros (1024 * 1024)) 1 := by
  have length : ((zeros (1024 * 1024)).incoming.bytes.length : Int) = 1 * 1024 * 1024 := by
    rw [zeros, List.length_replicate]
    rfl
  have rejected := (too_large_iff asciiRunes quietServices megabyteSession (zeros (1024 * 1024)) rfl).mpr
    (Int.le_of_eq length.symm)
  refine ⟨rfl, rejected, fun right => ?_⟩
  have above := right.rejected.mp rejected
  omega

end Tempmail.Mx
