import Tempmail.Lib.Multipart
import Tempmail.Mx.ReplyClasses

set_option autoImplicit false

namespace Tempmail.Mx

-- The bytes Data hands to enmime.ReadEnvelope, none where it answers before.
def Session.handsOver {IP : Type} (services : Services IP) (session : Session) (windows : IpWindows) (now : Time)
    (incoming : Incoming) : Option Bytes :=
  match session.readMessage incoming with
  | .error _ => none
  | .ok rawMessage =>
      if (allowMessageFrom windows now (session.getClientIP services) session.cfg.getMaxMessagesPerHourIP).1 = false then none
      else if (countMIMEParts rawMessage : Int) > session.cfg.getMaxMIMEParts then none
      else some rawMessage

def mimeParts (declared : List Multipart.Line → Option Multipart.Line) (rawMessage : Bytes) : Nat :=
  Multipart.parts declared (lines rawMessage)

section Guard

variable {IP Id : Type} (runes : Runes) (services : Services IP) (session : Session) (arrival : Arrival Id)
variable (declared : List Multipart.Line → Option Multipart.Line)

structure PartGuardRight : Prop where
  rejected : (session.data runes services arrival).answer = .error tooManyMIMEParts →
    session.cfg.getMaxMIMEParts < mimeParts declared arrival.incoming.bytes
  passed : ∀ rawMessage, session.handsOver services arrival.windows arrival.now arrival.incoming = some rawMessage →
    (mimeParts declared rawMessage : Int) ≤ session.cfg.getMaxMIMEParts

-- A message that reaches the guard: below the counter's cap its lines in
-- hyphens exceed the limit only if its parts do, above it its parts do not.
def GuardCounts : Prop :=
  session.Fits arrival.incoming →
    (allowMessageFrom arrival.windows arrival.now (session.getClientIP services) session.cfg.getMaxMessagesPerHourIP).1 = true →
    (session.cfg.getMaxMIMEParts ≤ 100000 → session.cfg.getMaxMIMEParts < (lines arrival.incoming.bytes).countP isMarker →
        session.cfg.getMaxMIMEParts < mimeParts declared arrival.incoming.bytes) ∧
      (100000 < session.cfg.getMaxMIMEParts → (mimeParts declared arrival.incoming.bytes : Int) ≤ session.cfg.getMaxMIMEParts)

theorem unread_error (incoming : Incoming) (unfit : ¬ session.Fits incoming) :
    ∃ refusal, session.readMessage incoming = .error refusal ∧ refusal ≠ tooManyMIMEParts := by
  cases read : session.readMessage incoming with
  | error refusal => exact ⟨refusal, rfl, (read_message_refusal session incoming refusal read).2⟩
  | ok rawMessage => exact absurd ((read_message_ok_iff session incoming rawMessage).mp read).1 unfit

theorem hands_over_iff (rawMessage : Bytes) :
    session.handsOver services arrival.windows arrival.now arrival.incoming = some rawMessage ↔
      session.Fits arrival.incoming ∧ rawMessage = arrival.incoming.bytes ∧
        (allowMessageFrom arrival.windows arrival.now
          (session.getClientIP services) session.cfg.getMaxMessagesPerHourIP).1 = true ∧
        (countMIMEParts arrival.incoming.bytes : Int) ≤ session.cfg.getMaxMIMEParts := by
  rw [Session.handsOver]
  by_cases fits : session.Fits arrival.incoming
  · have read := (read_message_ok_iff session arrival.incoming arrival.incoming.bytes).mpr ⟨fits, rfl⟩
    simp only [read, fits, true_and]
    by_cases refused : (allowMessageFrom arrival.windows arrival.now (session.getClientIP services)
        session.cfg.getMaxMessagesPerHourIP).1 = false
    · simp [refused]
    · rw [if_neg refused]
      rw [Bool.not_eq_false] at refused
      by_cases many : (countMIMEParts arrival.incoming.bytes : Int) > session.cfg.getMaxMIMEParts
      · rw [if_pos many]
        exact iff_of_false nofun (fun passes => absurd passes.2.2 (by omega))
      · rw [if_neg many, Option.some.injEq]
        exact ⟨fun same => ⟨same.symm, refused, by omega⟩, fun passes => passes.1.symm⟩
  · obtain ⟨refusal, read, -⟩ := unread_error session arrival.incoming fits
    simp [read, fits]

theorem hands_over_parsed (rawMessage : Bytes)
    (handed : session.handsOver services arrival.windows arrival.now arrival.incoming = some rawMessage) :
    (session.receive services arrival.windows arrival.now arrival.incoming).1 =
      (services.readEnvelope rawMessage).elim (.error errorProcessingMessage) (fun envelope => .ok (rawMessage, envelope)) := by
  obtain ⟨fits, rfl, allowed, few⟩ := (hands_over_iff services session arrival rawMessage).mp handed
  rw [receive_checked services session arrival fits, allowed, if_neg (by decide), if_neg (by omega)]

theorem parser_unasked (reader : Bytes → Option Envelope)
    (kept : session.handsOver services arrival.windows arrival.now arrival.incoming = none) :
    (session.receive { services with readEnvelope := reader } arrival.windows arrival.now arrival.incoming).1 =
      (session.receive services arrival.windows arrival.now arrival.incoming).1 := by
  by_cases fits : session.Fits arrival.incoming
  · have client : session.getClientIP { services with readEnvelope := reader } = session.getClientIP services := rfl
    rw [receive_checked _ session arrival fits, receive_checked services session arrival fits, client]
    by_cases refused : (allowMessageFrom arrival.windows arrival.now (session.getClientIP services)
        session.cfg.getMaxMessagesPerHourIP).1 = false
    · rw [if_pos refused, if_pos refused]
    · rw [if_neg refused, if_neg refused]
      by_cases many : (countMIMEParts arrival.incoming.bytes : Int) > session.cfg.getMaxMIMEParts
      · rw [if_pos many, if_pos many]
      · have handed := (hands_over_iff services session arrival arrival.incoming.bytes).mpr
          ⟨fits, rfl, by simpa using refused, by omega⟩
        rw [kept] at handed
        cases handed
  · obtain ⟨refusal, read, -⟩ := unread_error session arrival.incoming fits
    rw [receive_read _ session arrival refusal read, receive_read services session arrival refusal read]

theorem too_many_parts_iff : (session.data runes services arrival).answer = .error tooManyMIMEParts ↔
    session.Fits arrival.incoming ∧
      (allowMessageFrom arrival.windows arrival.now (session.getClientIP services) session.cfg.getMaxMessagesPerHourIP).1 = true ∧
      session.cfg.getMaxMIMEParts < (countMIMEParts arrival.incoming.bytes : Int) := by
  by_cases fits : session.Fits arrival.incoming
  · have checked := receive_checked services session arrival fits
    cases allowed : (allowMessageFrom arrival.windows arrival.now (session.getClientIP services)
        session.cfg.getMaxMessagesPerHourIP).1 with
    | false =>
        rw [allowed, if_pos rfl] at checked
        rw [data_refused runes services session arrival _ checked]
        simp [tooManyMessages, tooManyMIMEParts, smtpError]
    | true =>
        rw [allowed, if_neg (by decide)] at checked
        by_cases many : (countMIMEParts arrival.incoming.bytes : Int) > session.cfg.getMaxMIMEParts
        · rw [if_pos many] at checked
          rw [data_refused runes services session arrival _ checked]
          exact iff_of_true rfl ⟨fits, rfl, many⟩
        · refine iff_of_false (fun rejected => ?_) (fun passes => many passes.2.2)
          rw [if_neg many] at checked
          cases parsed : services.readEnvelope arrival.incoming.bytes with
          | none =>
              rw [parsed, Option.elim_none] at checked
              rw [data_refused runes services session arrival _ checked] at rejected
              exact absurd rejected (by simp [errorProcessingMessage, tooManyMIMEParts, smtpError])
          | some envelope =>
              obtain ⟨emailData, answer, -⟩ := data_admitted runes services session arrival envelope
                ⟨fits, allowed, by omega, parsed⟩
              have stored := store_loop_refusal runes _ _ _ _ tooManyMIMEParts (answer.symm.trans rejected)
              exact absurd stored (by decide)
  · obtain ⟨refusal, read, other⟩ := unread_error session arrival.incoming fits
    rw [data_refused runes services session arrival _ (receive_read services session arrival refusal read)]
    exact iff_of_false (fun same => other (by cases same; rfl)) (fun passes => fits passes.1)

theorem delimiter_marker (boundary line : Multipart.Line) (nonempty : boundary ≠ [])
    (delimiter : Multipart.delimits boundary line = true) : isMarker line = true := by
  obtain ⟨rest, whole⟩ := Multipart.delimits_front boundary line delimiter
  obtain ⟨first, others, split⟩ := List.exists_cons_of_ne_nil nonempty
  subst split
  rw [← whole]
  rfl

theorem part_guard_iff (positive : 0 < session.cfg.getMaxMIMEParts)
    (nonempty : ∀ header boundary, declared header = some boundary → boundary ≠ []) :
    PartGuardRight runes services session arrival declared ↔ GuardCounts services session arrival declared := by
  have bounded : mimeParts declared arrival.incoming.bytes ≤ (lines arrival.incoming.bytes).countP isMarker :=
    Multipart.parts_marked declared isMarker nonempty delimiter_marker (lines arrival.incoming.bytes)
  have counted := count_parts_eq arrival.incoming.bytes
  have rejected := too_many_parts_iff runes services session arrival
  have handed := hands_over_iff services session arrival
  constructor
  · intro right fits allowed
    constructor
    · intro small many
      exact right.rejected (rejected.mpr ⟨fits, allowed, by omega⟩)
    · intro large
      exact right.passed _ ((handed _).mpr ⟨fits, rfl, allowed, by omega⟩)
  · intro counts
    constructor
    · intro refused
      obtain ⟨fits, allowed, many⟩ := rejected.mp refused
      exact (counts fits allowed).1 (by omega) (by omega)
    · intro rawMessage passed
      obtain ⟨fits, rfl, allowed, few⟩ := (handed rawMessage).mp passed
      by_cases large : 100000 < session.cfg.getMaxMIMEParts
      · exact (counts fits allowed).2 large
      · omega

end Guard

def mixedHeader : Multipart.Line := "Content-Type: multipart/mixed; boundary=".toUTF8.toList

def mixedBoundary : List Multipart.Line → Option Multipart.Line
  | [] => none
  | line :: rest =>
      let declared := (Multipart.bare line).drop mixedHeader.length
      if (Multipart.bare line).take mixedHeader.length = mixedHeader ∧ declared ≠ [] then some declared else mixedBoundary rest

theorem mixed_nonempty (header : List Multipart.Line) (boundary : Multipart.Line)
    (found : mixedBoundary header = some boundary) : boundary ≠ [] := by
  induction header with
  | nil => cases found
  | cons line rest ih =>
      rw [mixedBoundary] at found
      split at found
      · rename_i declared
        cases found
        exact declared.2
      · exact ih found

def guardedSession : Session :=
  newSession asciiRunes "203.0.113.5:4000" "mx.sender.test"
    (withDefaults { domains := ["first.test"], server := { maxMIMEParts := some 2 } }) none none

def mailed (text : String) : Arrival Nat := ⟨∅, 0, ⟨text.toList.map (fun c => c.toNat.toUInt8), false⟩, 0, fun _ => readyCalls⟩

def onePart : Arrival Nat := mailed "Content-Type: multipart/mixed; boundary=b\r\n\r\n--b\r\n\r\none\r\n--b--\r\n"

def twoParts : Arrival Nat :=
  mailed "Content-Type: multipart/mixed; boundary=b\r\n\r\n--b\r\n\r\none\r\n--b\r\n\r\ntwo\r\n--b--\r\n"

theorem one_part_guarded : PartGuardRight asciiRunes quietServices guardedSession onePart mixedBoundary := by
  refine (part_guard_iff asciiRunes quietServices guardedSession onePart mixedBoundary (by decide) mixed_nonempty).mpr ?_
  intro _ _
  refine ⟨fun _ many => absurd many (by decide +kernel), fun large => absurd large (by decide)⟩

-- The closing delimiter counts as a third part.
theorem two_parts_rejected : 0 < guardedSession.cfg.getMaxMIMEParts ∧
    (guardedSession.data asciiRunes quietServices twoParts).answer = .error tooManyMIMEParts ∧
      mimeParts mixedBoundary twoParts.incoming.bytes = 2 ∧
      ¬ PartGuardRight asciiRunes quietServices guardedSession twoParts mixedBoundary := by
  have rejected := (too_many_parts_iff asciiRunes quietServices guardedSession twoParts).mpr
    ⟨⟨rfl, by decide +kernel⟩, by decide +kernel, by decide +kernel⟩
  have parts : mimeParts mixedBoundary twoParts.incoming.bytes = 2 := by decide +kernel
  refine ⟨by decide, rejected, parts, fun right => ?_⟩
  have more := right.rejected rejected
  rw [parts] at more
  exact absurd more (by decide)

end Tempmail.Mx
