import Tempmail.Mx.Limits
import Tempmail.Mx.Session

set_option autoImplicit false

namespace Tempmail.Mx

-- spfResult and dmarcResult are empty strings in the source until a validator ran.
structure EmailData where
  messageID : String
  subject : String
  fromAddr : String
  toAddr : String
  rawHeaders : String
  bodyPlain : String
  bodyHTML : String
  rawMessage : Bytes
  sizeBytes : Nat
  dkimValid : Option Bool
  spfResult : Option SPFResult
  dmarcResult : Option DMARCResult
  hasAttachments : Bool
  receivedAt : Time
deriving DecidableEq, Repr

structure AttachmentData where
  filename : String
  contentType : String
  sizeBytes : Nat
  data : Bytes
deriving DecidableEq, Repr

structure Part where
  fileName : String
  contentType : String
  content : Bytes
deriving DecidableEq, Repr

structure Envelope where
  getHeader : String → String
  rootHeader : List (String × List String)
  text : String
  html : String
  attachments : List Part
  inlines : List Part

-- The message as it arrives: the bytes that can be read, and whether reading
-- past them fails instead of ending.
structure Incoming where
  bytes : Bytes
  broken : Bool
deriving DecidableEq, Repr

structure Services (IP : Type) where
  network : Network IP
  splitHostPort : String → Option String
  readEnvelope : Bytes → Option Envelope

def errorReadingMessage : SmtpError := smtpError 451 (4, 3, 0) "error reading message"
def messageTooLarge (maxMsgSizeMB : Int64) : SmtpError :=
  smtpError 552 (5, 3, 4) ("message too large (max " ++ toString maxMsgSizeMB ++ " MB)")
def tooManyMessages : SmtpError := smtpError 451 (4, 7, 0) "too many messages from your address, try again later"
def tooManyMIMEParts : SmtpError := smtpError 552 (5, 3, 4) "message has too many MIME parts"
def errorProcessingMessage : SmtpError := smtpError 554 (5, 6, 0) "error processing message"
def errorStoringMessage : SmtpError := smtpError 451 (4, 3, 0) "error storing message"

-- buf.ReadFrom over io.LimitReader, then the size check: a reader cut at the
-- limit ends there without meeting the failure behind it.
def Session.readMessage (session : Session) (incoming : Incoming) : Except SmtpError Bytes :=
  let limit := session.cfg.getMaxMessageSize
  let room := limit.toInt.toNat
  if incoming.bytes.length < room ∧ incoming.broken then .error errorReadingMessage
  else
    let rawMessage := incoming.bytes.take room
    if (rawMessage.length : Int) ≥ limit.toInt then .error (messageTooLarge session.cfg.server.maxMsgSizeMB)
    else .ok rawMessage

section Receive

variable {IP : Type} (runes : Runes) (services : Services IP)

def Session.getClientIP (session : Session) : String := (services.splitHostPort session.remoteAddr).getD session.remoteAddr

-- Everything Data checks before it stores: size, rate, parts, and the parse.
def Session.receive (session : Session) (windows : IpWindows) (now : Time) (incoming : Incoming) :
    Except SmtpError (Bytes × Envelope) × IpWindows :=
  match session.readMessage incoming with
  | .error refusal => (.error refusal, windows)
  | .ok rawMessage =>
      let rate := allowMessageFrom windows now (session.getClientIP services) session.cfg.getMaxMessagesPerHourIP
      if rate.1 = false then (.error tooManyMessages, rate.2)
      else if (countMIMEParts rawMessage : Int) > session.cfg.getMaxMIMEParts then (.error tooManyMIMEParts, rate.2)
      else
        match services.readEnvelope rawMessage with
        | none => (.error errorProcessingMessage, rate.2)
        | some envelope => (.ok (rawMessage, envelope), rate.2)

def Session.extractEmailData (session : Session) (envelope : Envelope) (rawMessage : Bytes) (receivedAt : Time) :
    EmailData :=
  let headerLines := envelope.rootHeader.flatMap (fun header => header.2.map (fun val => header.1 ++ ": " ++ val ++ "\n"))
  { messageID := envelope.getHeader "Message-ID"
    subject := envelope.getHeader "Subject"
    fromAddr := session.fromAddr
    toAddr := ""
    rawHeaders := headerLines.foldl (· ++ ·) ""
    bodyPlain :=
      if envelope.text = "" ∧ envelope.html ≠ "" then "[HTML email - plain text not provided]" else envelope.text
    bodyHTML := envelope.html
    rawMessage
    sizeBytes := rawMessage.length
    dkimValid := none
    spfResult := none
    dmarcResult := none
    hasAttachments := false
    receivedAt }

def extractAttachments (envelope : Envelope) : List AttachmentData :=
  (envelope.attachments ++ envelope.inlines).map (fun part =>
    { filename := part.fileName, contentType := part.contentType, sizeBytes := part.content.length, data := part.content })

def Session.composeEmail (session : Session) (envelope : Envelope) (rawMessage : Bytes) (receivedAt : Time) : EmailData :=
  let emailData := session.extractEmailData envelope rawMessage receivedAt
  let emailData :=
    match session.validator with
    | none => emailData
    | some validator =>
        let result := validator.validateEmail runes services.network rawMessage session.fromAddr (session.getClientIP services)
        { emailData with
          dkimValid := result.dkimValid
          spfResult := some result.spfResult
          dmarcResult := some result.dmarcResult }
  { emailData with hasAttachments := !(extractAttachments envelope).isEmpty }

def Session.Fits (session : Session) (incoming : Incoming) : Prop :=
  incoming.broken = false ∧ (incoming.bytes.length : Int) < session.cfg.getMaxMessageSize.toInt

theorem read_message_ok_iff (session : Session) (incoming : Incoming) (rawMessage : Bytes) :
    session.readMessage incoming = .ok rawMessage ↔ session.Fits incoming ∧ rawMessage = incoming.bytes := by
  simp only [Session.readMessage, Session.Fits]
  generalize session.cfg.getMaxMessageSize.toInt = limit
  by_cases unread : incoming.bytes.length < limit.toNat ∧ incoming.broken = true
  · simp [unread]
  · rw [if_neg unread]
    by_cases short : (incoming.bytes.length : Int) < limit
    · have whole : incoming.bytes.take limit.toNat = incoming.bytes := List.take_of_length_le (by omega)
      have sound : incoming.broken = false := by
        by_contra broken
        exact unread ⟨by omega, by simpa using broken⟩
      rw [whole, if_neg (by omega)]
      simp [sound, short, eq_comm]
    · have cut : ((incoming.bytes.take limit.toNat).length : Int) ≥ limit := by
        rw [List.length_take]
        omega
      rw [if_pos cut]
      simp [short]

theorem receive_ok_iff (session : Session) (windows : IpWindows) (now : Time) (incoming : Incoming) (rawMessage : Bytes)
    (envelope : Envelope) :
    (session.receive services windows now incoming).1 = .ok (rawMessage, envelope) ↔
      (session.Fits incoming ∧ rawMessage = incoming.bytes) ∧
        (allowMessageFrom windows now (session.getClientIP services) session.cfg.getMaxMessagesPerHourIP).1 = true ∧
        (countMIMEParts rawMessage : Int) ≤ session.cfg.getMaxMIMEParts ∧
        services.readEnvelope rawMessage = some envelope := by
  rw [← read_message_ok_iff]
  unfold Session.receive
  cases read : session.readMessage incoming with
  | error refusal => simp
  | ok raw =>
      simp only [Except.ok.injEq]
      by_cases refused : (allowMessageFrom windows now (session.getClientIP services)
          session.cfg.getMaxMessagesPerHourIP).1 = false
      · simp [refused]
      · rw [if_neg refused]
        rw [Bool.not_eq_false] at refused
        by_cases many : (countMIMEParts raw : Int) > session.cfg.getMaxMIMEParts
        · rw [if_pos many]
          constructor
          · simp
          · rintro ⟨same, -, few, -⟩
            subst same
            omega
        · rw [if_neg many]
          cases parsed : services.readEnvelope raw with
          | none =>
              constructor
              · simp
              · rintro ⟨same, -, -, known⟩
                subst same
                simp [parsed] at known
          | some found =>
              simp only [Except.ok.injEq, Prod.mk.injEq]
              constructor
              · rintro ⟨same, found_eq⟩
                subst same found_eq
                exact ⟨rfl, refused, by omega, parsed⟩
              · rintro ⟨same, -, -, known⟩
                subst same
                exact ⟨rfl, Option.some.inj (parsed.symm.trans known)⟩

end Receive

end Tempmail.Mx
