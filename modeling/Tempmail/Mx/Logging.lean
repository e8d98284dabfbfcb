import Tempmail.Mx.Sanitize
import Tempmail.Mx.SessionSafety

set_option autoImplicit false

namespace Tempmail.Mx

-- One step of sanitizeForLog's loop. A byte of no rune is read as U+FFFD, and
-- no rune of several bytes starts with one below 0x80.
def written : Utf8.Item → Bytes
  | .stray _ => [0xef, 0xbf, 0xbd]
  | .rune bytes =>
      match bytes with
      | [] => []
      | first :: _ =>
          if first = 0x09 then [0x20]
          else if first.toNat < 0x20 ∨ first = 0x7f then []
          else bytes

def ellipsis : Bytes := [0x2e, 0x2e, 0x2e]

def sanitizeForLog (s : Bytes) : Bytes :=
  let out := (Utf8.items s).flatMap written
  if out.length > 200 then out.take 200 ++ ellipsis else out

-- What log.Printf writes for one argument or one stretch of its format. A
-- foreign piece comes from MAIL FROM, RCPT TO, the Subject, the Message-ID or a
-- file name.
structure Piece where
  text : Bytes
  foreign : Bool
deriving DecidableEq, Repr

abbrev LogLine := List Piece

def utf8 (text : String) : Bytes := Utf8.encode text.toList
def own (text : String) : Piece := ⟨utf8 text, false⟩
def raw (text : String) : Piece := ⟨utf8 text, true⟩
def cleaned (text : String) : Piece := ⟨sanitizeForLog (utf8 text), true⟩

def listed : List String → List Piece
  | [] => []
  | [one] => [raw one]
  | one :: rest => raw one :: own " " :: listed rest

-- Texts of errors and identifiers that Go, enmime and the database choose.
structure LogTexts where
  addressError : String → String
  readError : String
  envelopeError : Bytes → String
  databaseError : String
  emailID : String

def formatBoolPtr : Option Bool → String
  | none => "null"
  | some true => "true"
  | some false => "false"

def SPFResult.text : SPFResult → String
  | .pass => "pass"
  | .fail => "fail"
  | .softfail => "softfail"
  | .neutral => "neutral"
  | .none => "none"

def DMARCResult.text : DMARCResult → String
  | .pass => "pass"
  | .fail => "fail"
  | .none => "none"

def Session.line (session : Session) (pieces : List Piece) : LogLine := own ("[" ++ session.remoteAddr ++ "] ") :: pieces

def Session.mailLog (session : Session) (sender : String) : List LogLine :=
  [session.line [own "MAIL FROM: <", cleaned sender, own ">"]]

def Session.resetLog (session : Session) : List LogLine := [session.line [own "RSET: Transaction reset"]]

section Rcpt

variable {Content Hash Id : Type} [DecidableEq Hash] (runes : Runes) (loader : Loader Content Hash)
variable (parseAddress : String → Option String) (texts : LogTexts)

def Session.mailboxLog (session : Session) (address : String) (addressExists : String → Option Bool) : List LogLine :=
  let normalizedEmail := runes.lower address
  match addressExists normalizedEmail with
  | none =>
      [session.line [own "ERROR: Failed to check address existence for ", raw normalizedEmail,
        own (": failed to check address existence: " ++ texts.databaseError)]]
  | some false => [session.line [own "REJECTED: Address does not exist: ", raw normalizedEmail]]
  | some true =>
      if normalizedEmail ∈ session.recipients then
        [session.line [own "ACCEPTED: <", raw normalizedEmail, own "> (already queued, not stored twice)"]]
      else
        [session.line [own "ACCEPTED: <", raw address, own "> -> normalized as <", raw normalizedEmail,
          own ("> (total recipients: " ++ toString (session.recipients.length + 1) ++ ")")]]

def Session.rcptLog (session : Session) (recipient : String) (addressExists : String → Option Bool) (file : Option Content)
    (watched : Watched Hash) : List LogLine :=
  session.line [own "RCPT TO: <", cleaned recipient, own ">"] ::
    match parseAddress recipient with
    | none => [session.line [own "REJECTED: Invalid address format: ", raw (texts.addressError recipient)]]
    | some address =>
        match recipientDomain runes address with
        | none => [session.line [own "REJECTED: Invalid email format: ", raw address]]
        | some domain =>
            let after := (session.refreshDomains runes loader domain file watched).1
            if domain ∈ after.domains then
              (if domain ∈ session.domains then []
                else [session.line [own "Domain ", raw domain, own " accepted right after a config reload"]]) ++
                after.mailboxLog runes texts address addressExists
            else
              [session.line [own "REJECTED: Domain not accepted: ", raw domain,
                own (" (allowed: [" ++ " ".intercalate after.cfg.domains ++ "])")]]

end Rcpt

section Data

variable {IP Id : Type} (runes : Runes) (services : Services IP) (texts : LogTexts)

def Session.intakeLog (session : Session) (arrival : Arrival Id) : List LogLine :=
  let limit := session.cfg.getMaxMessageSize
  let room := limit.toInt.toNat
  if arrival.incoming.bytes.length < room ∧ arrival.incoming.broken then
    [session.line [own ("ERROR: Failed to read message: " ++ texts.readError)]]
  else
    let rawMessage := arrival.incoming.bytes.take room
    let size := toString rawMessage.length
    if (rawMessage.length : Int) ≥ limit.toInt then
      [session.line [own ("REJECTED: Message too large (" ++ size ++ " bytes, max " ++ toString limit ++ ")")]]
    else
      session.line [own ("Received message (" ++ size ++ " bytes)")] ::
        if (allowMessageFrom arrival.windows arrival.now (session.getClientIP services) session.cfg.getMaxMessagesPerHourIP).1 =
            false then
          [session.line [own "REJECTED: per-IP message rate limit exceeded"]]
        else if (countMIMEParts rawMessage : Int) > session.cfg.getMaxMIMEParts then
          [session.line [own ("REJECTED: too many MIME parts (" ++ toString (countMIMEParts rawMessage) ++ " > " ++
            toString session.cfg.getMaxMIMEParts ++ ")")]]
        else
          match services.readEnvelope rawMessage with
          | none => [session.line [own ("ERROR: Failed to parse email: " ++ texts.envelopeError rawMessage)]]
          | some _ => []

def StoreError.pieces : StoreError → List Piece
  | .begins => [own ("failed to begin transaction: " ++ texts.databaseError)]
  | .insertEmail => [own ("failed to insert email: " ++ texts.databaseError)]
  | .addressDoesNotExist email => [own "failed to get address: address does not exist: ", raw email]
  | .queryAddress => [own ("failed to get address: failed to query address: " ++ texts.databaseError)]
  | .linkEmail => [own ("failed to link email to address: " ++ texts.databaseError)]
  | .insertAttachment _ => [own ("failed to insert attachment: " ++ texts.databaseError)]
  | .commit => [own ("failed to commit transaction: " ++ texts.databaseError)]

def attachmentsLog (calls : StoreCalls Id) : Nat → List AttachmentData → List LogLine
  | _, [] => []
  | index, attachment :: rest =>
      if calls.insertAttachment index = false then []
      else
        [own "Stored attachment: ", raw attachment.filename, own (" (" ++ toString attachment.sizeBytes ++ " bytes)")] ::
          attachmentsLog calls (index + 1) rest

def linkedLog (calls : StoreCalls Id) (email : EmailData) (attachments : List AttachmentData) : List LogLine :=
  match getAddress runes calls email.toAddr with
  | .error _ => []
  | .ok _ => if calls.insertRecipient = false then [] else attachmentsLog calls 0 attachments

def storeEmailLog (calls : StoreCalls Id) (email : EmailData) (attachments : List AttachmentData) : List LogLine :=
  if calls.begins = false then []
  else if calls.insertEmail = false then []
  else
    [own "Stored email ", raw email.messageID, own (" with ID " ++ texts.emailID)] :: linkedLog runes calls email attachments

def Session.storesLog (session : Session) (emailData : EmailData) (attachments : List AttachmentData) :
    List String → (Nat → StoreCalls Id) → List LogLine
  | [], _ =>
      [session.line [own ("✓ SUCCESS: Email delivered to " ++ toString session.recipients.length ++ " recipients")]]
  | recipient :: rest, calls =>
      storeEmailLog runes texts (calls 0) { emailData with toAddr := recipient } attachments ++
        match (storeEmail runes (calls 0) { emailData with toAddr := recipient } attachments).1 with
        | .error reason =>
            [session.line ([own "ERROR: Failed to store email for ", raw recipient, own ": "] ++ reason.pieces texts)]
        | .ok () =>
            session.line [own "✓ Stored email for ", raw recipient] ::
              session.storesLog emailData attachments rest (fun position => calls (position + 1))

def Session.deliveryLog (session : Session) (envelope : Envelope) (rawMessage : Bytes) (arrival : Arrival Id) : List LogLine :=
  let emailData := session.composeEmail runes services envelope rawMessage arrival.receivedAt
  let attachments := extractAttachments envelope
  (match session.validator with
    | none => []
    | some _ =>
        [session.line [own ("Validation - DKIM: " ++ formatBoolPtr emailData.dkimValid ++ ", SPF: " ++
          (emailData.spfResult.elim "" SPFResult.text) ++ ", DMARC: " ++ (emailData.dmarcResult.elim "" DMARCResult.text))]]) ++
    session.line [own "Parsed - Subject: '", cleaned emailData.subject,
      own ("', Attachments: " ++ toString attachments.length)] ::
    session.storesLog runes texts emailData attachments session.recipients arrival.calls

def Session.dataLog (session : Session) (arrival : Arrival Id) : List LogLine :=
  session.line ([own "DATA: ", raw session.fromAddr, own " -> ["] ++ listed session.recipients ++ [own "]"]) ::
    (session.intakeLog services texts arrival ++
      match (session.receive services arrival.windows arrival.now arrival.incoming).1 with
      | .error _ => []
      | .ok (rawMessage, envelope) => session.deliveryLog runes services texts envelope rawMessage arrival)

end Data

def controls : List UInt8 := [0x0d, 0x0a, 0x1b]

def Plain (text : Bytes) : Prop := ∀ b ∈ text, b ∉ controls

def Unforged (line : LogLine) : Prop := ∀ piece ∈ line, piece.foreign = true → Plain piece.text

instance (text : Bytes) : Decidable (Plain text) := inferInstanceAs (Decidable (∀ b ∈ text, b ∉ controls))

instance (line : LogLine) : Decidable (Unforged line) :=
  inferInstanceAs (Decidable (∀ piece ∈ line, piece.foreign = true → Plain piece.text))

theorem controls_low (b : UInt8) (member : b ∈ controls) : b.toNat < 0x20 := by
  simp only [controls, List.mem_cons, List.not_mem_nil, or_false] at member
  rcases member with rfl | rfl | rfl <;> decide

theorem written_clean (c : Char) : ∀ b ∈ written (.rune (String.utf8EncodeChar c)), 0x20 ≤ b.toNat ∧ b ≠ 0x7f := by
  intro b member
  obtain ⟨first, others, encoded⟩ := Utf8.encoded_cons c
  have alone : b ∈ first :: others → b.toNat < 0x80 → b = first := by
    intro inside low
    have single := Utf8.encoded_alone c b (encoded ▸ inside) low
    rw [encoded] at single
    exact (List.cons.inj single).1.symm
  rw [encoded] at member
  simp only [written] at member
  split at member
  · rw [List.mem_singleton.mp member]
    decide
  · split at member
    · cases member
    · rename_i kept
      by_cases low : b.toNat < 0x80
      · rw [alone member low]
        exact ⟨by omega, fun deleted => kept (Or.inr deleted)⟩
      · exact ⟨by omega, fun deleted => low (by rw [deleted]; decide)⟩

theorem runes_clean (s : Bytes) : ∀ b ∈ (Utf8.items s).flatMap written, 0x20 ≤ b.toNat ∧ b ≠ 0x7f := by
  intro b member
  induction s using Utf8.rune_induction with
  | nil => cases member
  | stray first rest stray ih =>
      rw [Utf8.items_stray first rest stray, List.flatMap_cons] at member
      rcases List.mem_append.mp member with replaced | later
      · simp only [written, List.mem_cons, List.not_mem_nil, or_false] at replaced
        rcases replaced with rfl | rfl | rfl <;> decide
      · exact ih later
  | rune c rest ih =>
      rw [Utf8.items_encoded, List.flatMap_cons] at member
      rcases List.mem_append.mp member with here | later
      · exact written_clean c b here
      · exact ih later

theorem sanitize_for_log_clean (s : Bytes) : ∀ b ∈ sanitizeForLog s, 0x20 ≤ b.toNat ∧ b ≠ 0x7f := by
  intro b member
  unfold sanitizeForLog at member
  dsimp only at member
  split at member
  · rcases List.mem_append.mp member with cut | dots
    · exact runes_clean s b (List.mem_of_mem_take cut)
    · simp only [ellipsis, List.mem_cons, List.not_mem_nil, or_false, or_self] at dots
      rw [dots]
      decide
  · exact runes_clean s b member

theorem sanitized_plain (s : Bytes) : Plain (sanitizeForLog s) := by
  intro b member control
  have low := controls_low b control
  have kept := sanitize_for_log_clean s b member
  omega

theorem plain_iff (text : String) : Plain (utf8 text) ↔ ∀ c ∈ text.toList, c.val.toNat ∉ controls.map UInt8.toNat := by
  unfold Plain utf8
  constructor
  · intro plain c member control
    obtain ⟨b, listed, value⟩ := List.mem_map.mp control
    have low := controls_low b listed
    exact plain b ((Utf8.encode_ascii _ b (by omega)).mpr ⟨c, member, value.symm⟩) listed
  · intro plain b member control
    have low := controls_low b control
    obtain ⟨c, inside, value⟩ := (Utf8.encode_ascii _ b (by omega)).mp member
    exact plain c inside (value ▸ List.mem_map_of_mem control)

@[simp] theorem unforged_cons_own (text : String) (line : LogLine) : Unforged (own text :: line) ↔ Unforged line := by
  simp [Unforged, own]

@[simp] theorem unforged_cons_cleaned (text : String) (line : LogLine) : Unforged (cleaned text :: line) ↔ Unforged line := by
  simp [Unforged, cleaned, sanitized_plain]

@[simp] theorem unforged_cons_raw (text : String) (line : LogLine) :
    Unforged (raw text :: line) ↔ Plain (utf8 text) ∧ Unforged line := by
  simp [Unforged, raw]

@[simp] theorem unforged_nil : Unforged [] := by
  simp [Unforged]

@[simp] theorem unforged_append (first second : LogLine) : Unforged (first ++ second) ↔ Unforged first ∧ Unforged second := by
  simp only [Unforged, List.mem_append, or_imp, forall_and]

@[simp] theorem unforged_line (session : Session) (pieces : List Piece) : Unforged (session.line pieces) ↔ Unforged pieces :=
  unforged_cons_own _ pieces

@[simp] theorem unforged_listed (texts : List String) : Unforged (listed texts) ↔ ∀ text ∈ texts, Plain (utf8 text) := by
  induction texts using listed.induct with
  | case1 => simp [listed, unforged_nil]
  | case2 one => simp [listed, unforged_cons_raw, unforged_nil]
  | case3 one rest more ih =>
      rw [listed, unforged_cons_raw, unforged_cons_own, ih, List.forall_mem_cons]
      exact more

-- net/mail yields no control characters, neither in an address nor in an error
-- (it quotes what it complains about), and lowercasing makes none.
structure QuietMail (runes : Runes) (parseAddress : String → Option String) (texts : LogTexts) : Prop where
  address : ∀ recipient address, parseAddress recipient = some address → Plain (utf8 address)
  refusal : ∀ recipient, parseAddress recipient = none → Plain (utf8 (texts.addressError recipient))
  lowered : ∀ c, (runes.toLower c).val.toNat ∈ controls.map UInt8.toNat → c.val.toNat ∈ controls.map UInt8.toNat

section Lines

variable {Content Hash IP Id : Type} [DecidableEq Hash] (runes : Runes) (loader : Loader Content Hash)
variable (parseAddress : String → Option String) (services : Services IP) (texts : LogTexts)

section Quiet

variable (quiet : QuietMail runes parseAddress texts)

include quiet

omit [DecidableEq Hash] in
theorem plain_lower (text : String) (plain : Plain (utf8 text)) : Plain (utf8 (runes.lower text)) := by
  rw [plain_iff] at plain ⊢
  intro c member control
  rw [Runes.lower, Text.map_chars_list] at member
  obtain ⟨d, inside, same⟩ := List.mem_map.mp member
  exact plain d inside (quiet.lowered d (same ▸ control))

theorem located_plain (address domain : String) (plain : Plain (utf8 address))
    (located : recipientDomain runes address = some domain) : Plain (utf8 domain) := by
  rw [recipientDomain] at located
  split at located
  · rename_i mailbox host split
    cases located
    apply plain_lower runes parseAddress texts quiet
    rw [plain_iff] at plain ⊢
    intro c member
    rw [String.toList_ofList] at member
    apply plain c
    rw [((Text.split_pair_iff '@' _ mailbox host).mp split).1]
    exact List.mem_append_right _ (List.mem_cons_of_mem _ member)
  · cases located

theorem mailbox_unforged (session : Session) (address : String) (addressExists : String → Option Bool)
    (plain : Plain (utf8 address)) : ∀ line ∈ session.mailboxLog runes texts address addressExists, Unforged line := by
  have lowered := plain_lower runes parseAddress texts quiet address plain
  intro line member
  unfold Session.mailboxLog at member
  dsimp only at member
  split at member
  · simp [List.mem_singleton.mp member, lowered]
  · simp [List.mem_singleton.mp member, lowered]
  · split at member <;> simp [List.mem_singleton.mp member, lowered, plain]

theorem rcpt_unforged (session : Session) (recipient : String) (addressExists : String → Option Bool) (file : Option Content)
    (watched : Watched Hash) :
    ∀ line ∈ session.rcptLog runes loader parseAddress texts recipient addressExists file watched, Unforged line := by
  intro line member
  rcases List.mem_cons.mp member with first | rest
  · simp [first]
  · cases parsed : parseAddress recipient with
    | none =>
        rw [parsed] at rest
        simp [List.mem_singleton.mp rest, quiet.refusal recipient parsed]
    | some address =>
        have plain := quiet.address recipient address parsed
        cases located : recipientDomain runes address with
        | none =>
            simp only [parsed, located] at rest
            simp [List.mem_singleton.mp rest, plain]
        | some domain =>
            have domain_plain := located_plain runes parseAddress texts quiet address domain plain located
            simp only [parsed, located] at rest
            split at rest
            · rcases List.mem_append.mp rest with reloaded | answered
              · split at reloaded
                · cases reloaded
                · simp [List.mem_singleton.mp reloaded, domain_plain]
              · exact mailbox_unforged runes parseAddress texts quiet _ address addressExists plain line answered
            · simp [List.mem_singleton.mp rest, domain_plain]

end Quiet

-- What one StoreEmail writes raw: the Message-ID once the row is in, and the
-- name of each attachment whose row is in.
structure PlainStore (calls : StoreCalls Id) (recipient messageID : String) (attachments : List AttachmentData) : Prop where
  message : calls.begins = true → calls.insertEmail = true → Plain (utf8 messageID)
  files : calls.begins = true → calls.insertEmail = true →
    (∃ addressID, calls.selectAddress (runes.lower recipient) = some (some addressID)) → calls.insertRecipient = true →
    ∀ index attachment, attachments[index]? = some attachment →
      (∀ earlier ≤ index, calls.insertAttachment earlier = true) → Plain (utf8 attachment.filename)

def PlainStores (recipients : List String) (calls : Nat → StoreCalls Id) (messageID : String)
    (attachments : List AttachmentData) : Prop :=
  ∀ position recipient, recipients[position]? = some recipient →
    (∀ earlier other, earlier < position → recipients[earlier]? = some other →
      (calls earlier).Succeeds runes other attachments.length) →
    PlainStore runes (calls position) recipient messageID attachments

structure PlainData (session : Session) (arrival : Arrival Id) : Prop where
  sender : Plain (utf8 session.fromAddr)
  stores : ∀ rawMessage envelope,
    (session.receive services arrival.windows arrival.now arrival.incoming).1 = .ok (rawMessage, envelope) →
      PlainStores runes session.recipients arrival.calls (envelope.getHeader "Message-ID") (extractAttachments envelope)

def PlainList (recipients : List String) : Prop :=
  ∀ recipient ∈ recipients, Plain (utf8 recipient) ∧ Plain (utf8 (runes.lower recipient))

theorem attachments_unforged_iff (calls : StoreCalls Id) (start : Nat) (attachments : List AttachmentData) :
    (∀ line ∈ attachmentsLog calls start attachments, Unforged line) ↔
      ∀ index attachment, attachments[index]? = some attachment →
        (∀ earlier ≤ index, calls.insertAttachment (start + earlier) = true) → Plain (utf8 attachment.filename) := by
  induction attachments generalizing start with
  | nil => simp [attachmentsLog]
  | cons attachment rest ih =>
      rw [attachmentsLog]
      by_cases failed : calls.insertAttachment start = false
      · rw [if_pos failed]
        refine ⟨fun _ index other _ inserted => ?_, fun _ => nofun⟩
        have first := inserted 0 (Nat.zero_le _)
        rw [Nat.add_zero, failed] at first
        cases first
      · rw [if_neg failed, List.forall_mem_cons, ih]
        rw [Bool.not_eq_false] at failed
        simp only [unforged_cons_own, unforged_cons_raw, unforged_nil, and_true]
        constructor
        · rintro ⟨here, later⟩ index other found inserted
          cases index with
          | zero =>
              cases found
              exact here
          | succ index =>
              refine later index other found (fun earlier before => ?_)
              rw [Nat.add_right_comm]
              exact inserted (earlier + 1) (by omega)
        · intro plain
          refine ⟨plain 0 attachment rfl (fun earlier before => ?_), fun index other found inserted => ?_⟩
          · rw [Nat.le_zero.mp before]
            exact failed
          · refine plain (index + 1) other found (fun earlier before => ?_)
            cases earlier with
            | zero => exact failed
            | succ earlier =>
                rw [← Nat.add_assoc, ← Nat.add_right_comm]
                exact inserted earlier (by omega)

theorem linked_unforged_iff (calls : StoreCalls Id) (email : EmailData) (attachments : List AttachmentData) :
    (∀ line ∈ linkedLog runes calls email attachments, Unforged line) ↔
      ((∃ addressID, calls.selectAddress (runes.lower email.toAddr) = some (some addressID)) → calls.insertRecipient = true →
        ∀ line ∈ attachmentsLog calls 0 attachments, Unforged line) := by
  unfold linkedLog getAddress
  dsimp only
  generalize calls.selectAddress (runes.lower email.toAddr) = selected
  cases selected with
  | none => simp
  | some row =>
      cases row with
      | none => simp
      | some addressID => cases linked : calls.insertRecipient <;> simp

theorem store_email_unforged_iff (calls : StoreCalls Id) (email : EmailData) (attachments : List AttachmentData) :
    (∀ line ∈ storeEmailLog runes texts calls email attachments, Unforged line) ↔
      PlainStore runes calls email.toAddr email.messageID attachments := by
  have listed := attachments_unforged_iff calls 0 attachments
  simp only [Nat.zero_add] at listed
  unfold storeEmailLog
  by_cases started : calls.begins = false
  · rw [if_pos started]
    exact ⟨fun _ => ⟨by simp [started], by simp [started]⟩, fun _ => nofun⟩
  · rw [if_neg started]
    by_cases inserted : calls.insertEmail = false
    · rw [if_pos inserted]
      exact ⟨fun _ => ⟨by simp [inserted], by simp [inserted]⟩, fun _ => nofun⟩
    · rw [if_neg inserted, List.forall_mem_cons, linked_unforged_iff, listed]
      rw [Bool.not_eq_false] at started inserted
      simp only [unforged_cons_own, unforged_cons_raw, unforged_nil, and_true]
      exact ⟨fun both => ⟨fun _ _ => both.1, fun _ _ => both.2⟩, fun plain => ⟨plain.message started inserted,
        plain.files started inserted⟩⟩

theorem plain_stores_cons (recipient : String) (rest : List String) (calls : Nat → StoreCalls Id) (messageID : String)
    (attachments : List AttachmentData) :
    PlainStores runes (recipient :: rest) calls messageID attachments ↔
      PlainStore runes (calls 0) recipient messageID attachments ∧
        ((calls 0).Succeeds runes recipient attachments.length →
          PlainStores runes rest (fun position => calls (position + 1)) messageID attachments) := by
  constructor
  · intro plain
    refine ⟨plain 0 recipient rfl (fun earlier other before => absurd before (by omega)), ?_⟩
    intro stored position other found reached
    refine plain (position + 1) other found (fun earlier another before there => ?_)
    cases earlier with
    | zero =>
        cases there
        exact stored
    | succ earlier => exact reached earlier another (by omega) there
  · rintro ⟨head, tail⟩ position other found reached
    cases position with
    | zero =>
        cases found
        exact head
    | succ position =>
        exact tail (reached 0 recipient (by omega) rfl) position other found
          (fun earlier another before there => reached (earlier + 1) another (by omega) there)

theorem error_pieces (reason : StoreError) (calls : StoreCalls Id) (email : EmailData) (attachments : List AttachmentData)
    (failed : (storeEmail runes calls email attachments).1 = .error reason) (plain : Plain (utf8 (runes.lower email.toAddr))) :
    Unforged (reason.pieces texts) := by
  cases reason with
  | addressDoesNotExist missing =>
      rw [((store_missing_iff runes calls email attachments missing).mp failed).2.2.2]
      simp [StoreError.pieces, plain]
  | _ => simp [StoreError.pieces]

theorem stores_unforged_iff (session : Session) (emailData : EmailData) (attachments : List AttachmentData)
    (recipients : List String) (calls : Nat → StoreCalls Id)
    (plain : PlainList runes recipients) :
    (∀ line ∈ session.storesLog runes texts emailData attachments recipients calls, Unforged line) ↔
      PlainStores runes recipients calls emailData.messageID attachments := by
  induction recipients generalizing calls with
  | nil => simp [Session.storesLog, PlainStores]
  | cons recipient rest ih =>
      have known := plain recipient List.mem_cons_self
      have later := ih (fun position => calls (position + 1)) (fun other member => plain other (List.mem_cons_of_mem _ member))
      rw [Session.storesLog, List.forall_mem_append, plain_stores_cons, store_email_unforged_iff]
      refine and_congr_right (fun _ => ?_)
      rcases store_email_cases runes (calls 0) { emailData with toAddr := recipient } attachments with
        ⟨succeeds, committed, stored, -⟩ | ⟨-, fails, reason, stored⟩ | ⟨-, fails, committed, stored⟩
      · rw [stored, List.forall_mem_cons, later]
        simp [known, succeeds]
      · have pieces := error_pieces runes texts reason (calls 0) _ attachments (congrArg Prod.fst stored) known.2
        rw [stored]
        simp [known, fails, pieces]
      · rw [stored]
        simp [known, fails, StoreError.pieces]

theorem intake_unforged (session : Session) (arrival : Arrival Id) :
    ∀ line ∈ session.intakeLog services texts arrival, Unforged line := by
  intro line member
  unfold Session.intakeLog at member
  dsimp only at member
  split at member
  · simp [List.mem_singleton.mp member]
  · split at member
    · simp [List.mem_singleton.mp member]
    · rcases List.mem_cons.mp member with first | rest
      · simp [first]
      · split at rest
        · simp [List.mem_singleton.mp rest]
        · split at rest
          · simp [List.mem_singleton.mp rest]
          · split at rest
            · simp [List.mem_singleton.mp rest]
            · cases rest

theorem composed_message (session : Session) (envelope : Envelope) (rawMessage : Bytes) (receivedAt : Time) :
    (session.composeEmail runes services envelope rawMessage receivedAt).messageID = envelope.getHeader "Message-ID" := by
  rw [Session.composeEmail]
  cases session.validator <;> rfl

theorem delivery_unforged_iff (session : Session) (envelope : Envelope) (rawMessage : Bytes) (arrival : Arrival Id)
    (plain : PlainList runes session.recipients) :
    (∀ line ∈ session.deliveryLog runes services texts envelope rawMessage arrival, Unforged line) ↔
      PlainStores runes session.recipients arrival.calls (envelope.getHeader "Message-ID") (extractAttachments envelope) := by
  rw [Session.deliveryLog, List.forall_mem_append, List.forall_mem_cons, stores_unforged_iff runes texts session _ _ _ _ plain,
    composed_message]
  cases session.validator <;> simp

theorem data_unforged_iff (session : Session) (arrival : Arrival Id)
    (plain : PlainList runes session.recipients) :
    (∀ line ∈ session.dataLog runes services texts arrival, Unforged line) ↔ PlainData runes services session arrival := by
  have intake := intake_unforged services texts session arrival
  have recipients : ∀ recipient ∈ session.recipients, Plain (utf8 recipient) := fun recipient member => (plain recipient member).1
  have opening : Unforged (session.line ([own "DATA: ", raw session.fromAddr, own " -> ["] ++ listed session.recipients ++
      [own "]"])) ↔ Plain (utf8 session.fromAddr) := by
    simpa using fun _ => recipients
  rw [Session.dataLog, List.forall_mem_cons, List.forall_mem_append, opening]
  cases received : (session.receive services arrival.windows arrival.now arrival.incoming).1 with
  | error refusal =>
      constructor
      · intro lines
        exact ⟨lines.1, by simp [received]⟩
      · intro plainData
        exact ⟨plainData.sender, intake, nofun⟩
  | ok found =>
      obtain ⟨rawMessage, envelope⟩ := found
      dsimp only
      rw [delivery_unforged_iff runes services texts session envelope rawMessage arrival plain]
      constructor
      · rintro ⟨sender, -, stores⟩
        refine ⟨sender, fun other body same => ?_⟩
        rw [received] at same
        cases same
        exact stores
      · intro plainData
        exact ⟨plainData.sender, intake, plainData.stores rawMessage envelope received⟩

def Session.commandLog (session : Session) : Command Content Hash → List LogLine
  | .mail sender => session.mailLog sender
  | .rcpt recipient addressExists file watched =>
      session.rcptLog runes loader parseAddress texts recipient addressExists file watched
  | .reset => session.resetLog

def journal : Machine Session (Call Content Hash Id) (List LogLine) where
  step session call := match call with
    | .command command =>
        (session.command runes loader parseAddress command, session.commandLog runes loader parseAddress texts command)
    | .data arrival => (session, session.dataLog runes services texts arrival)

def PlainCall (session : Session) : Call Content Hash Id → Prop
  | .command _ => True
  | .data arrival => PlainData runes services session arrival

variable (quiet : QuietMail runes parseAddress texts)

include quiet

theorem command_plain (session : Session) (command : Command Content Hash) (plain : PlainList runes session.recipients) :
    PlainList runes (session.command runes loader parseAddress command).recipients := by
  cases command with
  | mail sender => exact nofun
  | reset => exact nofun
  | rcpt recipient addressExists file watched =>
      rw [Session.command]
      cases answered : (session.rcpt runes loader parseAddress addressExists recipient file watched).1 with
      | error refusal =>
          rw [rcpt_refused runes loader parseAddress session addressExists recipient file watched refusal answered]
          exact plain
      | ok passed =>
          obtain ⟨address, domain, parsed, -, -, -, grown⟩ :=
            rcpt_accepted runes loader parseAddress session addressExists recipient file watched answered
          have lowered := plain_lower runes parseAddress texts quiet address (quiet.address recipient address parsed)
          rw [grown]
          split
          · exact plain
          · intro entry member
            rcases List.mem_append.mp member with old | new
            · exact plain entry old
            · rw [List.mem_singleton.mp new]
              exact ⟨lowered, plain_lower runes parseAddress texts quiet _ lowered⟩

theorem call_unforged_iff (session : Session) (call : Call Content Hash Id) (plain : PlainList runes session.recipients) :
    (∀ line ∈ ((journal runes loader parseAddress services texts).step session call).2, Unforged line) ↔
      PlainCall runes services session call := by
  cases call with
  | data arrival => exact data_unforged_iff runes services texts session arrival plain
  | command command =>
      refine iff_of_true ?_ trivial
      cases command with
      | mail sender =>
          intro line member
          simp [List.mem_singleton.mp member]
      | reset =>
          intro line member
          simp [List.mem_singleton.mp member]
      | rcpt recipient addressExists file watched =>
          exact rcpt_unforged runes loader parseAddress texts quiet session recipient addressExists file watched

-- Over every run of a new session.
theorem log_unforged_iff (remoteAddr hostname : String) (backend : Config) (current : Option Config)
    (validator : Option Validator)
    (calls : List (Call Content Hash Id)) :
    (∀ turn ∈ (journal runes loader parseAddress services texts).trace
        (newSession runes remoteAddr hostname backend current validator) calls, ∀ line ∈ turn.answer, Unforged line) ↔
      ∀ turn ∈ (journal runes loader parseAddress services texts).trace
        (newSession runes remoteAddr hostname backend current validator) calls,
          PlainCall runes services turn.before turn.event := by
  refine Machine.trace_forall_iff (journal runes loader parseAddress services texts)
    (fun session => PlainList runes session.recipients) (fun _ => True) (fun moment => ∀ line ∈ moment.answer, Unforged line)
    (fun moment => PlainCall runes services moment.before moment.event) ?_ ?_ _ calls (fun _ _ => trivial) nofun
  · intro session call _ plain
    cases call with
    | command command => exact command_plain runes loader parseAddress texts quiet session command plain
    | data arrival => exact plain
  · intro session call _ plain
    exact call_unforged_iff runes loader parseAddress services texts quiet session call plain

end Lines

theorem ascii_quiet (c : Char) (control : (asciiRunes.toLower c).val.toNat ∈ controls.map UInt8.toNat) :
    c.val.toNat ∈ controls.map UInt8.toNat := by
  by_cases upper : c.isUpper = true
  · have code : (asciiRunes.toLower c).val.toNat = c.toNat + 32 := Text.lower_code c upper
    rw [code] at control
    simp only [controls, List.map_cons, List.map_nil, List.mem_cons, List.not_mem_nil, or_false] at control
    have bytes : (0x0d : UInt8).toNat = 13 ∧ (0x0a : UInt8).toNat = 10 ∧ (0x1b : UInt8).toNat = 27 := by decide
    omega
  · rwa [show asciiRunes.toLower c = c from Text.lower_same c upper] at control

def quotedTexts : LogTexts where
  addressError _ := "mail: missing '@' or angle-addr"
  readError := "unexpected EOF"
  envelopeError _ := "malformed MIME header"
  databaseError := "connection refused"
  emailID := "7f0c"

def plainAddress (address : String) : Option String := if Plain (utf8 address) then some address else none

theorem plain_quiet : QuietMail asciiRunes plainAddress quotedTexts := by
  have refusal : Plain (utf8 "mail: missing '@' or angle-addr") := by decide +kernel
  refine ⟨?_, fun _ _ => refusal, ascii_quiet⟩
  intro recipient address parsed
  unfold plainAddress at parsed
  split at parsed
  · rename_i plain
    cases parsed
    exact plain
  · cases parsed

def sentServices (messageID fileName : String) : Services String :=
  { quietServices with
    readEnvelope := fun _ => some
      { getHeader := fun header => if header = "Message-ID" then messageID else ""
        rootHeader := []
        text := "hello"
        html := ""
        attachments := [⟨fileName, "text/plain", []⟩]
        inlines := [] } }

theorem sent_plain (session : Session) (arrival : Arrival Nat) (messageID fileName : String)
    (sender : Plain (utf8 session.fromAddr)) (message : Plain (utf8 messageID)) (file : Plain (utf8 fileName)) :
    PlainData asciiRunes (sentServices messageID fileName) session arrival := by
  refine ⟨sender, fun rawMessage envelope received => ?_⟩
  have parsed := ((receive_ok_iff _ session arrival.windows arrival.now arrival.incoming rawMessage envelope).mp received).2.2.2
  cases parsed
  intro position recipient _ _
  refine ⟨fun _ _ => message, fun _ _ _ _ index attachment found _ => ?_⟩
  have only := List.mem_singleton.mp (List.mem_of_getElem? found)
  rw [only]
  exact file

theorem forged_line : ¬ ∀ turn ∈ (journal asciiRunes silentLoader plainAddress
      (sentServices "<1@sender.test>\r\n2024/05/01 09:00:00 [192.0.2.1] SUCCESS" "a.txt") quotedTexts).trace
        newsletterSession newsletterCalls, ∀ line ∈ turn.answer, Unforged line := by
  decide +kernel

theorem newsletter_unforged : QuietMail asciiRunes plainAddress quotedTexts ∧
    ∀ turn ∈ (journal asciiRunes silentLoader plainAddress (sentServices "<1@sender.test>" "a.txt") quotedTexts).trace
      newsletterSession newsletterCalls, ∀ line ∈ turn.answer, Unforged line := by
  refine ⟨plain_quiet, (log_unforged_iff asciiRunes silentLoader plainAddress (sentServices "<1@sender.test>" "a.txt") quotedTexts
    plain_quiet "203.0.113.5:4000" "mx.sender.test"
      (withDefaults { domains := ["first.test"] }) none none newsletterCalls).mpr ?_⟩
  intro turn member
  change turn ∈ [_, _, _, _] at member
  simp only [List.mem_cons, List.not_mem_nil, or_false] at member
  rcases member with rfl | rfl | rfl | rfl
  · trivial
  · trivial
  · trivial
  · exact sent_plain _ _ _ _ (by decide +kernel) (by decide +kernel) (by decide +kernel)

end Tempmail.Mx
