import Tempmail.Mx.Data

set_option autoImplicit false

namespace Tempmail.Mx

-- truncateRunes cuts on a rune boundary, so it keeps the longest run of whole
-- runes that fits.
def truncateRunes : List Char → Nat → List Char
  | [], _ => []
  | c :: rest, maxBytes => if c.utf8Size ≤ maxBytes then c :: truncateRunes rest (maxBytes - c.utf8Size) else []

-- The strings of the model are valid UTF-8, so ToValidUTF8 has nothing to replace.
def sanitizeText (value : String) (maxLen : Nat) : String :=
  let chars := value.toList.filter (· ≠ '\x00')
  String.ofList (if maxLen > 0 then truncateRunes chars maxLen else chars)

inductive CommitOutcome where
  | done
  | failed
  | unconfirmed
deriving DecidableEq, Repr

-- How the database answers the calls of one StoreEmail. An unconfirmed commit
-- took effect although the client only saw an error.
structure StoreCalls (Id : Type) where
  begins : Bool
  insertEmail : Bool
  selectAddress : String → Option (Option Id)
  insertRecipient : Bool
  insertAttachment : Nat → Bool
  commit : CommitOutcome

inductive StoreError where
  | begins
  | insertEmail
  | addressDoesNotExist (email : String)
  | queryAddress
  | linkEmail
  | insertAttachment (index : Nat)
  | commit
deriving DecidableEq, Repr

-- What one committed transaction leaves: an emails row, its link to the
-- address row whose email is mailbox, and the attachments rows.
structure Committed (Id : Type) where
  mailbox : String
  addressID : Id
  email : EmailData
  attachments : List AttachmentData
deriving DecidableEq, Repr

def EmailData.sanitized (email : EmailData) : EmailData :=
  { email with
    messageID := sanitizeText email.messageID 255
    subject := sanitizeText email.subject 998
    fromAddr := sanitizeText email.fromAddr 255
    toAddr := sanitizeText email.toAddr 255
    rawHeaders := sanitizeText email.rawHeaders 0
    bodyPlain := sanitizeText email.bodyPlain 0
    bodyHTML := sanitizeText email.bodyHTML 0 }

def AttachmentData.sanitized (attachment : AttachmentData) : AttachmentData :=
  { attachment with
    filename := sanitizeText attachment.filename 255
    contentType := sanitizeText attachment.contentType 127 }

variable {Id : Type} (runes : Runes)

def getAddress (calls : StoreCalls Id) (email : String) : Except StoreError Id :=
  let normalizedEmail := runes.lower email
  match calls.selectAddress normalizedEmail with
  | none => .error .queryAddress
  | some none => .error (.addressDoesNotExist normalizedEmail)
  | some (some addressID) => .ok addressID

def insertAttachments (calls : StoreCalls Id) (attachments : List AttachmentData) : Except StoreError Unit :=
  match (List.range attachments.length).find? (fun index => !calls.insertAttachment index) with
  | none => .ok ()
  | some index => .error (.insertAttachment index)

-- Every statement before Commit runs inside the transaction; the deferred
-- Rollback undoes it when one fails.
def StoreCalls.transaction (calls : StoreCalls Id) (email : EmailData) (attachments : List AttachmentData) :
    Except StoreError (Committed Id) :=
  if calls.begins = false then .error .begins
  else if calls.insertEmail = false then .error .insertEmail
  else
    match getAddress runes calls email.toAddr with
    | .error reason => .error reason
    | .ok addressID =>
        if calls.insertRecipient = false then .error .linkEmail
        else
          match insertAttachments calls attachments with
          | .error reason => .error reason
          | .ok () =>
              .ok ⟨runes.lower email.toAddr, addressID, email.sanitized, attachments.map AttachmentData.sanitized⟩

def storeEmail (calls : StoreCalls Id) (email : EmailData) (attachments : List AttachmentData) :
    Except StoreError Unit × Option (Committed Id) :=
  match calls.transaction runes email attachments with
  | .error reason => (.error reason, none)
  | .ok committed =>
      match calls.commit with
      | .done => (.ok (), some committed)
      | .failed => (.error .commit, none)
      | .unconfirmed => (.error .commit, some committed)

def StoreCalls.Ready (calls : StoreCalls Id) (recipient : String) (attachments : Nat) : Prop :=
  calls.begins = true ∧ calls.insertEmail = true ∧
    (∃ addressID, calls.selectAddress (runes.lower recipient) = some (some addressID)) ∧
    calls.insertRecipient = true ∧ ∀ index < attachments, calls.insertAttachment index = true

def StoreCalls.Succeeds (calls : StoreCalls Id) (recipient : String) (attachments : Nat) : Prop :=
  calls.Ready runes recipient attachments ∧ calls.commit = .done

def StoreCalls.LeavesNothing (calls : StoreCalls Id) (recipient : String) (attachments : Nat) : Prop :=
  ¬ calls.Ready runes recipient attachments ∨ calls.commit = .failed

theorem insert_attachments_ok_iff (calls : StoreCalls Id) (attachments : List AttachmentData) :
    insertAttachments calls attachments = .ok () ↔ ∀ index < attachments.length, calls.insertAttachment index = true := by
  unfold insertAttachments
  cases failing : (List.range attachments.length).find? (fun index => !calls.insertAttachment index) with
  | none =>
      rw [List.find?_eq_none] at failing
      simpa using failing
  | some index =>
      have refused := List.find?_some failing
      have inside := List.mem_of_find?_eq_some failing
      simp only [reduceCtorEq, false_iff, not_forall]
      exact ⟨index, List.mem_range.mp inside, by simpa using refused⟩

theorem transaction_ok_iff (calls : StoreCalls Id) (email : EmailData) (attachments : List AttachmentData) :
    (∃ committed, calls.transaction runes email attachments = .ok committed) ↔
      calls.Ready runes email.toAddr attachments.length := by
  unfold StoreCalls.transaction StoreCalls.Ready getAddress
  rw [← insert_attachments_ok_iff]
  cases calls.begins <;> cases calls.insertEmail <;> try simp
  cases selected : calls.selectAddress (runes.lower email.toAddr) with
  | none => simp
  | some row =>
      cases row with
      | none => simp
      | some addressID =>
          cases calls.insertRecipient
          · simp
          · cases insertAttachments calls attachments <;> simp

theorem transaction_built (calls : StoreCalls Id) (email : EmailData) (attachments : List AttachmentData)
    (committed : Committed Id) (built : calls.transaction runes email attachments = .ok committed) :
    calls.insertEmail = true ∧ calls.selectAddress (runes.lower email.toAddr) = some (some committed.addressID) ∧
      committed = ⟨runes.lower email.toAddr, committed.addressID, email.sanitized, attachments.map AttachmentData.sanitized⟩ := by
  unfold StoreCalls.transaction getAddress at built
  split at built
  · cases built
  · split at built
    · cases built
    · rename_i inserted
      cases selected : calls.selectAddress (runes.lower email.toAddr) with
      | none => simp [selected] at built
      | some row =>
          cases row with
          | none => simp [selected] at built
          | some addressID =>
              simp only [selected] at built
              split at built
              · cases built
              · split at built
                · cases built
                · cases built
                  exact ⟨by simpa using inserted, rfl, rfl⟩

theorem transaction_mailbox (calls : StoreCalls Id) (email : EmailData) (attachments : List AttachmentData)
    (committed : Committed Id) (built : calls.transaction runes email attachments = .ok committed) :
    committed.mailbox = runes.lower email.toAddr := by
  rw [(transaction_built runes calls email attachments committed built).2.2]

theorem store_email_committed (calls : StoreCalls Id) (email : EmailData) (attachments : List AttachmentData)
    (committed : Committed Id) (stored : (storeEmail runes calls email attachments).2 = some committed) :
    calls.transaction runes email attachments = .ok committed := by
  unfold storeEmail at stored
  cases built : calls.transaction runes email attachments with
  | error reason => simp [built] at stored
  | ok whole =>
      rw [built] at stored
      dsimp only at stored
      split at stored <;> simp_all

theorem insert_attachments_error (calls : StoreCalls Id) (attachments : List AttachmentData) (reason : StoreError)
    (failed : insertAttachments calls attachments = .error reason) : ∃ index, reason = .insertAttachment index := by
  unfold insertAttachments at failed
  split at failed
  · cases failed
  · cases failed
    exact ⟨_, rfl⟩

theorem store_missing_iff (calls : StoreCalls Id) (email : EmailData) (attachments : List AttachmentData) (missing : String) :
    (storeEmail runes calls email attachments).1 = .error (.addressDoesNotExist missing) ↔
      calls.begins = true ∧ calls.insertEmail = true ∧ calls.selectAddress (runes.lower email.toAddr) = some none ∧
        missing = runes.lower email.toAddr := by
  unfold storeEmail StoreCalls.transaction getAddress
  dsimp only
  cases calls.begins
  · simp
  · cases calls.insertEmail
    · simp
    · generalize calls.selectAddress (runes.lower email.toAddr) = selected
      cases selected with
      | none => simp
      | some row =>
          cases row with
          | none => simp [eq_comm]
          | some addressID =>
              cases calls.insertRecipient
              · simp
              · cases inserted : insertAttachments calls attachments with
                | error reason =>
                    obtain ⟨index, rfl⟩ := insert_attachments_error calls attachments reason inserted
                    simp
                | ok done => cases calls.commit <;> simp

theorem store_email_cases (calls : StoreCalls Id) (email : EmailData) (attachments : List AttachmentData) :
    (calls.Succeeds runes email.toAddr attachments.length ∧ ∃ committed,
      storeEmail runes calls email attachments = (.ok (), some committed) ∧ committed.mailbox = runes.lower email.toAddr) ∨
    (calls.LeavesNothing runes email.toAddr attachments.length ∧ ¬ calls.Succeeds runes email.toAddr attachments.length ∧
      ∃ reason, storeEmail runes calls email attachments = (.error reason, none)) ∨
    (¬ calls.LeavesNothing runes email.toAddr attachments.length ∧
      ¬ calls.Succeeds runes email.toAddr attachments.length ∧
      ∃ committed, storeEmail runes calls email attachments = (.error .commit, some committed)) := by
  unfold storeEmail StoreCalls.Succeeds StoreCalls.LeavesNothing
  rw [← transaction_ok_iff]
  cases built : calls.transaction runes email attachments with
  | error reason => simp
  | ok committed =>
      have mailbox := transaction_mailbox runes calls email attachments committed built
      cases outcome : calls.commit with
      | done => exact Or.inl ⟨⟨⟨committed, rfl⟩, rfl⟩, committed, rfl, mailbox⟩
      | failed => simp
      | unconfirmed => simp

end Tempmail.Mx
