import Tempmail.Store.Schema

set_option autoImplicit false

namespace Tempmail.Store

def AddressRow.isExpired (row : AddressRow) (now : Time) : Bool :=
  match row.addressType, row.expiresAt with
  | .permanent, _ => false
  | .temp, none => false
  | .temp, some expiresAt => now > expiresAt

-- The rule AddressExists and getAddress share.
def AddressRow.active (row : AddressRow) (now : Time) : Bool :=
  match row.expiresAt with
  | none => true
  | some expiresAt => expiresAt > now

def Db.activeAddress (db : Db) (now : Time) (email : String) : Option Uuid :=
  (db.addresses.find? (fun row => row.email == email && row.active now)).map AddressRow.id

section StoreEmail

variable {IP : Type} (runes : Mx.Runes) (services : Mx.Services IP)

structure Delivery where
  session : Mx.Session
  envelope : Mx.Envelope
  rawMessage : Mx.Bytes
  receivedAt : Time
  recipient : String
  emailId : Uuid
  now : Time
  reachable : Bool
  insertAttachment : Nat → Bool
  commit : Mx.CommitOutcome

def Delivery.email (delivery : Delivery) : Mx.EmailData :=
  { delivery.session.composeEmail runes services delivery.envelope delivery.rawMessage delivery.receivedAt with
    toAddr := delivery.recipient }

def Delivery.attachments (delivery : Delivery) : List Mx.AttachmentData := Mx.extractAttachments delivery.envelope

def Db.calls (db : Db) (delivery : Delivery) : Mx.StoreCalls Uuid where
  begins := delivery.reachable
  insertEmail := !db.emails.any (fun row => row.id == delivery.emailId)
  selectAddress email := some (db.activeAddress delivery.now email)
  insertRecipient := true
  insertAttachment := delivery.insertAttachment
  commit := delivery.commit

def Db.insertCommitted (db : Db) (emailId : Uuid) (committed : Mx.Committed Uuid) : Db :=
  { db with
    emails := db.emails ++ [⟨emailId, committed.email⟩]
    recipients := db.recipients ++ [⟨emailId, committed.addressID⟩]
    attachments := db.attachments ++ committed.attachments.map (fun file => ⟨emailId, file⟩) }

def Db.storeEmail (db : Db) (delivery : Delivery) : Db :=
  match (Mx.storeEmail runes (db.calls delivery) (delivery.email runes services) delivery.attachments).2 with
  | none => db
  | some committed => db.insertCommitted delivery.emailId committed

end StoreEmail

def maxEmailsPerAddress (current : Option Mx.Config) : Nat :=
  match current with
  | none => 100
  | some cfg => if cfg.maxEmailsPerAddress > 0 then cfg.maxEmailsPerAddress.toNat else 100

-- The join of a mailbox's links with their emails, newest first. scan is the
-- order the executor meets the rows in; it decides between equal times.
def Db.newestFirst (db : Db) (addressId : Uuid) (scan : List RecipientRow → List RecipientRow) : List RecipientRow :=
  let joined := (scan (db.recipients.filter (fun link => link.addressId == addressId))).filterMap (fun link =>
    (db.emails.find? (fun row => row.id == link.emailId)).map (fun row => (link, row.data.receivedAt)))
  (joined.mergeSort (fun a b => b.2 ≤ a.2)).map Prod.fst

-- One statement: the outer DELETE sees the links as they were before the inner
-- one, so the orphans are left to the trigger.
def Db.enforceEmailLimit (db : Db) (addressId : Uuid) (current : Option Mx.Config)
    (scan : List RecipientRow → List RecipientRow) : Db :=
  let excess := (db.newestFirst addressId scan).drop (maxEmailsPerAddress current)
  let removed := db.recipients.filter (fun link => excess.contains link)
  let outer := db.dropEmails (fun row => removed.any (fun link => link.emailId == row.id) && !db.linked row.id)
  outer.deleteRecipients (fun link => excess.contains link)

def Db.deleteEmailByToken (db : Db) (token : String) (emailId : Uuid) (now : Time) : Db :=
  match db.addresses.find? (fun row => row.token == token) with
  | none => db
  | some address =>
      if address.isExpired now then db
      else if !db.recipients.contains ⟨emailId, address.id⟩ then db
      else
        let flushed := db.deleteRecipients (fun link => link == ⟨emailId, address.id⟩)
        if flushed.linked emailId then flushed
        else
          Db.deleteEmails { flushed with attachments := flushed.attachments.filter (fun file => file.emailId != emailId) }
            (fun row => row.id == emailId)

-- DELETE /admin/emails/{email_id}: the ORM deletes the links and the
-- attachments of the email before the email itself.
def Db.deleteEmail (db : Db) (emailId : Uuid) : Db :=
  if !db.emails.any (fun row => row.id == emailId) then db
  else
    let unlinked := db.deleteRecipients (fun link => link.emailId == emailId)
    Db.deleteEmails { unlinked with attachments := unlinked.attachments.filter (fun file => file.emailId != emailId) }
      (fun row => row.id == emailId)

-- db.delete(address): the ORM deletes the mailbox's links, then the address.
def Db.deleteAddress (db : Db) (addressId : Uuid) : Db :=
  (db.deleteRecipients (fun link => link.addressId == addressId)).deleteAddresses (fun row => row.id == addressId)

def Db.cleanupExpiredAddresses (db : Db) (now : Time) : Db :=
  db.deleteAddresses (fun row => row.expiresAt.any (fun expiresAt => expiresAt < now))

def Db.storageUsage (db : Db) : Nat := db.emails.foldr (fun row total => row.data.sizeBytes + total) 0

def overLimit (limitBytes : Nat) : Nat → List EmailRow → List Uuid
  | _, [] => []
  | cum, row :: rest =>
      let cum := cum + row.data.sizeBytes
      if cum > limitBytes then row.id :: overLimit limitBytes cum rest else overLimit limitBytes cum rest

def newerFirst (a b : EmailRow) : Bool :=
  b.data.receivedAt < a.data.receivedAt || (b.data.receivedAt == a.data.receivedAt && b.id ≤ a.id)

def Db.enforceStorageLimit (db : Db) (maxStorageMb : Int) : Db :=
  if maxStorageMb ≤ 0 then db
  else
    let limitBytes := maxStorageMb.toNat * 1024 * 1024
    if db.storageUsage ≤ limitBytes then db
    else
      let doomed := overLimit limitBytes 0 (db.emails.mergeSort newerFirst)
      db.deleteEmails (fun row => doomed.contains row.id)

def days (count : Int) : Time := count * 24 * Mx.hour

def earliest : Time := -62135596800 * Mx.second
def latest : Time := 253402300800 * Mx.second - 1000

def datetime (moment : Time) : Option Time := if earliest ≤ moment ∧ moment ≤ latest then some moment else none

-- A cutoff that cannot be computed raises before the first statement.
def Db.cleanupPermanentEmailRetention (db : Db) (retentionDays : Int) (now : Time) : Db :=
  if retentionDays ≤ 0 then db
  else
    match datetime (now - days retentionDays) with
    | none => db
    | some cutoff =>
        let unlinked := db.deleteRecipients (fun link =>
          db.emails.any (fun row => row.id == link.emailId && row.data.receivedAt < cutoff) &&
            db.addresses.any (fun row => row.id == link.addressId && row.addressType == .permanent))
        unlinked.deleteEmails (fun row => row.data.receivedAt < cutoff && !unlinked.linked row.id)

def Db.purgePermanentEmails (db : Db) (addressId : Uuid) : Db :=
  if !db.addresses.any (fun row => row.id == addressId && row.addressType == .permanent) then db
  else
    let unlinked := db.deleteRecipients (fun link => link.addressId == addressId)
    unlinked.deleteEmails (fun row => !unlinked.linked row.id)

end Tempmail.Store
