import Tempmail.Mx.Database

set_option autoImplicit false

namespace Tempmail.Store

-- A UUID is a 128-bit number; SQL compares two of them as such.
abbrev Uuid := Nat

abbrev Time := Mx.Time

inductive AddressType where
  | temp
  | permanent
deriving DecidableEq, Repr

-- VARCHAR(255) and the CHECK email ~ '^[^@]+@[^@]+$'.
def emailCheck (email : String) : Bool :=
  email.length ≤ 255 &&
    match email.toList.splitOn '@' with
    | [username, domain] => !username.isEmpty && !domain.isEmpty
    | _ => false

def tokenCheck (token : String) : Bool := token.length ≤ 64

structure AddressRow where
  id : Uuid
  email : String
  token : String
  addressType : AddressType
  createdAt : Time
  expiresAt : Option Time
  emailChecked : emailCheck email = true
  tokenChecked : tokenCheck token = true
deriving DecidableEq

structure EmailRow where
  id : Uuid
  data : Mx.EmailData
deriving DecidableEq, Repr

structure RecipientRow where
  emailId : Uuid
  addressId : Uuid
deriving DecidableEq, Repr

structure AttachmentRow where
  emailId : Uuid
  file : Mx.AttachmentData
deriving DecidableEq, Repr

structure Db where
  addresses : List AddressRow := []
  emails : List EmailRow := []
  recipients : List RecipientRow := []
  attachments : List AttachmentRow := []
deriving DecidableEq

def Db.accepts (db : Db) (row : AddressRow) : Bool :=
  !db.addresses.any (fun other => other.id == row.id || other.email == row.email || other.token == row.token)

def Db.linked (db : Db) (emailId : Uuid) : Bool := db.recipients.any (fun link => link.emailId == emailId)

-- DELETE FROM emails with the cascades to its links and attachments.
def Db.dropEmails (db : Db) (doomed : EmailRow → Bool) : Db :=
  let dropped := db.emails.filter doomed
  { db with
    emails := db.emails.filter (fun row => !doomed row)
    recipients := db.recipients.filter (fun link => !dropped.any (fun row => row.id == link.emailId))
    attachments := db.attachments.filter (fun file => !dropped.any (fun row => row.id == file.emailId)) }

-- The trigger function: an email it deletes has no link left, so its own
-- cascade deletes no email_recipients row and fires nothing.
def Db.deleteOrphanedEmails (db : Db) (emailId : Uuid) : Db :=
  db.dropEmails (fun row => row.id == emailId && !db.linked emailId)

-- AFTER DELETE ON email_recipients FOR EACH ROW, once the statement is done.
def Db.fireTriggers (db : Db) (removed : List RecipientRow) : Db :=
  removed.foldl (fun current link => current.deleteOrphanedEmails link.emailId) db

def Db.deleteRecipients (db : Db) (doomed : RecipientRow → Bool) : Db :=
  Db.fireTriggers { db with recipients := db.recipients.filter (fun link => !doomed link) } (db.recipients.filter doomed)

def Db.deleteEmails (db : Db) (doomed : EmailRow → Bool) : Db :=
  let dropped := db.emails.filter doomed
  Db.fireTriggers (db.dropEmails doomed)
    (db.recipients.filter (fun link => dropped.any (fun row => row.id == link.emailId)))

def Db.deleteAddresses (db : Db) (doomed : AddressRow → Bool) : Db :=
  let dropped := db.addresses.filter doomed
  Db.deleteRecipients { db with addresses := db.addresses.filter (fun row => !doomed row) }
    (fun link => dropped.any (fun row => row.id == link.addressId))

def Db.insertAddress (db : Db) (row : AddressRow) : Db := { db with addresses := db.addresses ++ [row] }

theorem fire_triggers_addresses (db : Db) (removed : List RecipientRow) :
    (db.fireTriggers removed).addresses = db.addresses := by
  induction removed generalizing db with
  | nil => rfl
  | cons link rest ih => exact ih (db.deleteOrphanedEmails link.emailId)

@[simp] theorem delete_recipients_addresses (db : Db) (doomed : RecipientRow → Bool) :
    (db.deleteRecipients doomed).addresses = db.addresses := fire_triggers_addresses _ _

@[simp] theorem delete_emails_addresses (db : Db) (doomed : EmailRow → Bool) :
    (db.deleteEmails doomed).addresses = db.addresses := fire_triggers_addresses _ _

@[simp] theorem delete_addresses_addresses (db : Db) (doomed : AddressRow → Bool) :
    (db.deleteAddresses doomed).addresses = db.addresses.filter (fun row => !doomed row) := by
  simp [Db.deleteAddresses]

end Tempmail.Store
