import Tempmail.Lib.Rows
import Tempmail.Store.Operations

set_option autoImplicit false

namespace Tempmail.Store

-- The rows of email_recipients and attachments with the columns that only the
-- token routes read.
structure Link where
  id : Uuid
  emailId : Uuid
  addressId : Uuid
  isRead : Bool
  readAt : Option Time
deriving DecidableEq, Repr

structure FileRow where
  id : Uuid
  emailId : Uuid
  file : Mx.AttachmentData
deriving DecidableEq, Repr

-- The keys and UNIQUE constraints of the schema come with the tables.
structure Inbox where
  addresses : List AddressRow
  emails : List EmailRow
  links : List Link
  files : List FileRow
  addressIds : (addresses.map AddressRow.id).Nodup
  tokens : (addresses.map AddressRow.token).Nodup
  emailIds : (emails.map EmailRow.id).Nodup
  linkIds : (links.map Link.id).Nodup
  linkPairs : (links.map (fun link => (link.emailId, link.addressId))).Nodup
  fileIds : (files.map FileRow.id).Nodup

def Link.row (link : Link) : RecipientRow := ⟨link.emailId, link.addressId⟩

def Inbox.db (inbox : Inbox) : Db where
  addresses := inbox.addresses
  emails := inbox.emails
  recipients := inbox.links.map Link.row
  attachments := inbox.files.map (fun file => ⟨file.emailId, file.file⟩)

namespace Inbox

def keep (inbox : Inbox) (email : EmailRow → Bool) (link : Link → Bool) (file : FileRow → Bool) : Inbox :=
  { inbox with
    emails := inbox.emails.filter email
    links := inbox.links.filter link
    files := inbox.files.filter file
    emailIds := Rows.unique_filter _ inbox.emails email inbox.emailIds
    linkIds := Rows.unique_filter _ inbox.links link inbox.linkIds
    linkPairs := Rows.unique_filter _ inbox.links link inbox.linkPairs
    fileIds := Rows.unique_filter _ inbox.files file inbox.fileIds }

def linked (inbox : Inbox) (emailId : Uuid) : Bool := inbox.links.any (fun link => link.emailId == emailId)

-- The statements and the trigger, as on Db.
def dropEmails (inbox : Inbox) (doomed : EmailRow → Bool) : Inbox :=
  let dropped := inbox.emails.filter doomed
  inbox.keep (fun row => !doomed row) (fun link => !dropped.any (fun row => row.id == link.emailId))
    (fun file => !dropped.any (fun row => row.id == file.emailId))

def deleteOrphanedEmails (inbox : Inbox) (emailId : Uuid) : Inbox :=
  inbox.dropEmails (fun row => row.id == emailId && !inbox.linked emailId)

def fireTriggers (inbox : Inbox) (removed : List Link) : Inbox :=
  removed.foldl (fun current link => current.deleteOrphanedEmails link.emailId) inbox

def deleteLinks (inbox : Inbox) (doomed : Link → Bool) : Inbox :=
  fireTriggers (inbox.keep (fun _ => true) (fun link => !doomed link) (fun _ => true)) (inbox.links.filter doomed)

def deleteFiles (inbox : Inbox) (doomed : FileRow → Bool) : Inbox :=
  inbox.keep (fun _ => true) (fun _ => true) (fun file => !doomed file)

def deleteEmails (inbox : Inbox) (doomed : EmailRow → Bool) : Inbox :=
  let dropped := inbox.emails.filter doomed
  fireTriggers (inbox.dropEmails doomed) (inbox.links.filter (fun link => dropped.any (fun row => row.id == link.emailId)))

theorem mark_ids {Key : Type} (links : List Link) (key : Link → Key) (change : Link → Link)
    (same : ∀ link, key (change link) = key link)
    (unique : (links.map key).Nodup) : ((links.map change).map key).Nodup := by
  have unchanged : key ∘ change = key := funext same
  rw [List.map_map, unchanged]
  exact unique

def markRead (inbox : Inbox) (linkId : Uuid) (now : Time) : Inbox :=
  let change := fun link : Link => if link.id == linkId then { link with isRead := true, readAt := some now } else link
  { inbox with
    links := inbox.links.map change
    linkIds := mark_ids inbox.links Link.id change (fun link => by dsimp only [change]; split <;> rfl) inbox.linkIds
    linkPairs := mark_ids inbox.links (fun link => (link.emailId, link.addressId)) change
      (fun link => by dsimp only [change]; split <;> rfl) inbox.linkPairs }

def addressByToken (inbox : Inbox) (token : String) : Option AddressRow := inbox.addresses.find? (fun row => row.token == token)

def received (inbox : Inbox) (addressId emailId : Uuid) : Option (EmailRow × Link) := do
  let row ← inbox.emails.find? (fun row => row.id == emailId)
  let link ← inbox.links.find? (fun link => link.emailId == emailId && link.addressId == addressId)
  some (row, link)

structure View where
  address : Option AddressRow
  emails : List EmailRow
  links : List Link
  files : List FileRow
deriving DecidableEq

def shows (inbox : Inbox) (addressId emailId : Uuid) : Bool :=
  inbox.links.any (fun link => link.emailId == emailId && link.addressId == addressId)

def view (inbox : Inbox) (addressId : Uuid) : View where
  address := inbox.addresses.find? (fun row => row.id == addressId)
  emails := inbox.emails.filter (fun row => inbox.shows addressId row.id)
  links := inbox.links.filter (fun link => link.addressId == addressId)
  files := inbox.files.filter (fun file => inbox.shows addressId file.emailId)

section Frame

variable (inbox : Inbox) (other : Uuid)

theorem shows_links (emailId : Uuid) :
    inbox.shows other emailId = (inbox.view other).links.any (fun link => link.emailId == emailId) := by
  rw [view, shows, List.any_filter]
  congr 1
  funext link
  exact Bool.and_comm _ _

theorem view_congr (after : Inbox) (addresses : after.addresses = inbox.addresses)
    (links : (after.view other).links = (inbox.view other).links)
    (emails : after.emails.filter (fun row => inbox.shows other row.id) =
      inbox.emails.filter (fun row => inbox.shows other row.id))
    (files : after.files.filter (fun file => inbox.shows other file.emailId) =
      inbox.files.filter (fun file => inbox.shows other file.emailId)) : after.view other = inbox.view other := by
  have shown : after.shows other = inbox.shows other := by
    funext emailId
    rw [shows_links, shows_links, links]
  rw [view, view, shown, emails, files, addresses]
  exact View.mk.injEq .. |>.mpr ⟨rfl, rfl, links, rfl⟩

theorem filter_kept {Row : Type} (wanted kept : Row → Bool) (rows : List Row)
    (keeps : ∀ row ∈ rows, wanted row = true → kept row = true) :
    (rows.filter kept).filter wanted = rows.filter wanted := by
  rw [List.filter_filter]
  refine List.filter_congr fun row member => ?_
  cases here : wanted row with
  | true => rw [keeps row member here, Bool.and_self]
  | false => rfl

theorem keep_view (email : EmailRow → Bool) (link : Link → Bool) (file : FileRow → Bool)
    (links : ∀ row ∈ inbox.links, row.addressId = other → link row = true)
    (emails : ∀ row ∈ inbox.emails, inbox.shows other row.id = true → email row = true)
    (files : ∀ row ∈ inbox.files, inbox.shows other row.emailId = true → file row = true) :
    (inbox.keep email link file).view other = inbox.view other :=
  view_congr inbox other _ rfl
    (filter_kept _ link inbox.links fun row member mine => links row member (eq_of_beq mine))
    (filter_kept _ email inbox.emails emails) (filter_kept _ file inbox.files files)

theorem drop_view (doomed : EmailRow → Bool)
    (hidden : ∀ row ∈ inbox.emails, doomed row = true → inbox.shows other row.id = false) :
    (inbox.dropEmails doomed).view other = inbox.view other := by
  have spared : ∀ emailId, inbox.shows other emailId = true →
      (!(inbox.emails.filter doomed).any (fun row => row.id == emailId)) = true := by
    intro emailId shown
    rw [Bool.not_eq_true', List.any_eq_false]
    intro row dropped same
    obtain ⟨member, gone⟩ := List.mem_filter.mp dropped
    have unseen := hidden row member gone
    rw [eq_of_beq same, shown] at unseen
    cases unseen
  refine keep_view inbox other _ _ _ ?_ ?_ ?_
  · intro link member mine
    exact spared link.emailId (List.any_eq_true.mpr ⟨link, member, by simp [mine]⟩)
  · intro row member shown
    cases gone : doomed row with
    | false => rfl
    | true => exact absurd (hidden row member gone) (by simp [shown])
  · intro file _ shown
    exact spared file.emailId shown

theorem unlinked_hidden (emailId : Uuid) (unlinked : inbox.linked emailId = false) : inbox.shows other emailId = false := by
  rw [linked, List.any_eq_false] at unlinked
  rw [shows, List.any_eq_false]
  intro link member both
  rw [Bool.and_eq_true] at both
  exact unlinked link member both.1

theorem orphan_view (emailId : Uuid) : (inbox.deleteOrphanedEmails emailId).view other = inbox.view other := by
  apply drop_view
  intro row _ gone
  rw [Bool.and_eq_true, beq_iff_eq, Bool.not_eq_true'] at gone
  rw [gone.1]
  exact unlinked_hidden inbox other emailId gone.2

theorem fire_view (removed : List Link) : (inbox.fireTriggers removed).view other = inbox.view other := by
  induction removed generalizing inbox with
  | nil => rfl
  | cons link rest ih => exact (ih (inbox.deleteOrphanedEmails link.emailId)).trans (orphan_view inbox other link.emailId)

theorem delete_links_view (doomed : Link → Bool) (spared : ∀ link ∈ inbox.links, link.addressId = other → doomed link = false) :
    (inbox.deleteLinks doomed).view other = inbox.view other := by
  refine (fire_view _ other _).trans (keep_view inbox other _ _ _ ?_ (fun _ _ _ => rfl) (fun _ _ _ => rfl))
  intro link member mine
  rw [spared link member mine, Bool.not_false]

theorem delete_files_view (doomed : FileRow → Bool)
    (hidden : ∀ file ∈ inbox.files, doomed file = true → inbox.shows other file.emailId = false) :
    (inbox.deleteFiles doomed).view other = inbox.view other := by
  refine keep_view inbox other _ _ _ (fun _ _ _ => rfl) (fun _ _ _ => rfl) ?_
  intro file member shown
  cases gone : doomed file with
  | false => rfl
  | true => exact absurd (hidden file member gone) (by simp [shown])

theorem delete_emails_view (doomed : EmailRow → Bool)
    (hidden : ∀ row ∈ inbox.emails, doomed row = true → inbox.shows other row.id = false) :
    (inbox.deleteEmails doomed).view other = inbox.view other :=
  (fire_view _ other _).trans (drop_view inbox other doomed hidden)

theorem mark_view (linkId : Uuid) (now : Time) (apart : ∀ link ∈ inbox.links, link.addressId = other → link.id ≠ linkId) :
    (inbox.markRead linkId now).view other = inbox.view other := by
  refine view_congr inbox other _ rfl ?_ rfl rfl
  refine Rows.filter_changed _ _ inbox.links ?_ ?_
  · intro link member mine
    exact if_neg (by simpa using apart link member (eq_of_beq mine))
  · intro link _ theirs
    split <;> exact theirs

end Frame

-- Without the columns only the token routes read, the statements are those on Db.
section Projection

variable (inbox : Inbox)

theorem linked_db (emailId : Uuid) : inbox.linked emailId = inbox.db.linked emailId := by
  rw [linked, Db.linked, db, List.any_map]
  rfl

theorem keep_db (email : EmailRow → Bool) (link : Link → Bool) (file : FileRow → Bool) (kept : RecipientRow → Bool)
    (stored : AttachmentRow → Bool) (links : ∀ row ∈ inbox.links, link row = kept row.row)
    (files : ∀ row ∈ inbox.files, file row = stored ⟨row.emailId, row.file⟩) :
    (inbox.keep email link file).db =
      { inbox.db with
        emails := inbox.db.emails.filter email
        recipients := inbox.db.recipients.filter kept
        attachments := inbox.db.attachments.filter stored } := by
  simp only [db, keep, List.filter_map]
  rw [List.filter_congr links, List.filter_congr files]
  rfl

theorem drop_db (doomed : EmailRow → Bool) : (inbox.dropEmails doomed).db = inbox.db.dropEmails doomed :=
  keep_db inbox _ _ _ (fun row => !(inbox.emails.filter doomed).any (fun email => email.id == row.emailId))
    (fun row => !(inbox.emails.filter doomed).any (fun email => email.id == row.emailId)) (fun _ _ => rfl) (fun _ _ => rfl)

theorem fire_db (removed : List Link) : (inbox.fireTriggers removed).db = inbox.db.fireTriggers (removed.map Link.row) := by
  induction removed generalizing inbox with
  | nil => rfl
  | cons link rest ih =>
      have one : (inbox.deleteOrphanedEmails link.emailId).db = inbox.db.deleteOrphanedEmails link.emailId := by
        rw [deleteOrphanedEmails, drop_db, linked_db]
        rfl
      rw [fireTriggers, List.foldl_cons, ← fireTriggers, ih, one]
      rfl

theorem delete_links_db (doomed : Link → Bool) (removed : RecipientRow → Bool)
    (same : ∀ link ∈ inbox.links, doomed link = removed link.row) :
    (inbox.deleteLinks doomed).db = inbox.db.deleteRecipients removed := by
  rw [deleteLinks, fire_db, Db.deleteRecipients,
    keep_db inbox (fun _ => true) (fun link => !doomed link) (fun _ => true) (fun row => !removed row) (fun _ => true)
      (fun link member => by rw [same link member]) (fun _ _ => rfl), List.filter_congr same]
  simp only [List.filter_true]
  simp only [db, List.filter_map]
  rfl

theorem delete_files_db (doomed : FileRow → Bool) (removed : AttachmentRow → Bool)
    (same : ∀ file ∈ inbox.files, doomed file = removed ⟨file.emailId, file.file⟩) :
    (inbox.deleteFiles doomed).db = { inbox.db with attachments := inbox.db.attachments.filter (fun file => !removed file) } := by
  rw [deleteFiles, keep_db inbox (fun _ => true) (fun _ => true) (fun file => !doomed file) (fun _ => true)
    (fun file => !removed file)
    (fun _ _ => rfl) (fun file member => by rw [same file member])]
  simp only [List.filter_true]

theorem delete_emails_db (doomed : EmailRow → Bool) : (inbox.deleteEmails doomed).db = inbox.db.deleteEmails doomed := by
  rw [deleteEmails, fire_db, drop_db, Db.deleteEmails]
  simp only [db, List.filter_map]
  rfl

end Projection

end Inbox

end Tempmail.Store
