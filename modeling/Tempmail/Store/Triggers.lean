import Tempmail.Store.Preservation

set_option autoImplicit false

namespace Tempmail.Store

structure SchemaValid (db : Db) : Prop where
  emailIds : (db.emails.map EmailRow.id).Nodup
  addressIds : (db.addresses.map AddressRow.id).Nodup
  linkEmail : ∀ link ∈ db.recipients, ∃ row ∈ db.emails, row.id = link.emailId
  linkAddress : ∀ link ∈ db.recipients, ∃ row ∈ db.addresses, row.id = link.addressId
  distinct : db.recipients.Nodup
  fileEmail : ∀ file ∈ db.attachments, ∃ row ∈ db.emails, row.id = file.emailId

theorem consistent_schema (pending : List Uuid) (db : Db) (consistent : ConsistentBut pending db) : SchemaValid db :=
  { consistent with }

-- The DELETE on its own, as a backend without the trigger executes it.
def Db.unlink (db : Db) (doomed : RecipientRow → Bool) : Db :=
  { db with recipients := db.recipients.filter (fun link => !doomed link) }

def mentions (removed : List RecipientRow) (emailId : Uuid) : Bool := removed.any (fun link => link.emailId == emailId)

theorem mentions_iff (removed : List RecipientRow) (emailId : Uuid) :
    mentions removed emailId = true ↔ ∃ link ∈ removed, link.emailId = emailId := by
  simp [mentions]

theorem linked_iff (db : Db) (emailId : Uuid) : db.linked emailId = true ↔ ∃ link ∈ db.recipients, link.emailId = emailId := by
  simp [Db.linked]

theorem drop_none (db : Db) (doomed : EmailRow → Bool) (spared : ∀ row ∈ db.emails, doomed row = false) :
    db.dropEmails doomed = db := by
  have dropped : db.emails.filter doomed = [] := List.filter_eq_nil_iff.mpr (by simpa using spared)
  have emails : db.emails.filter (fun row => !doomed row) = db.emails := List.filter_eq_self.mpr (by simpa using spared)
  rw [Db.dropEmails, dropped, emails]
  simp

theorem drop_email_iff (db : Db) (doomed : EmailRow → Bool) (row : EmailRow) (member : row ∈ db.emails) :
    row ∉ (db.dropEmails doomed).emails ↔ doomed row = true := by
  simp [Db.dropEmails, member]

theorem drop_file_iff (db : Db) (doomed : EmailRow → Bool) (file : AttachmentRow) (member : file ∈ db.attachments) :
    file ∉ (db.dropEmails doomed).attachments ↔
      ∃ row ∈ db.emails, row.id = file.emailId ∧ row ∉ (db.dropEmails doomed).emails := by
  have gone : file ∉ (db.dropEmails doomed).attachments ↔ ∃ row ∈ db.emails, row.id = file.emailId ∧ doomed row = true := by
    simp only [Db.dropEmails, List.mem_filter, member, true_and, Bool.not_eq_true', Bool.not_eq_false, List.any_eq_true,
      beq_iff_eq]
    constructor
    · rintro ⟨row, falls, same⟩
      exact ⟨row, falls.1, same, falls.2⟩
    · rintro ⟨row, known, same, falls⟩
      exact ⟨row, ⟨known, falls⟩, same⟩
  rw [gone]
  refine exists_congr fun row => and_congr_right fun known => and_congr_right fun _ => ?_
  exact (drop_email_iff db doomed row known).symm

theorem drop_congr (db : Db) (first second : EmailRow → Bool) (same : ∀ row ∈ db.emails, first row = second row) :
    db.dropEmails first = db.dropEmails second := by
  have dropped : db.emails.filter first = db.emails.filter second := List.filter_congr same
  have kept : db.emails.filter (fun row => !first row) = db.emails.filter (fun row => !second row) :=
    List.filter_congr fun row member => congrArg (!·) (same row member)
  rw [Db.dropEmails, Db.dropEmails, dropped, kept]

theorem drop_unlinked (db : Db) (doomed : EmailRow → Bool)
    (unlinked : ∀ row ∈ db.emails, doomed row = true → db.linked row.id = false) :
    (db.dropEmails doomed).recipients = db.recipients := by
  refine List.filter_eq_self.mpr fun link member => ?_
  rw [Bool.not_eq_true', List.any_eq_false]
  intro row gone same
  obtain ⟨known, falls⟩ := List.mem_filter.mp gone
  have alone := unlinked row known falls
  rw [Db.linked, List.any_eq_false] at alone
  exact alone link member (by simpa using (by simpa using same : row.id = link.emailId).symm)

theorem any_filter_or (first second : EmailRow → Bool) (wanted : EmailRow → Bool) (rows : List EmailRow) :
    ((rows.filter first).any wanted || ((rows.filter (fun row => !first row)).filter second).any wanted) =
      (rows.filter (fun row => first row || second row)).any wanted := by
  induction rows with
  | nil => rfl
  | cons row rest ih =>
      simp only [List.any_filter, List.any_cons] at ih ⊢
      rw [← ih]
      cases first row <;> cases second row <;> cases wanted row <;> simp

theorem drop_twice (db : Db) (first second : EmailRow → Bool) :
    (db.dropEmails first).dropEmails second = db.dropEmails (fun row => first row || second row) := by
  have gone : ∀ emailId, (!(db.emails.filter (fun row => first row || second row)).any (fun row => row.id == emailId)) =
      (!((db.emails.filter (fun row => !first row)).filter second).any (fun row => row.id == emailId) &&
        !(db.emails.filter first).any (fun row => row.id == emailId)) := by
    intro emailId
    rw [← any_filter_or, Bool.not_or, Bool.and_comm]
  simp only [Db.dropEmails, List.filter_filter, gone]
  congr 1
  refine List.filter_congr fun row _ => ?_
  rw [Bool.not_or, Bool.and_comm]

-- What the row triggers of one statement do together.
theorem fire_triggers_eq (removed : List RecipientRow) (db : Db) :
    db.fireTriggers removed = db.dropEmails (fun row => mentions removed row.id && !db.linked row.id) := by
  induction removed generalizing db with
  | nil => exact (drop_none db _ (fun _ _ => rfl)).symm
  | cons link rest ih =>
      have kept : (db.deleteOrphanedEmails link.emailId).recipients = db.recipients := by
        apply drop_unlinked
        intro row _ falls
        rw [Bool.and_eq_true, beq_iff_eq, Bool.not_eq_true'] at falls
        exact falls.1 ▸ falls.2
      have linked : (db.deleteOrphanedEmails link.emailId).linked = db.linked := by
        funext emailId
        rw [Db.linked, Db.linked, kept]
      change (db.deleteOrphanedEmails link.emailId).fireTriggers rest = _
      rw [ih, linked, Db.deleteOrphanedEmails, drop_twice]
      congr 1
      funext row
      by_cases same : row.id = link.emailId
      · cases alone : db.linked link.emailId <;> simp [mentions, same, alone]
      · have apart : (link.emailId == row.id) = false := by simpa using fun equal => same equal.symm
        simp [mentions, same, apart]

theorem delete_recipients_eq (db : Db) (doomed : RecipientRow → Bool) :
    db.deleteRecipients doomed = (db.unlink doomed).dropEmails (fun row =>
      mentions (db.recipients.filter doomed) row.id && !(db.unlink doomed).linked row.id) :=
  fire_triggers_eq (db.recipients.filter doomed) (db.unlink doomed)

theorem delete_emails_eq (db : Db) (doomed : EmailRow → Bool) (ids : (db.emails.map EmailRow.id).Nodup) :
    db.deleteEmails doomed = db.dropEmails doomed := by
  rw [Db.deleteEmails, fire_triggers_eq]
  refine drop_none _ _ fun row member => ?_
  obtain ⟨known, kept⟩ := List.mem_filter.mp member
  have survives := dropped_id_iff db doomed ids row known
  have unmentioned : mentions (db.recipients.filter (fun link =>
      (db.emails.filter doomed).any (fun other => other.id == link.emailId))) row.id = false := by
    rw [mentions, List.any_eq_false]
    intro link removed same
    have gone := (List.mem_filter.mp removed).2
    rw [show link.emailId = row.id by simpa using same, survives] at gone
    simp [gone] at kept
  rw [unmentioned, Bool.false_and]

def sized (id : Uuid) (receivedAt : Time) (sizeBytes : Nat) : EmailRow :=
  ⟨id, ⟨"", "", "", "", "", "", "", [], sizeBytes, none, none, none, false, receivedAt⟩⟩

def sampleAddress (id : Uuid) (email token : String) (addressType : AddressType) (expiresAt : Option Time)
    (emailChecked : emailCheck email = true) (tokenChecked : tokenCheck token = true) : AddressRow :=
  ⟨id, email, token, addressType, 0, expiresAt, emailChecked, tokenChecked⟩

def twoMailboxes : List AddressRow :=
  [sampleAddress 10 "keep@example.com" "a" .permanent none (by decide) (by decide),
    sampleAddress 11 "once@example.com" "b" .temp (some (days 60)) (by decide) (by decide)]

end Tempmail.Store
