import Tempmail.Store.Triggers

set_option autoImplicit false

namespace Tempmail.Store

-- The store that is left where only some mailboxes and some links are kept: a
-- message and its attachments stay as long as a mailbox has it.
def Db.keeping (db : Db) (address : AddressRow → Bool) (link : RecipientRow → Bool) : Db where
  addresses := db.addresses.filter address
  emails := db.emails.filter (fun row => (db.recipients.filter link).any (fun kept => kept.emailId == row.id))
  recipients := db.recipients.filter link
  attachments := db.attachments.filter (fun file => (db.recipients.filter link).any (fun kept => kept.emailId == file.emailId))

structure Delivered (db : Db) : Prop where
  emailIds : (db.emails.map EmailRow.id).Nodup
  linked : ∀ row ∈ db.emails, db.linked row.id = true
  linkEmail : ∀ link ∈ db.recipients, ∃ row ∈ db.emails, row.id = link.emailId
  fileEmail : ∀ file ∈ db.attachments, ∃ row ∈ db.emails, row.id = file.emailId

section Keeping

variable (db : Db)

theorem keeping_linked (address : AddressRow → Bool) (link : RecipientRow → Bool) (emailId : Uuid) :
    (db.keeping address link).linked emailId = true ↔ ∃ kept ∈ db.recipients, link kept = true ∧ kept.emailId = emailId := by
  simp [Db.linked, Db.keeping]

theorem keeping_email_iff (address : AddressRow → Bool) (link : RecipientRow → Bool) (row : EmailRow) (member : row ∈ db.emails) :
    row ∈ (db.keeping address link).emails ↔ ∃ kept ∈ db.recipients, link kept = true ∧ kept.emailId = row.id := by
  simp [Db.keeping, member]

theorem keeping_file_iff (address : AddressRow → Bool) (link : RecipientRow → Bool) (file : AttachmentRow)
    (member : file ∈ db.attachments) :
    file ∈ (db.keeping address link).attachments ↔ ∃ kept ∈ db.recipients, link kept = true ∧ kept.emailId = file.emailId := by
  simp [Db.keeping, member]

theorem keeping_delivered (address : AddressRow → Bool) (link : RecipientRow → Bool) (delivered : Delivered db) :
    Delivered (db.keeping address link) := by
  have survives : ∀ emailId, (db.keeping address link).linked emailId = true → (∃ row ∈ db.emails, row.id = emailId) →
      ∃ row ∈ (db.keeping address link).emails, row.id = emailId := by
    intro emailId linked known
    obtain ⟨row, member, same⟩ := known
    refine ⟨row, (keeping_email_iff db address link row member).mpr ?_, same⟩
    rw [same]
    exact (keeping_linked db address link emailId).mp linked
  refine ⟨delivered.emailIds.sublist (List.filter_sublist.map _), ?_, ?_, ?_⟩
  · intro row member
    have known := (List.mem_filter.mp member).1
    exact (keeping_linked db address link row.id).mpr ((keeping_email_iff db address link row known).mp member)
  · intro kept member
    have known := List.mem_filter.mp member
    exact survives kept.emailId ((keeping_linked db address link _).mpr ⟨kept, known.1, known.2, rfl⟩)
      (delivered.linkEmail kept known.1)
  · intro file member
    have known := (List.mem_filter.mp member).1
    exact survives file.emailId ((keeping_linked db address link _).mpr ((keeping_file_iff db address link file known).mp member))
      (delivered.fileEmail file known)

theorem filter_linked {Row : Type} (rows : List Row) (emailId : Row → Uuid) (links : List RecipientRow)
    (first second : RecipientRow → Bool) :
    (rows.filter (fun row => (links.filter first).any (fun kept => kept.emailId == emailId row))).filter
        (fun row => ((links.filter first).filter second).any (fun kept => kept.emailId == emailId row)) =
      rows.filter (fun row => (links.filter (fun kept => first kept && second kept)).any
        (fun kept => kept.emailId == emailId row)) := by
  rw [List.filter_filter, List.filter_filter]
  refine List.filter_congr fun row _ => ?_
  have order : (fun kept => second kept && first kept) = fun kept => first kept && second kept :=
    funext fun kept => Bool.and_comm _ _
  rw [order]
  cases later : (links.filter (fun kept => first kept && second kept)).any (fun kept => kept.emailId == emailId row) with
  | false => rfl
  | true =>
      obtain ⟨kept, member, same⟩ := List.any_eq_true.mp later
      obtain ⟨known, both⟩ := List.mem_filter.mp member
      rw [Bool.and_eq_true] at both
      exact List.any_eq_true.mpr ⟨kept, List.mem_filter.mpr ⟨known, both.1⟩, same⟩

theorem keeping_keeping (address other : AddressRow → Bool) (link later : RecipientRow → Bool) :
    (db.keeping address link).keeping other later =
      db.keeping (fun row => address row && other row) (fun kept => link kept && later kept) := by
  have emails := filter_linked db.emails EmailRow.id db.recipients link later
  have files := filter_linked db.attachments AttachmentRow.emailId db.recipients link later
  have addresses : (db.addresses.filter address).filter other = db.addresses.filter (fun row => address row && other row) := by
    rw [List.filter_filter]
    exact List.filter_congr fun row _ => Bool.and_comm _ _
  have links : (db.recipients.filter link).filter later = db.recipients.filter (fun kept => link kept && later kept) := by
    rw [List.filter_filter]
    exact List.filter_congr fun row _ => Bool.and_comm _ _
  simp only [Db.keeping]
  rw [emails, files, addresses, links]

end Keeping

section Deletions

variable (db : Db) (delivered : Delivered db)

include delivered

theorem delete_recipients_keeping (doomed : RecipientRow → Bool) :
    db.deleteRecipients doomed = db.keeping (fun _ => true) (fun link => !doomed link) := by
  have orphaned : ∀ row ∈ (db.unlink doomed).emails,
      (mentions (db.recipients.filter doomed) row.id && !(db.unlink doomed).linked row.id) =
        !(db.unlink doomed).linked row.id := by
    intro row member
    cases alone : (db.unlink doomed).linked row.id with
    | true => rw [Bool.not_true, Bool.and_false]
    | false =>
        obtain ⟨link, known, same⟩ := (linked_iff db row.id).mp (delivered.linked row member)
        have falls : doomed link = true := by
          by_contra stays
          rw [Db.linked, List.any_eq_false] at alone
          exact alone link (List.mem_filter.mpr ⟨known, by simpa using stays⟩) (by simpa using same)
        rw [(mentions_iff _ row.id).mpr ⟨link, List.mem_filter.mpr ⟨known, falls⟩, same⟩]
        rfl
  have files : ∀ file ∈ db.attachments,
      (!((db.unlink doomed).emails.filter (fun row => !(db.unlink doomed).linked row.id)).any
        (fun row => row.id == file.emailId)) =
        (db.unlink doomed).linked file.emailId := by
    intro file member
    obtain ⟨row, known, same⟩ := delivered.fileEmail file member
    rw [← same, dropped_id_iff (db.unlink doomed) (fun row => !(db.unlink doomed).linked row.id) delivered.emailIds row known,
      Bool.not_not]
  have links : ((db.unlink doomed).dropEmails (fun row => !(db.unlink doomed).linked row.id)).recipients =
      (db.unlink doomed).recipients :=
    drop_unlinked _ _ fun row _ falls => by simpa using falls
  rw [delete_recipients_eq, drop_congr _ _ _ orphaned]
  have attachments : ((db.unlink doomed).dropEmails (fun row => !(db.unlink doomed).linked row.id)).attachments =
      db.attachments.filter (fun file => (db.unlink doomed).linked file.emailId) := List.filter_congr files
  have emails : ((db.unlink doomed).dropEmails (fun row => !(db.unlink doomed).linked row.id)).emails =
      db.emails.filter (fun row => (db.unlink doomed).linked row.id) := List.filter_congr fun row _ => Bool.not_not _
  have addresses : ((db.unlink doomed).dropEmails (fun row => !(db.unlink doomed).linked row.id)).addresses = db.addresses := rfl
  have whole : db.addresses.filter (fun _ => true) = db.addresses := List.filter_true _
  rw [Db.keeping, whole]
  refine (Db.mk.injEq ..).mpr ⟨addresses, emails, links, attachments⟩

theorem delete_emails_keeping (doomed : EmailRow → Bool) :
    db.deleteEmails doomed =
      db.keeping (fun _ => true) (fun link => !(db.emails.filter doomed).any (fun row => row.id == link.emailId)) := by
  have kept : ∀ row ∈ db.emails, (!doomed row) = (db.recipients.filter (fun link =>
      !(db.emails.filter doomed).any (fun other => other.id == link.emailId))).any (fun link => link.emailId == row.id) := by
    intro row member
    have own := dropped_id_iff db doomed delivered.emailIds row member
    cases falls : doomed row with
    | true =>
        rw [falls] at own
        symm
        rw [Bool.not_true, List.any_eq_false]
        intro link stays same
        have spared := (List.mem_filter.mp stays).2
        rw [show link.emailId = row.id by simpa using same, own] at spared
        cases spared
    | false =>
        rw [falls] at own
        obtain ⟨link, known, same⟩ := (linked_iff db row.id).mp (delivered.linked row member)
        symm
        refine List.any_eq_true.mpr ⟨link, List.mem_filter.mpr ⟨known, ?_⟩, by simpa using same⟩
        rw [same, own]
        rfl
  have files : ∀ file ∈ db.attachments, (!(db.emails.filter doomed).any (fun row => row.id == file.emailId)) =
      (db.recipients.filter (fun link => !(db.emails.filter doomed).any (fun other => other.id == link.emailId))).any
        (fun link => link.emailId == file.emailId) := by
    intro file member
    obtain ⟨row, known, same⟩ := delivered.fileEmail file member
    rw [← same, dropped_id_iff db doomed delivered.emailIds row known]
    exact kept row known
  rw [delete_emails_eq db doomed delivered.emailIds, Db.dropEmails, Db.keeping]
  refine (Db.mk.injEq ..).mpr ⟨(List.filter_true _).symm, List.filter_congr kept, rfl, List.filter_congr files⟩

theorem delete_addresses_keeping (doomed : AddressRow → Bool) :
    db.deleteAddresses doomed = db.keeping (fun row => !doomed row)
      (fun link => !(db.addresses.filter doomed).any (fun row => row.id == link.addressId)) := by
  have rest : Delivered { db with addresses := db.addresses.filter (fun row => !doomed row) } := { delivered with }
  rw [Db.deleteAddresses, delete_recipients_keeping _ rest]
  refine (Db.mk.injEq ..).mpr ⟨List.filter_true _, rfl, rfl, rfl⟩

theorem delete_unlinked (emailId : Uuid) (unlinked : db.linked emailId = false) :
    Db.deleteEmails { db with attachments := db.attachments.filter (fun file => file.emailId != emailId) }
      (fun row => row.id == emailId) = db := by
  have absent : ∀ row ∈ db.emails, (row.id == emailId) = false := by
    intro row member
    rw [← Bool.not_eq_true]
    intro same
    have linked := delivered.linked row member
    rw [show row.id = emailId by simpa using same, unlinked] at linked
    cases linked
  have whole : db.attachments.filter (fun file => file.emailId != emailId) = db.attachments := by
    refine List.filter_eq_self.mpr fun file member => ?_
    obtain ⟨row, known, same⟩ := delivered.fileEmail file member
    rw [← same, bne, absent row known]
    rfl
  rw [whole, delete_emails_eq db _ delivered.emailIds]
  exact drop_none db _ absent

end Deletions

end Tempmail.Store
