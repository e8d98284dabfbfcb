import Tempmail.Store.Triggers

set_option autoImplicit false

namespace Tempmail.Store

def Db.retired (db : Db) (cutoff : Time) (link : RecipientRow) : Bool :=
  db.emails.any (fun row => row.id == link.emailId && row.data.receivedAt < cutoff) &&
    db.addresses.any (fun row => row.id == link.addressId && row.addressType == .permanent)

-- cleanup_permanent_email_retention once the cutoff is known; it returns the
-- row count of the first DELETE.
def Db.retention (db : Db) (cutoff : Time) : Nat × Db :=
  let unlinked := db.deleteRecipients (db.retired cutoff)
  (db.recipients.countP (db.retired cutoff),
    unlinked.deleteEmails (fun row => row.data.receivedAt < cutoff && !unlinked.linked row.id))

def Db.retentionAlone (db : Db) (cutoff : Time) : Nat × Db :=
  let unlinked := db.unlink (db.retired cutoff)
  (db.recipients.countP (db.retired cutoff),
    unlinked.dropEmails (fun row => row.data.receivedAt < cutoff && !unlinked.linked row.id))

def Db.retentionCleanup (db : Db) (retentionDays : Int) (now : Time) : Nat × Db :=
  if retentionDays ≤ 0 then (0, db)
  else
    match datetime (now - days retentionDays) with
    | none => (0, db)
    | some cutoff => db.retention cutoff

theorem retention_cleanup_db (db : Db) (retentionDays : Int) (now : Time) :
    (db.retentionCleanup retentionDays now).2 = db.cleanupPermanentEmailRetention retentionDays now := by
  unfold Db.retentionCleanup Db.cleanupPermanentEmailRetention
  by_cases off : retentionDays ≤ 0
  · rw [if_pos off, if_pos off]
  · rw [if_neg off, if_neg off]
    cases datetime (now - days retentionDays) with
    | none => rfl
    | some cutoff => rfl

theorem retired_iff (db : Db) (cutoff : Time) (link : RecipientRow) :
    db.retired cutoff link = true ↔
      (∃ row ∈ db.emails, row.id = link.emailId ∧ row.data.receivedAt < cutoff) ∧
        ∃ row ∈ db.addresses, row.id = link.addressId ∧ row.addressType = .permanent := by
  simp [Db.retired]

section Cutoff

variable (db : Db) (cutoff : Time)

-- The trigger only takes emails the second DELETE would take.
theorem retention_alone (ids : (db.emails.map EmailRow.id).Nodup) : db.retention cutoff = db.retentionAlone cutoff := by
  have gone : ∀ row ∈ (db.unlink (db.retired cutoff)).emails,
      (mentions (db.recipients.filter (db.retired cutoff)) row.id && !(db.unlink (db.retired cutoff)).linked row.id) = true →
        row.data.receivedAt < cutoff := by
    intro row member falls
    rw [Bool.and_eq_true, mentions_iff] at falls
    obtain ⟨link, removed, same⟩ := falls.1
    obtain ⟨⟨other, known, id, old⟩, -⟩ := (retired_iff db cutoff link).mp (List.mem_filter.mp removed).2
    have equal : other = row := List.inj_on_of_nodup_map ids known member (id.trans same)
    exact equal ▸ old
  have kept : (db.deleteRecipients (db.retired cutoff)).linked = (db.unlink (db.retired cutoff)).linked := by
    funext emailId
    rw [delete_recipients_eq, Db.linked, Db.linked, drop_unlinked]
    intro row _ falls
    rw [Bool.and_eq_true, Bool.not_eq_true'] at falls
    exact falls.2
  have left : ((db.deleteRecipients (db.retired cutoff)).emails.map EmailRow.id).Nodup := by
    rw [delete_recipients_eq]
    exact ids.sublist (List.filter_sublist.map _)
  rw [Db.retention, Db.retentionAlone, Prod.mk.injEq]
  refine ⟨rfl, ?_⟩
  rw [delete_emails_eq _ _ left, kept, delete_recipients_eq, drop_twice]
  refine drop_congr _ _ _ fun row member => ?_
  cases falls : mentions (db.recipients.filter (db.retired cutoff)) row.id && !(db.unlink (db.retired cutoff)).linked row.id with
  | false => rfl
  | true =>
      have old := gone row member falls
      rw [Bool.and_eq_true] at falls
      rw [falls.2, Bool.true_or, Bool.and_true]
      exact (decide_eq_true old).symm

theorem retention_recipients (ids : (db.emails.map EmailRow.id).Nodup) :
    (db.retention cutoff).2.recipients = db.recipients.filter (fun link => !db.retired cutoff link) := by
  rw [retention_alone db cutoff ids]
  refine drop_unlinked _ _ fun row _ falls => ?_
  rw [Bool.and_eq_true, Bool.not_eq_true'] at falls
  exact falls.2

theorem retention_drops_iff (ids : (db.emails.map EmailRow.id).Nodup) (row : EmailRow) (member : row ∈ db.emails) :
    row ∉ (db.retention cutoff).2.emails ↔ row.data.receivedAt < cutoff ∧ ∀ link ∈ db.recipients, link.emailId = row.id →
      ∃ address ∈ db.addresses, address.id = link.addressId ∧ address.addressType = .permanent := by
  rw [retention_alone db cutoff ids, Db.retentionAlone]
  dsimp only
  rw [drop_email_iff (db.unlink (db.retired cutoff)) _ row member, Bool.and_eq_true, decide_eq_true_eq, Bool.not_eq_true']
  refine and_congr_right fun old => ?_
  have linked : (db.unlink (db.retired cutoff)).linked row.id = false ↔
      ∀ link ∈ db.recipients, link.emailId = row.id → db.retired cutoff link = true := by
    rw [← Bool.not_eq_true, linked_iff]
    simp only [Db.unlink, List.mem_filter, Bool.not_eq_true', not_exists, not_and]
    exact ⟨fun none link known same => by simpa using fun kept => none link ⟨known, kept⟩ same,
      fun all link kept same => by simp [all link kept.1 same] at kept⟩
  rw [linked]
  refine forall₃_congr fun link known same => ?_
  rw [retired_iff]
  exact ⟨And.right, fun permanent => ⟨⟨row, member, same.symm, old⟩, permanent⟩⟩

theorem retention_sublists (ids : (db.emails.map EmailRow.id).Nodup) :
    (db.retention cutoff).2.emails.Sublist db.emails ∧ (db.retention cutoff).2.attachments.Sublist db.attachments := by
  rw [retention_alone db cutoff ids]
  exact ⟨List.filter_sublist, List.filter_sublist⟩

theorem retention_attachments (ids : (db.emails.map EmailRow.id).Nodup) (file : AttachmentRow) (member : file ∈ db.attachments) :
    file ∉ (db.retention cutoff).2.attachments ↔
      ∃ row ∈ db.emails, row.id = file.emailId ∧ row ∉ (db.retention cutoff).2.emails := by
  rw [retention_alone db cutoff ids]
  exact drop_file_iff _ _ file member

end Cutoff

structure RetentionDone (cutoff : Time) (before after : Db) (removed : Nat) : Prop where
  addresses : after.addresses = before.addresses
  links : after.recipients.Sublist before.recipients
  linkGone : ∀ link ∈ before.recipients, link ∉ after.recipients ↔
    (∃ row ∈ before.emails, row.id = link.emailId ∧ row.data.receivedAt < cutoff) ∧
      ∃ row ∈ before.addresses, row.id = link.addressId ∧ row.addressType = .permanent
  temporary : ∀ link ∈ before.recipients, (∃ row ∈ before.addresses, row.id = link.addressId ∧ row.addressType = .temp) →
    link ∈ after.recipients
  recent : ∀ link ∈ before.recipients, (∃ row ∈ before.emails, row.id = link.emailId ∧ cutoff ≤ row.data.receivedAt) →
    link ∈ after.recipients
  emails : after.emails.Sublist before.emails
  emailGone : ∀ row ∈ before.emails, row ∉ after.emails ↔ row.data.receivedAt < cutoff ∧
    ∀ link ∈ before.recipients, link.emailId = row.id →
      ∃ address ∈ before.addresses, address.id = link.addressId ∧ address.addressType = .permanent
  files : after.attachments.Sublist before.attachments
  fileGone : ∀ file ∈ before.attachments, file ∉ after.attachments ↔
    ∃ row ∈ before.emails, row.id = file.emailId ∧ row ∉ after.emails
  counted : removed + after.recipients.length = before.recipients.length

theorem retention_done (db : Db) (cutoff : Time) (valid : SchemaValid db) :
    RetentionDone cutoff db (db.retention cutoff).2 (db.retention cutoff).1 := by
  have left := retention_recipients db cutoff valid.emailIds
  have gone : ∀ link ∈ db.recipients, link ∉ (db.retention cutoff).2.recipients ↔ db.retired cutoff link = true := by
    intro link member
    rw [left, List.mem_filter]
    simp [member]
  have sublists := retention_sublists db cutoff valid.emailIds
  refine ⟨?_, ?_, ?_, ?_, ?_, sublists.1, fun row member => retention_drops_iff db cutoff valid.emailIds row member,
    sublists.2, fun file member => retention_attachments db cutoff valid.emailIds file member, ?_⟩
  · rw [retention_alone db cutoff valid.emailIds]
    rfl
  · rw [left]
    exact List.filter_sublist
  · intro link member
    rw [gone link member, retired_iff]
  · rintro link member ⟨row, known, id, temporary⟩
    by_contra lost
    obtain ⟨-, other, present, same, permanent⟩ := (retired_iff db cutoff link).mp ((gone link member).mp lost)
    have equal : other = row := List.inj_on_of_nodup_map valid.addressIds present known (same.trans id.symm)
    rw [equal, temporary] at permanent
    cases permanent
  · rintro link member ⟨row, known, id, recent⟩
    by_contra lost
    obtain ⟨⟨other, present, same, old⟩, -⟩ := (retired_iff db cutoff link).mp ((gone link member).mp lost)
    have equal : other = row := List.inj_on_of_nodup_map valid.emailIds present known (same.trans id.symm)
    rw [equal] at old
    exact absurd old (Int.not_lt.mpr recent)
  · rw [left]
    change db.recipients.countP (db.retired cutoff) + _ = _
    rw [List.countP_eq_length_filter]
    exact (List.length_eq_length_filter_add _).symm

-- After a run nothing it looks for is left.
theorem retention_again (db : Db) (cutoff : Time) (valid : SchemaValid db) :
    (db.retention cutoff).2.retention cutoff = (0, (db.retention cutoff).2) := by
  have done := retention_done db cutoff valid
  have left := retention_recipients db cutoff valid.emailIds
  have ids : ((db.retention cutoff).2.emails.map EmailRow.id).Nodup := valid.emailIds.sublist (done.emails.map _)
  have spared : ∀ link ∈ (db.retention cutoff).2.recipients, (db.retention cutoff).2.retired cutoff link = false := by
    intro link member
    have kept := member
    rw [left, List.mem_filter, Bool.not_eq_true'] at kept
    rw [← Bool.not_eq_true]
    intro again
    obtain ⟨⟨row, known, id, old⟩, address, present, same, permanent⟩ := (retired_iff _ cutoff link).mp again
    have before : db.retired cutoff link = true := (retired_iff db cutoff link).mpr
      ⟨⟨row, done.emails.subset known, id, old⟩, address, done.addresses ▸ present, same, permanent⟩
    rw [kept.2] at before
    cases before
  have whole : (db.retention cutoff).2.unlink ((db.retention cutoff).2.retired cutoff) = (db.retention cutoff).2 := by
    have all : (db.retention cutoff).2.recipients.filter (fun link => !(db.retention cutoff).2.retired cutoff link) =
        (db.retention cutoff).2.recipients := List.filter_eq_self.mpr fun link member => by simp [spared link member]
    rw [Db.unlink, all]
  rw [retention_alone _ cutoff ids, Db.retentionAlone, whole, Prod.mk.injEq]
  refine ⟨List.countP_eq_zero.mpr fun link member => by simp [spared link member], drop_none _ _ fun row member => ?_⟩
  by_contra falls
  rw [Bool.not_eq_false, Bool.and_eq_true, decide_eq_true_eq, Bool.not_eq_true'] at falls
  refine (done.emailGone row (done.emails.subset member)).mpr ⟨falls.1, ?_⟩ member
  intro link known same
  by_contra other
  have kept : link ∈ (db.retention cutoff).2.recipients := by
    by_contra lost
    exact other ((done.linkGone link known).mp lost).2
  have alone := falls.2
  rw [Db.linked, List.any_eq_false] at alone
  exact alone link kept (by simpa using same)

-- Every period and every clock.
theorem retention_exact (db : Db) (retentionDays : Int) (now : Time) (valid : SchemaValid db) :
    (∀ cutoff, 0 < retentionDays → datetime (now - days retentionDays) = some cutoff →
      RetentionDone cutoff db (db.retentionCleanup retentionDays now).2 (db.retentionCleanup retentionDays now).1 ∧
        db.retentionCleanup retentionDays now = db.retentionAlone cutoff ∧
        (db.retentionCleanup retentionDays now).2.retention cutoff = (0, (db.retentionCleanup retentionDays now).2)) ∧
    (retentionDays ≤ 0 ∨ datetime (now - days retentionDays) = none → db.retentionCleanup retentionDays now = (0, db)) := by
  constructor
  · intro cutoff positive computed
    have run : db.retentionCleanup retentionDays now = db.retention cutoff := by
      rw [Db.retentionCleanup, if_neg (by omega), computed]
    rw [run]
    exact ⟨retention_done db cutoff valid, retention_alone db cutoff valid.emailIds, retention_again db cutoff valid⟩
  · intro idle
    rw [Db.retentionCleanup]
    by_cases off : retentionDays ≤ 0
    · rw [if_pos off]
    · rw [if_neg off, idle.resolve_left off]

def sharedMessage : Db where
  addresses := twoMailboxes
  emails := [sized 1 0 5, sized 2 0 5, sized 3 (days 20) 5]
  recipients := [⟨1, 10⟩, ⟨2, 10⟩, ⟨2, 11⟩, ⟨3, 10⟩]

theorem shared_message_valid : SchemaValid sharedMessage := by
  constructor <;> decide

theorem shared_message_retained :
    RetentionDone (days 10) sharedMessage (sharedMessage.retentionCleanup 30 (days 40)).2
        (sharedMessage.retentionCleanup 30 (days 40)).1 ∧
      sharedMessage.retentionCleanup 30 (days 40) = sharedMessage.retentionAlone (days 10) ∧
      (sharedMessage.retentionCleanup 30 (days 40)).2.retention (days 10) =
        (0, (sharedMessage.retentionCleanup 30 (days 40)).2) :=
  (retention_exact sharedMessage 30 (days 40) shared_message_valid).1 (days 10) (by decide) (by decide)

end Tempmail.Store
