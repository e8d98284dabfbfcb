import Tempmail.Store.Consistency

set_option autoImplicit false

namespace Tempmail.Store

theorem fire_triggers_links (removed : List RecipientRow) (db : Db) (link : RecipientRow)
    (member : link ∈ (db.fireTriggers removed).recipients) : link ∈ db.recipients := by
  induction removed generalizing db with
  | nil => exact member
  | cons first rest ih => exact (List.mem_filter.mp (ih (db.deleteOrphanedEmails first.emailId) member)).1

theorem delete_recipients_links (db : Db) (doomed : RecipientRow → Bool) (link : RecipientRow)
    (member : link ∈ (db.deleteRecipients doomed).recipients) : link ∈ db.recipients ∧ doomed link = false := by
  obtain ⟨known, kept⟩ := List.mem_filter.mp (fire_triggers_links _ _ link member)
  exact ⟨known, by simpa using kept⟩

theorem unlinked_file (db : Db) (emailId : Uuid) (consistent : Consistent db) (unlinked : db.linked emailId = false)
    (file : AttachmentRow) (member : file ∈ db.attachments) : file.emailId ≠ emailId := by
  intro same
  obtain ⟨row, present, id⟩ := consistent.fileEmail file member
  have linked := (consistent.linked row present).resolve_right (by simp)
  rw [id, same, unlinked] at linked
  cases linked

theorem delete_unlinked_consistent (db : Db) (emailId : Uuid) (consistent : Consistent db)
    (unlinked : db.linked emailId = false) :
    Consistent (Db.deleteEmails { db with attachments := db.attachments.filter (fun file => file.emailId != emailId) }
      (fun row => row.id == emailId)) := by
  have whole : db.attachments.filter (fun file => file.emailId != emailId) = db.attachments := by
    apply List.filter_eq_self.mpr
    intro file member
    simpa using unlinked_file db emailId consistent unlinked file member
  rw [whole]
  exact delete_emails_consistent db _ consistent

section Insert

variable (db : Db) (emailId : Uuid) (committed : Mx.Committed Uuid) (consistent : Consistent db)
variable (newId : ∀ row ∈ db.emails, row.id ≠ emailId)

include consistent newId

theorem new_email_unlinked (link : RecipientRow) (member : link ∈ db.recipients) : link.emailId ≠ emailId := by
  intro same
  obtain ⟨row, present, id⟩ := consistent.linkEmail link member
  exact newId row present (id.trans same)

theorem new_email_bare (file : AttachmentRow) (member : file ∈ db.attachments) : file.emailId ≠ emailId := by
  intro same
  obtain ⟨row, present, id⟩ := consistent.fileEmail file member
  exact newId row present (id.trans same)

theorem insert_committed_flags (flag : committed.email.hasAttachments = true ↔ committed.attachments ≠ []) (row : EmailRow)
    (member : row ∈ (db.insertCommitted emailId committed).emails) : row.data.hasAttachments = true ↔
      ∃ file ∈ (db.insertCommitted emailId committed).attachments, file.emailId = row.id := by
  rcases List.mem_append.mp member with present | new
  · rw [consistent.flags row present]
    constructor
    · rintro ⟨file, known, same⟩
      exact ⟨file, List.mem_append_left _ known, same⟩
    · rintro ⟨file, known, same⟩
      rcases List.mem_append.mp known with old | added
      · exact ⟨file, old, same⟩
      · obtain ⟨data, -, made⟩ := List.mem_map.mp added
        rw [← made] at same
        exact absurd same.symm (newId row present)
  · rw [List.mem_singleton.mp new]
    dsimp only
    rw [flag]
    constructor
    · intro filled
      obtain ⟨data, rest, same⟩ := List.exists_cons_of_ne_nil filled
      refine ⟨⟨emailId, data⟩, List.mem_append_right _ (List.mem_map.mpr ⟨data, ?_, rfl⟩), rfl⟩
      rw [same]
      exact List.mem_cons_self
    · rintro ⟨file, known, same⟩ empty
      rcases List.mem_append.mp known with old | added
      · exact new_email_bare db emailId consistent newId file old same
      · rw [empty] at added
        simp at added

theorem insert_committed_consistent (owner : ∃ row ∈ db.addresses, row.id = committed.addressID)
    (flag : committed.email.hasAttachments = true ↔ committed.attachments ≠ []) :
    Consistent (db.insertCommitted emailId committed) := by
  refine { consistent with emailIds := ?_, linked := ?_, linkEmail := ?_, linkAddress := ?_, distinct := ?_,
                           fileEmail := ?_, flags := insert_committed_flags db emailId committed consistent newId flag }
  · rw [Db.insertCommitted, List.map_append, List.nodup_append]
    refine ⟨consistent.emailIds, List.nodup_singleton _, ?_⟩
    intro known member other here same
    obtain ⟨row, present, id⟩ := List.mem_map.mp member
    rw [List.map_singleton, List.mem_singleton] at here
    exact newId row present (by rw [id, same, here])
  · intro row member
    rcases List.mem_append.mp member with present | new
    · have linked := (consistent.linked row present).resolve_right (by simp)
      exact Or.inl (by simp [Db.linked, Db.insertCommitted, List.any_append] at linked ⊢; exact Or.inl linked)
    · rw [List.mem_singleton.mp new]
      exact Or.inl (by simp [Db.linked, Db.insertCommitted])
  · intro link member
    rcases List.mem_append.mp member with present | new
    · obtain ⟨row, known, same⟩ := consistent.linkEmail link present
      exact ⟨row, List.mem_append_left _ known, same⟩
    · rw [List.mem_singleton.mp new]
      exact ⟨_, List.mem_append_right _ (List.mem_singleton.mpr rfl), rfl⟩
  · intro link member
    rcases List.mem_append.mp member with present | new
    · exact consistent.linkAddress link present
    · rw [List.mem_singleton.mp new]
      exact owner
  · refine List.nodup_append.mpr ⟨consistent.distinct, List.nodup_singleton _, ?_⟩
    intro link member other here same
    rw [List.mem_singleton.mp here] at same
    exact new_email_unlinked db emailId consistent newId link member (by rw [same])
  · intro file member
    rcases List.mem_append.mp member with present | new
    · obtain ⟨row, known, same⟩ := consistent.fileEmail file present
      exact ⟨row, List.mem_append_left _ known, same⟩
    · obtain ⟨data, -, same⟩ := List.mem_map.mp new
      exact ⟨_, List.mem_append_right _ (List.mem_singleton.mpr rfl), by rw [← same]⟩

end Insert

theorem store_email_consistent {IP : Type} (runes : Mx.Runes) (services : Mx.Services IP) (db : Db) (delivery : Delivery)
    (consistent : Consistent db) : Consistent (db.storeEmail runes services delivery) := by
  unfold Db.storeEmail
  cases stored : (Mx.storeEmail runes (db.calls delivery) (delivery.email runes services) delivery.attachments).2 with
  | none => exact consistent
  | some committed =>
      obtain ⟨fresh, selected, whole⟩ := Mx.transaction_built runes _ _ _ committed
        (Mx.store_email_committed runes _ _ _ committed stored)
      have newId : ∀ row ∈ db.emails, row.id ≠ delivery.emailId := by simpa [Db.calls] using fresh
      have owner : ∃ row ∈ db.addresses, row.id = committed.addressID := by
        simp only [Db.calls, Db.activeAddress, Option.some.injEq, Option.map_eq_some_iff] at selected
        obtain ⟨row, found, same⟩ := selected
        exact ⟨row, List.mem_of_find?_eq_some found, same⟩
      have flag : committed.email.hasAttachments = true ↔ committed.attachments ≠ [] := by
        rw [whole]
        simp [Mx.EmailData.sanitized, Delivery.email, Delivery.attachments, Mx.Session.composeEmail]
      exact insert_committed_consistent db delivery.emailId committed consistent newId owner flag

theorem enforce_email_limit_consistent (db : Db) (addressId : Uuid) (current : Option Mx.Config)
    (scan : List RecipientRow → List RecipientRow) (consistent : Consistent db) :
    Consistent (db.enforceEmailLimit addressId current scan) :=
  delete_recipients_consistent _ _ (drop_emails_but [] db _ consistent)

theorem delete_email_by_token_consistent (db : Db) (token : String) (emailId : Uuid) (now : Time)
    (consistent : Consistent db) : Consistent (db.deleteEmailByToken token emailId now) := by
  unfold Db.deleteEmailByToken
  split
  · exact consistent
  · split
    · exact consistent
    · split
      · exact consistent
      · rename_i address _ _ _
        have flushed := delete_recipients_consistent db (fun link => link == ⟨emailId, address.id⟩) consistent
        dsimp only
        split
        · exact flushed
        · rename_i unlinked
          exact delete_unlinked_consistent _ emailId flushed (by simpa using unlinked)

theorem delete_email_consistent (db : Db) (emailId : Uuid) (consistent : Consistent db) :
    Consistent (db.deleteEmail emailId) := by
  unfold Db.deleteEmail
  split
  · exact consistent
  · apply delete_unlinked_consistent _ emailId (delete_recipients_consistent db _ consistent)
    rw [Db.linked, List.any_eq_false]
    intro link member same
    have kept := (delete_recipients_links db _ link member).2
    rw [kept] at same
    cases same

theorem delete_address_consistent (db : Db) (addressId : Uuid) (consistent : Consistent db) :
    Consistent (db.deleteAddress addressId) :=
  delete_addresses_consistent _ _ (delete_recipients_consistent db _ consistent)

theorem cleanup_expired_consistent (db : Db) (now : Time) (consistent : Consistent db) :
    Consistent (db.cleanupExpiredAddresses now) :=
  delete_addresses_consistent db _ consistent

theorem enforce_storage_limit_consistent (db : Db) (maxStorageMb : Int) (consistent : Consistent db) :
    Consistent (db.enforceStorageLimit maxStorageMb) := by
  unfold Db.enforceStorageLimit
  split
  · exact consistent
  · dsimp only
    split
    · exact consistent
    · exact delete_emails_consistent db _ consistent

theorem cleanup_retention_consistent (db : Db) (retentionDays : Int) (now : Time) (consistent : Consistent db) :
    Consistent (db.cleanupPermanentEmailRetention retentionDays now) := by
  unfold Db.cleanupPermanentEmailRetention
  split
  · exact consistent
  · split
    · exact consistent
    · exact delete_emails_consistent _ _ (delete_recipients_consistent db _ consistent)

theorem purge_permanent_consistent (db : Db) (addressId : Uuid) (consistent : Consistent db) :
    Consistent (db.purgePermanentEmails addressId) := by
  unfold Db.purgePermanentEmails
  split
  · exact consistent
  · exact delete_emails_consistent _ _ (delete_recipients_consistent db _ consistent)

end Tempmail.Store
