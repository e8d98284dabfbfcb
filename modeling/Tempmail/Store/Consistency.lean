import Tempmail.Store.Operations

set_option autoImplicit false

namespace Tempmail.Store

-- The store invariant while triggers are outstanding: emails whose id is
-- pending may have lost their last link.
structure ConsistentBut (pending : List Uuid) (db : Db) : Prop where
  emailIds : (db.emails.map EmailRow.id).Nodup
  addressIds : (db.addresses.map AddressRow.id).Nodup
  linked : ∀ row ∈ db.emails, db.linked row.id = true ∨ row.id ∈ pending
  linkEmail : ∀ link ∈ db.recipients, ∃ row ∈ db.emails, row.id = link.emailId
  linkAddress : ∀ link ∈ db.recipients, ∃ row ∈ db.addresses, row.id = link.addressId
  distinct : db.recipients.Nodup
  fileEmail : ∀ file ∈ db.attachments, ∃ row ∈ db.emails, row.id = file.emailId
  flags : ∀ row ∈ db.emails, row.data.hasAttachments = true ↔ ∃ file ∈ db.attachments, file.emailId = row.id
  lifetimes : ∀ row ∈ db.addresses, row.expiresAt = none ↔ row.addressType = .permanent

abbrev Consistent (db : Db) : Prop := ConsistentBut [] db

theorem consistent_pending (pending : List Uuid) (db : Db) (consistent : Consistent db) : ConsistentBut pending db :=
  { consistent with linked := fun row member => Or.inl ((consistent.linked row member).resolve_right (by simp)) }

theorem empty_consistent : Consistent {} := by
  constructor <;> simp

theorem dropped_id_iff (db : Db) (doomed : EmailRow → Bool) (ids : (db.emails.map EmailRow.id).Nodup) (row : EmailRow)
    (member : row ∈ db.emails) : (db.emails.filter doomed).any (fun other => other.id == row.id) = doomed row := by
  cases kept : doomed row with
  | true => exact List.any_eq_true.mpr ⟨row, List.mem_filter.mpr ⟨member, kept⟩, by simp⟩
  | false =>
      rw [List.any_eq_false]
      intro other dropped same
      obtain ⟨known, gone⟩ := List.mem_filter.mp dropped
      have equal := List.inj_on_of_nodup_map ids known member (by simpa using same)
      rw [equal, kept] at gone
      cases gone

theorem drop_keeps_links (db : Db) (doomed : EmailRow → Bool) (ids : (db.emails.map EmailRow.id).Nodup) (row : EmailRow)
    (member : row ∈ db.emails) (kept : doomed row = false) : (db.dropEmails doomed).linked row.id = db.linked row.id := by
  have survives := dropped_id_iff db doomed ids row member
  rw [kept] at survives
  simp only [Db.linked, Db.dropEmails]
  rw [List.any_filter]
  congr 1
  funext link
  by_cases same : link.emailId = row.id
  · simp only [same, survives, Bool.not_false, Bool.true_and]
  · simp [same]

theorem drop_emails_but (pending : List Uuid) (db : Db) (doomed : EmailRow → Bool) (consistent : ConsistentBut pending db) :
    ConsistentBut pending (db.dropEmails doomed) := by
  have survivor : ∀ emailId, ((db.emails.filter doomed).any (fun row => row.id == emailId)) = false →
      (∃ row ∈ db.emails, row.id = emailId) → ∃ row ∈ (db.dropEmails doomed).emails, row.id = emailId := by
    rintro emailId kept ⟨row, member, same⟩
    subst same
    rw [dropped_id_iff db doomed consistent.emailIds row member] at kept
    exact ⟨row, List.mem_filter.mpr ⟨member, by simp [kept]⟩, rfl⟩
  refine { consistent with emailIds := ?_, linked := ?_, linkEmail := ?_, linkAddress := ?_, distinct := ?_,
                           fileEmail := ?_, flags := ?_ }
  · exact consistent.emailIds.sublist (List.filter_sublist.map _)
  · intro row member
    obtain ⟨known, kept⟩ := List.mem_filter.mp member
    rw [drop_keeps_links db doomed consistent.emailIds row known (by simpa using kept)]
    exact consistent.linked row known
  · intro link member
    obtain ⟨known, kept⟩ := List.mem_filter.mp member
    exact survivor link.emailId (by simpa using kept) (consistent.linkEmail link known)
  · exact fun link member => consistent.linkAddress link (List.mem_filter.mp member).1
  · exact consistent.distinct.filter _
  · intro file member
    obtain ⟨known, kept⟩ := List.mem_filter.mp member
    exact survivor file.emailId (by simpa using kept) (consistent.fileEmail file known)
  · intro row member
    obtain ⟨known, kept⟩ := List.mem_filter.mp member
    have survives := dropped_id_iff db doomed consistent.emailIds row known
    rw [consistent.flags row known]
    constructor
    · rintro ⟨file, stored, same⟩
      refine ⟨file, List.mem_filter.mpr ⟨stored, ?_⟩, same⟩
      rw [same, survives]
      exact kept
    · rintro ⟨file, stored, same⟩
      exact ⟨file, (List.mem_filter.mp stored).1, same⟩

theorem delete_orphaned_but (emailId : Uuid) (pending : List Uuid) (db : Db)
    (consistent : ConsistentBut (emailId :: pending) db) : ConsistentBut pending (db.deleteOrphanedEmails emailId) := by
  refine { drop_emails_but (emailId :: pending) db _ consistent with linked := ?_ }
  intro row member
  obtain ⟨known, kept⟩ := List.mem_filter.mp member
  have stays : (row.id == emailId && !db.linked emailId) = false := by simpa only [Bool.not_eq_true'] using kept
  have links := drop_keeps_links db (fun row => row.id == emailId && !db.linked emailId) consistent.emailIds row known stays
  rw [Db.deleteOrphanedEmails, links]
  rcases consistent.linked row known with linked | waits
  · exact Or.inl linked
  · rcases List.mem_cons.mp waits with here | later
    · subst here
      exact Or.inl (by simpa using stays)
    · exact Or.inr later

theorem fire_triggers_consistent (removed : List RecipientRow) (db : Db)
    (consistent : ConsistentBut (removed.map RecipientRow.emailId) db) : Consistent (db.fireTriggers removed) := by
  induction removed generalizing db with
  | nil => exact consistent
  | cons link rest ih => exact ih _ (delete_orphaned_but link.emailId _ db consistent)

theorem unlink_but (db : Db) (keeps : AddressRow → Bool) (doomed : RecipientRow → Bool) (consistent : Consistent db)
    (covers : ∀ link ∈ db.recipients, doomed link = false → ∀ row ∈ db.addresses, row.id = link.addressId → keeps row = true) :
    ConsistentBut ((db.recipients.filter doomed).map RecipientRow.emailId)
      { db with
        addresses := db.addresses.filter keeps
        recipients := db.recipients.filter (fun link => !doomed link) } := by
  refine { consistent with addressIds := ?_, linked := ?_, linkEmail := ?_, linkAddress := ?_, distinct := ?_,
                           lifetimes := ?_ }
  · exact consistent.addressIds.sublist (List.filter_sublist.map _)
  · intro row member
    have linked := (consistent.linked row member).resolve_right (by simp)
    obtain ⟨link, known, same⟩ := List.any_eq_true.mp linked
    cases gone : doomed link with
    | false => exact Or.inl (List.any_eq_true.mpr ⟨link, List.mem_filter.mpr ⟨known, by simp [gone]⟩, same⟩)
    | true =>
        refine Or.inr (List.mem_map.mpr ⟨link, List.mem_filter.mpr ⟨known, gone⟩, ?_⟩)
        simpa using same
  · exact fun link member => consistent.linkEmail link (List.mem_filter.mp member).1
  · intro link member
    obtain ⟨known, kept⟩ := List.mem_filter.mp member
    obtain ⟨row, present, same⟩ := consistent.linkAddress link known
    exact ⟨row, List.mem_filter.mpr ⟨present, covers link known (by simpa using kept) row present same⟩, same⟩
  · exact consistent.distinct.filter _
  · exact fun row member => consistent.lifetimes row (List.mem_filter.mp member).1

theorem delete_recipients_consistent (db : Db) (doomed : RecipientRow → Bool) (consistent : Consistent db) :
    Consistent (db.deleteRecipients doomed) := by
  have pending := unlink_but db (fun _ => true) doomed consistent (fun _ _ _ _ _ _ => rfl)
  rw [List.filter_true] at pending
  exact fire_triggers_consistent _ _ pending

theorem delete_emails_consistent (db : Db) (doomed : EmailRow → Bool) (consistent : Consistent db) :
    Consistent (db.deleteEmails doomed) :=
  fire_triggers_consistent _ _ (consistent_pending _ _ (drop_emails_but [] db doomed consistent))

theorem delete_addresses_consistent (db : Db) (doomed : AddressRow → Bool) (consistent : Consistent db) :
    Consistent (db.deleteAddresses doomed) := by
  apply fire_triggers_consistent
  apply unlink_but db (fun row => !doomed row) _ consistent
  intro link _ kept row present same
  rw [List.any_eq_false] at kept
  by_contra gone
  exact kept row (List.mem_filter.mpr ⟨present, by simpa using gone⟩) (by simp [same])

theorem accepts_iff (db : Db) (row : AddressRow) :
    db.accepts row = true ↔
      ∀ other ∈ db.addresses, other.id ≠ row.id ∧ other.email ≠ row.email ∧ other.token ≠ row.token := by
  simp [Db.accepts, and_assoc]

theorem insert_address_consistent (db : Db) (row : AddressRow) (consistent : Consistent db) (accepted : db.accepts row = true)
    (lifetime : row.expiresAt = none ↔ row.addressType = .permanent) : Consistent (db.insertAddress row) := by
  refine { consistent with addressIds := ?_, linkAddress := ?_, lifetimes := ?_ }
  · rw [Db.insertAddress, List.map_append, List.nodup_append]
    refine ⟨consistent.addressIds, List.nodup_singleton _, ?_⟩
    intro known member fresh here same
    obtain ⟨other, present, id⟩ := List.mem_map.mp member
    rw [List.map_singleton, List.mem_singleton] at here
    exact ((accepts_iff db row).mp accepted other present).1 (by rw [id, same, here])
  · intro link member
    obtain ⟨known, present, same⟩ := consistent.linkAddress link member
    exact ⟨known, List.mem_append_left _ present, same⟩
  · intro known member
    rcases List.mem_append.mp member with present | fresh
    · exact consistent.lifetimes known present
    · rw [List.mem_singleton.mp fresh]
      exact lifetime

end Tempmail.Store
