import Tempmail.Api.Atomicity
import Tempmail.Lib.Machine
import Tempmail.Store.Preservation

set_option autoImplicit false

namespace Tempmail.Store

inductive Operation where
  | storeEmail (delivery : Delivery)
  | enforceEmailLimit (addressId : Uuid) (current : Option Mx.Config) (scan : List RecipientRow → List RecipientRow)
  | deleteEmailByToken (token : String) (emailId : Uuid) (now : Time)
  | deleteEmail (emailId : Uuid)
  | deleteAddress (addressId : Uuid)
  | cleanupExpiredAddresses (now : Time)
  | enforceStorageLimit (maxStorageMb : Int)
  | cleanupPermanentEmailRetention (retentionDays : Int) (now : Time)
  | purgePermanentEmails (addressId : Uuid)
  | create (settings : Api.CreationSettings) (dependencies : Except Api.HTTPException Unit) (draws : Api.Draws)
      (faults : Api.Faults) (route : Api.CreationRoute)

structure MailboxInvariant (db : Db) : Prop where
  emailsDelivered : ∀ row ∈ db.emails, ∃ link ∈ db.recipients, link.emailId = row.id
  linksEmail : ∀ link ∈ db.recipients, ∃ row ∈ db.emails, row.id = link.emailId
  linksAddress : ∀ link ∈ db.recipients, ∃ row ∈ db.addresses, row.id = link.addressId
  linksDistinct : (db.recipients.map (fun link => (link.emailId, link.addressId))).Nodup
  filesEmail : ∀ file ∈ db.attachments, ∃ row ∈ db.emails, row.id = file.emailId
  flags : ∀ row ∈ db.emails, row.data.hasAttachments = true ↔ ∃ file ∈ db.attachments, file.emailId = row.id
  lifetimes : ∀ row ∈ db.addresses, row.expiresAt = none ↔ row.addressType = .permanent

theorem consistent_invariant (db : Db) (consistent : Consistent db) : MailboxInvariant db := by
  refine ⟨?_, consistent.linkEmail, consistent.linkAddress, ?_, consistent.fileEmail, consistent.flags,
    consistent.lifetimes⟩
  · intro row member
    have linked := (consistent.linked row member).resolve_right (by simp)
    obtain ⟨link, known, same⟩ := List.any_eq_true.mp linked
    exact ⟨link, known, by simpa using same⟩
  · apply consistent.distinct.map
    intro a b same
    rw [Prod.mk.injEq] at same
    cases a
    cases b
    simp_all

theorem prepared_lifetime (python : Api.Python) (settings : Api.CreationSettings) (db : Db) (draws : Api.Draws)
    (dependencies : Except Api.HTTPException Unit) (route : Api.CreationRoute) (creation : Api.Creation)
    (prepared : route.prepare python settings dependencies db draws = .ok creation) (expiresAt : Option Time)
    (dated : creation.expiresAt = some expiresAt) : expiresAt = none ↔ creation.addressType = .permanent := by
  rcases Api.prepare_cases python settings db draws dependencies route creation prepared with
    ⟨body, request, -, -, checked⟩ | ⟨body, request, -, checked⟩
  · obtain ⟨kind, date, -⟩ := Api.prepare_address_spec python settings db draws request creation checked
    rw [dated] at date
    obtain ⟨moment, -, same⟩ := Option.map_eq_some_iff.mp date.symm
    rw [← same, kind]
    simp
  · obtain ⟨kind, date, -⟩ := Api.prepare_permanent_spec python settings db draws request creation checked
    rw [dated, Option.some.injEq] at date
    rw [date, kind]
    simp

theorem creation_row_fields (creation : Api.Creation) (draws : Api.Draws) (row : AddressRow)
    (built : creation.row draws = some row) :
    creation.expiresAt = some row.expiresAt ∧ row.addressType = creation.addressType := by
  unfold Api.Creation.row at built
  split at built
  · cases built
  · rename_i expiresAt dated
    split at built
    · cases built
      exact ⟨dated, rfl⟩
    · cases built

theorem insert_consistent (db : Db) (draws : Api.Draws) (faults : Api.Faults) (creation : Api.Creation)
    (writes : List Api.AddressWrite) (consistent : Consistent db)
    (lifetime : ∀ expiresAt, creation.expiresAt = some expiresAt → (expiresAt = none ↔ creation.addressType = .permanent)) :
    Consistent (creation.insert db draws faults writes).db := by
  unfold Api.Creation.insert
  cases built : creation.row draws with
  | none => exact consistent
  | some row =>
      obtain ⟨dated, kind⟩ := creation_row_fields creation draws row built
      have matched : row.expiresAt = none ↔ row.addressType = .permanent := by
        rw [kind]
        exact lifetime row.expiresAt dated
      dsimp only
      by_cases accepted : db.accepts row = true
      · have inserted := insert_address_consistent db row consistent accepted matched
        simp only [accepted, Bool.not_true, Bool.false_eq_true, if_false]
        cases faults.insert
        · exact inserted
        · exact consistent
        · exact inserted
      · simpa [accepted] using consistent

theorem create_consistent (python : Api.Python) (settings : Api.CreationSettings) (emailStr : String → Bool)
    (dependencies : Except Api.HTTPException Unit) (db : Db) (draws : Api.Draws) (faults : Api.Faults)
    (route : Api.CreationRoute) (consistent : Consistent db) :
    Consistent (route.handle python settings emailStr dependencies db draws faults).db := by
  rw [Api.CreationRoute.handle, Api.respond_db]
  unfold Api.perform
  split
  · exact consistent
  · cases prepared : route.prepare python settings dependencies db draws with
    | error refusal => exact consistent
    | ok creation =>
        have lifetime := prepared_lifetime python settings db draws dependencies route creation prepared
        dsimp only
        unfold Api.Creation.perform
        cases creation.existing with
        | none => exact insert_consistent db draws faults creation [] consistent lifetime
        | some existing =>
            have released := delete_address_consistent db existing.id consistent
            cases faults.release with
            | failed => exact consistent
            | unconfirmed => exact released
            | done => exact insert_consistent _ draws faults creation _ released lifetime

section Run

variable {IP : Type} (runes : Mx.Runes) (services : Mx.Services IP) (python : Api.Python) (emailStr : String → Bool)

def apply (db : Db) : Operation → Db
  | .storeEmail delivery => db.storeEmail runes services delivery
  | .enforceEmailLimit addressId current scan => db.enforceEmailLimit addressId current scan
  | .deleteEmailByToken token emailId now => db.deleteEmailByToken token emailId now
  | .deleteEmail emailId => db.deleteEmail emailId
  | .deleteAddress addressId => db.deleteAddress addressId
  | .cleanupExpiredAddresses now => db.cleanupExpiredAddresses now
  | .enforceStorageLimit maxStorageMb => db.enforceStorageLimit maxStorageMb
  | .cleanupPermanentEmailRetention retentionDays now => db.cleanupPermanentEmailRetention retentionDays now
  | .purgePermanentEmails addressId => db.purgePermanentEmails addressId
  | .create settings dependencies draws faults route =>
      (route.handle python settings emailStr dependencies db draws faults).db

def mailboxes : Machine Db Operation Unit := ⟨fun db operation => (apply runes services python emailStr db operation, ())⟩

theorem apply_consistent (db : Db) (operation : Operation) (consistent : Consistent db) :
    Consistent (apply runes services python emailStr db operation) := by
  cases operation with
  | storeEmail delivery => exact store_email_consistent runes services db delivery consistent
  | enforceEmailLimit addressId current scan => exact enforce_email_limit_consistent db addressId current scan consistent
  | deleteEmailByToken token emailId now => exact delete_email_by_token_consistent db token emailId now consistent
  | deleteEmail emailId => exact delete_email_consistent db emailId consistent
  | deleteAddress addressId => exact delete_address_consistent db addressId consistent
  | cleanupExpiredAddresses now => exact cleanup_expired_consistent db now consistent
  | enforceStorageLimit maxStorageMb => exact enforce_storage_limit_consistent db maxStorageMb consistent
  | cleanupPermanentEmailRetention retentionDays now => exact cleanup_retention_consistent db retentionDays now consistent
  | purgePermanentEmails addressId => exact purge_permanent_consistent db addressId consistent
  | create settings dependencies draws faults route =>
      exact create_consistent python settings emailStr dependencies db draws faults route consistent

-- Every state reached from the empty schema.
theorem mailboxes_sound (operations : List Operation) :
    MailboxInvariant ((mailboxes runes services python emailStr).final {} operations) :=
  consistent_invariant _ (Machine.invariant_run (mailboxes runes services python emailStr) Consistent (fun _ => True)
    (fun db operation _ consistent => apply_consistent runes services python emailStr db operation consistent)
    {} operations (fun _ _ => trivial) empty_consistent).1

end Run

end Tempmail.Store
