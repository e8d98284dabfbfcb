import Mathlib.Data.List.Induction
import Tempmail.Mx.Delivery
import Tempmail.Store.Mailboxes

set_option autoImplicit false

namespace Tempmail.Store

theorem expired_iff (row : AddressRow) (now : Time) :
    row.isExpired now = true ↔ row.addressType = .temp ∧ ∃ expiresAt, row.expiresAt = some expiresAt ∧ expiresAt < now := by
  unfold AddressRow.isExpired
  cases row.addressType with
  | permanent => simp
  | temp =>
      cases row.expiresAt with
      | none => simp
      | some expiresAt => simp

def Operation.now : Operation → Option Time
  | .cleanupExpiredAddresses now => some now
  | .create _ _ draws _ _ => some draws.now
  | _ => none

-- A temporary address whose time was over when the step read the clock.
def Expired (operation : Operation) (row : AddressRow) : Prop :=
  row.addressType = .temp ∧ ∃ expiresAt now, row.expiresAt = some expiresAt ∧ operation.now = some now ∧ expiresAt < now

section Links

def Fewer (before after : Db) : Prop := ∀ link ∈ after.recipients, link ∈ before.recipients

theorem fewer_same (db : Db) : Fewer db db := fun _ member => member

theorem fewer_trans (first second third : Db) (early : Fewer first second) (late : Fewer second third) : Fewer first third :=
  fun link member => early link (late link member)

theorem fewer_emails (db : Db) (doomed : EmailRow → Bool) : Fewer db (db.deleteEmails doomed) :=
  fun link member => (List.mem_filter.mp (fire_triggers_links _ _ link member)).1

theorem fewer_stripped (db : Db) (kept : AttachmentRow → Bool) (doomed : EmailRow → Bool) :
    Fewer db (Db.deleteEmails { db with attachments := db.attachments.filter kept } doomed) :=
  fun link member => fewer_emails { db with attachments := db.attachments.filter kept } doomed link member

theorem fewer_recipients (db : Db) (doomed : RecipientRow → Bool) : Fewer db (db.deleteRecipients doomed) :=
  fun link member => (delete_recipients_links db doomed link member).1

theorem fewer_addresses (db : Db) (doomed : AddressRow → Bool) : Fewer db (db.deleteAddresses doomed) :=
  fun link member => (delete_recipients_links _ _ link member).1

theorem fewer_address (db : Db) (addressId : Uuid) : Fewer db (db.deleteAddress addressId) :=
  fewer_trans db _ _ (fewer_recipients db _) (fewer_addresses _ _)

end Links

-- The states a creation request can leave.
theorem created_cases (python : Api.Python) (settings : Api.CreationSettings) (emailStr : String → Bool)
    (dependencies : Except Api.HTTPException Unit) (db : Db) (draws : Api.Draws) (faults : Api.Faults)
    (route : Api.CreationRoute) :
    (route.handle python settings emailStr dependencies db draws faults).db = db ∨
      ∃ creation, route.prepare python settings dependencies db draws = .ok creation ∧
        ((route.handle python settings emailStr dependencies db draws faults).db = creation.released db ∨
          ∃ row, creation.row draws = some row ∧ (creation.released db).accepts row = true ∧
            (route.handle python settings emailStr dependencies db draws faults).db =
              (creation.released db).insertAddress row) := by
  have inserted : ∀ (creation : Api.Creation) start writes, (creation.insert start draws faults writes).db = start ∨
      ∃ row, creation.row draws = some row ∧ start.accepts row = true ∧
        (creation.insert start draws faults writes).db = start.insertAddress row := by
    intro creation start writes
    by_cases takes : creation.Insertable start draws ∧ faults.insert ≠ .failed
    · obtain ⟨row, built, accepted⟩ := takes.1
      refine Or.inr ⟨row, built, accepted, ?_⟩
      simp only [Api.Creation.insert, built, accepted, Bool.not_true, Bool.false_eq_true, if_false]
      cases outcome : faults.insert with
      | failed => exact absurd outcome takes.2
      | unconfirmed => rfl
      | done => rfl
    · rw [Api.insert_refused start draws faults creation writes takes]
      exact Or.inl rfl
  rw [Api.CreationRoute.handle, Api.respond_db]
  unfold Api.perform
  split
  · exact Or.inl rfl
  · cases prepared : route.prepare python settings dependencies db draws with
    | error refusal => exact Or.inl rfl
    | ok creation =>
        dsimp only
        unfold Api.Creation.perform
        cases held : creation.existing with
        | none =>
            refine Or.inr ⟨creation, rfl, ?_⟩
            rw [Api.Creation.released, held]
            exact inserted creation db []
        | some existing =>
            cases faults.release with
            | failed => exact Or.inl rfl
            | unconfirmed =>
                refine Or.inr ⟨creation, rfl, Or.inl ?_⟩
                rw [Api.Creation.released, held]
            | done =>
                refine Or.inr ⟨creation, rfl, ?_⟩
                rw [Api.Creation.released, held]
                exact inserted creation (db.deleteAddress existing.id) _

section Step

variable {IP : Type} (runes : Mx.Runes) (services : Mx.Services IP) (python : Api.Python) (emailStr : String → Bool)
variable (db : Db)

theorem delete_address_addresses (addressId : Uuid) :
    (db.deleteAddress addressId).addresses = db.addresses.filter (fun row => row.id != addressId) := by
  rw [Db.deleteAddress, delete_addresses_addresses, delete_recipients_addresses]
  rfl

theorem released_row (settings : Api.CreationSettings) (dependencies : Except Api.HTTPException Unit) (draws : Api.Draws)
    (route : Api.CreationRoute) (creation : Api.Creation)
    (prepared : route.prepare python settings dependencies db draws = .ok creation)
    (consistent : Consistent db) (row : AddressRow)
    (member : row ∈ db.addresses) (gone : row ∉ (creation.released db).addresses) :
    row.addressType = .temp ∧ ∃ expiresAt, row.expiresAt = some expiresAt ∧ expiresAt < draws.now := by
  unfold Api.Creation.released at gone
  cases held : creation.existing with
  | none =>
      rw [held] at gone
      exact absurd member gone
  | some existing =>
      rw [held, delete_address_addresses] at gone
      obtain ⟨found, expired⟩ := Api.prepare_existing python settings db draws dependencies route creation prepared existing held
      have same : row.id = existing.id := by
        by_contra apart
        exact gone (List.mem_filter.mpr ⟨member, by simpa using apart⟩)
      have equal : row = existing :=
        List.inj_on_of_nodup_map consistent.addressIds member (List.mem_of_find?_eq_some found) same
      exact (expired_iff row draws.now).mp (equal ▸ expired)

theorem create_drops (settings : Api.CreationSettings) (dependencies : Except Api.HTTPException Unit) (draws : Api.Draws)
    (faults : Api.Faults) (route : Api.CreationRoute) (consistent : Consistent db) (row : AddressRow)
    (member : row ∈ db.addresses)
    (gone : row ∉ (route.handle python settings emailStr dependencies db draws faults).db.addresses) :
    row.addressType = .temp ∧ ∃ expiresAt, row.expiresAt = some expiresAt ∧ expiresAt < draws.now := by
  rcases created_cases python settings emailStr dependencies db draws faults route with
    same | ⟨creation, prepared, same | ⟨fresh, -, -, same⟩⟩
  · rw [same] at gone
    exact absurd member gone
  · rw [same] at gone
    exact released_row python db settings dependencies draws route creation prepared consistent row member gone
  · rw [same] at gone
    exact released_row python db settings dependencies draws route creation prepared consistent row member
      (fun kept => gone (List.mem_append_left _ kept))

theorem store_keeps_addresses (delivery : Delivery) : (db.storeEmail runes services delivery).addresses = db.addresses := by
  unfold Db.storeEmail
  split <;> rfl

theorem limit_keeps_addresses (addressId : Uuid) (current : Option Mx.Config) (scan : List RecipientRow → List RecipientRow) :
    (db.enforceEmailLimit addressId current scan).addresses = db.addresses := delete_recipients_addresses _ _

theorem token_keeps_addresses (token : String) (emailId : Uuid) (now : Time) :
    (db.deleteEmailByToken token emailId now).addresses = db.addresses := by
  unfold Db.deleteEmailByToken
  split
  · rfl
  · split
    · rfl
    · split
      · rfl
      · dsimp only
        split
        · exact delete_recipients_addresses _ _
        · exact (delete_emails_addresses _ _).trans (delete_recipients_addresses _ _)

theorem email_keeps_addresses (emailId : Uuid) : (db.deleteEmail emailId).addresses = db.addresses := by
  unfold Db.deleteEmail
  split
  · rfl
  · exact (delete_emails_addresses _ _).trans (delete_recipients_addresses _ _)

theorem storage_keeps_addresses (maxStorageMb : Int) : (db.enforceStorageLimit maxStorageMb).addresses = db.addresses := by
  unfold Db.enforceStorageLimit
  split
  · rfl
  · dsimp only
    split
    · rfl
    · exact delete_emails_addresses _ _

theorem retention_keeps_addresses (retentionDays : Int) (now : Time) :
    (db.cleanupPermanentEmailRetention retentionDays now).addresses = db.addresses := by
  unfold Db.cleanupPermanentEmailRetention
  split
  · rfl
  · split
    · rfl
    · exact (delete_emails_addresses _ _).trans (delete_recipients_addresses _ _)

theorem purge_keeps_addresses (addressId : Uuid) : (db.purgePermanentEmails addressId).addresses = db.addresses := by
  unfold Db.purgePermanentEmails
  split
  · rfl
  · exact (delete_emails_addresses _ _).trans (delete_recipients_addresses _ _)

-- One step: which address rows it can take away.
theorem apply_drops (operation : Operation) (consistent : Consistent db) (row : AddressRow) (member : row ∈ db.addresses)
    (gone : row ∉ (apply runes services python emailStr db operation).addresses) :
    operation = .deleteAddress row.id ∨ Expired operation row := by
  cases operation with
  | storeEmail delivery => exact absurd (store_keeps_addresses runes services db delivery ▸ member) gone
  | enforceEmailLimit addressId current scan => exact absurd (limit_keeps_addresses db addressId current scan ▸ member) gone
  | deleteEmailByToken token emailId now => exact absurd (token_keeps_addresses db token emailId now ▸ member) gone
  | deleteEmail emailId => exact absurd (email_keeps_addresses db emailId ▸ member) gone
  | deleteAddress addressId =>
      rw [apply, delete_address_addresses] at gone
      have same : row.id = addressId := by
        by_contra apart
        exact gone (List.mem_filter.mpr ⟨member, by simpa using apart⟩)
      exact Or.inl (by rw [same])
  | cleanupExpiredAddresses now =>
      rw [apply, Db.cleanupExpiredAddresses, delete_addresses_addresses] at gone
      cases dated : row.expiresAt with
      | none => exact absurd (List.mem_filter.mpr ⟨member, by simp [dated]⟩) gone
      | some expiresAt =>
          have past : expiresAt < now := by
            by_contra alive
            exact gone (List.mem_filter.mpr ⟨member, by simpa [dated] using alive⟩)
          have kind : row.addressType = .temp := by
            cases holds : row.addressType with
            | temp => rfl
            | permanent =>
                rw [(consistent.lifetimes row member).mpr holds] at dated
                cases dated
          exact Or.inr ⟨kind, expiresAt, now, dated, rfl, past⟩
  | enforceStorageLimit maxStorageMb => exact absurd (storage_keeps_addresses db maxStorageMb ▸ member) gone
  | cleanupPermanentEmailRetention retentionDays now =>
      exact absurd (retention_keeps_addresses db retentionDays now ▸ member) gone
  | purgePermanentEmails addressId => exact absurd (purge_keeps_addresses db addressId ▸ member) gone
  | create settings dependencies draws faults route =>
      obtain ⟨kind, expiresAt, dated, past⟩ :=
        create_drops python emailStr db settings dependencies draws faults route consistent row member gone
      exact Or.inr ⟨kind, expiresAt, draws.now, dated, rfl, past⟩

theorem stored_links (delivery : Delivery) (link : RecipientRow)
    (member : link ∈ (db.storeEmail runes services delivery).recipients) :
    link ∈ db.recipients ∨ delivery.emailId = link.emailId ∧ ∀ row ∈ db.emails, row.id ≠ link.emailId := by
  rw [Db.storeEmail] at member
  cases stored : (Mx.storeEmail runes (db.calls delivery) (delivery.email runes services) delivery.attachments).2 with
  | none =>
      rw [stored] at member
      exact Or.inl member
  | some committed =>
      rw [stored] at member
      rcases List.mem_append.mp member with old | new
      · exact Or.inl old
      · obtain ⟨fresh, -, -⟩ := Mx.transaction_built runes _ _ _ committed
          (Mx.store_email_committed runes _ _ _ committed stored)
        rw [List.mem_singleton] at new
        refine Or.inr ⟨by rw [new], ?_⟩
        rw [new]
        simpa [Db.calls] using fresh

theorem token_links (token : String) (emailId : Uuid) (now : Time) : Fewer db (db.deleteEmailByToken token emailId now) := by
  rw [Db.deleteEmailByToken]
  split
  · exact fewer_same db
  · split
    · exact fewer_same db
    · split
      · exact fewer_same db
      · dsimp only
        split
        · exact fewer_recipients db _
        · exact fun link member => fewer_recipients db _ link (fewer_stripped _ _ _ link member)

theorem admin_links (emailId : Uuid) : Fewer db (db.deleteEmail emailId) := by
  rw [Db.deleteEmail]
  split
  · exact fewer_same db
  · exact fun link member => fewer_recipients db _ link (fewer_stripped _ _ _ link member)

theorem storage_links (maxStorageMb : Int) : Fewer db (db.enforceStorageLimit maxStorageMb) := by
  rw [Db.enforceStorageLimit]
  split
  · exact fewer_same db
  · dsimp only
    split
    · exact fewer_same db
    · exact fewer_emails db _

theorem retention_links (retentionDays : Int) (now : Time) : Fewer db (db.cleanupPermanentEmailRetention retentionDays now) := by
  rw [Db.cleanupPermanentEmailRetention]
  split
  · exact fewer_same db
  · split
    · exact fewer_same db
    · exact fun link member => fewer_recipients db _ link (fewer_emails _ _ link member)

theorem purge_links (addressId : Uuid) : Fewer db (db.purgePermanentEmails addressId) := by
  rw [Db.purgePermanentEmails]
  split
  · exact fewer_same db
  · exact fun link member => fewer_recipients db _ link (fewer_emails _ _ link member)

theorem released_links (creation : Api.Creation) : Fewer db (creation.released db) := by
  unfold Api.Creation.released
  cases creation.existing with
  | none => exact fewer_same db
  | some existing => exact fewer_address db existing.id

theorem apply_links (operation : Operation) (link : RecipientRow)
    (member : link ∈ (apply runes services python emailStr db operation).recipients) :
    link ∈ db.recipients ∨ ∃ delivery, operation = .storeEmail delivery ∧ delivery.emailId = link.emailId ∧
      ∀ row ∈ db.emails, row.id ≠ link.emailId := by
  cases operation with
  | storeEmail delivery =>
      rcases stored_links runes services db delivery link member with old | ⟨same, fresh⟩
      · exact Or.inl old
      · exact Or.inr ⟨delivery, rfl, same, fresh⟩
  | enforceEmailLimit addressId current scan =>
      exact Or.inl (List.mem_filter.mp (fewer_recipients _ _ link member)).1
  | deleteEmailByToken token emailId now => exact Or.inl (token_links db token emailId now link member)
  | deleteEmail emailId => exact Or.inl (admin_links db emailId link member)
  | deleteAddress addressId => exact Or.inl (fewer_address db addressId link member)
  | cleanupExpiredAddresses now => exact Or.inl (fewer_addresses db _ link member)
  | enforceStorageLimit maxStorageMb => exact Or.inl (storage_links db maxStorageMb link member)
  | cleanupPermanentEmailRetention retentionDays now => exact Or.inl (retention_links db retentionDays now link member)
  | purgePermanentEmails addressId => exact Or.inl (purge_links db addressId link member)
  | create settings dependencies draws faults route =>
      rw [apply] at member
      rcases created_cases python settings emailStr dependencies db draws faults route with
        same | ⟨creation, -, same | ⟨fresh, -, -, same⟩⟩
      · exact Or.inl (same ▸ member)
      · rw [same] at member
        exact Or.inl (released_links db creation link member)
      · rw [same] at member
        exact Or.inl (released_links db creation link member)

-- A new row finds no link to its id.
theorem created_empty (operation : Operation) (consistent : Consistent db) (row : AddressRow) (fresh : row ∉ db.addresses)
    (created : row ∈ (apply runes services python emailStr db operation).addresses) :
    ∀ link ∈ (apply runes services python emailStr db operation).recipients, link.addressId ≠ row.id := by
  cases operation with
  | storeEmail delivery => exact absurd (store_keeps_addresses runes services db delivery ▸ created) fresh
  | enforceEmailLimit addressId current scan => exact absurd (limit_keeps_addresses db addressId current scan ▸ created) fresh
  | deleteEmailByToken token emailId now => exact absurd (token_keeps_addresses db token emailId now ▸ created) fresh
  | deleteEmail emailId => exact absurd (email_keeps_addresses db emailId ▸ created) fresh
  | deleteAddress addressId =>
      rw [apply, delete_address_addresses] at created
      exact absurd (List.mem_filter.mp created).1 fresh
  | cleanupExpiredAddresses now =>
      rw [apply, Db.cleanupExpiredAddresses, delete_addresses_addresses] at created
      exact absurd (List.mem_filter.mp created).1 fresh
  | enforceStorageLimit maxStorageMb => exact absurd (storage_keeps_addresses db maxStorageMb ▸ created) fresh
  | cleanupPermanentEmailRetention retentionDays now =>
      exact absurd (retention_keeps_addresses db retentionDays now ▸ created) fresh
  | purgePermanentEmails addressId => exact absurd (purge_keeps_addresses db addressId ▸ created) fresh
  | create settings dependencies draws faults route =>
      have start : ∀ creation : Api.Creation, Consistent (creation.released db) ∧ row ∉ (creation.released db).addresses := by
        intro creation
        unfold Api.Creation.released
        cases creation.existing with
        | none => exact ⟨consistent, fresh⟩
        | some existing =>
            refine ⟨delete_address_consistent db existing.id consistent, fun kept => ?_⟩
            rw [delete_address_addresses] at kept
            exact fresh (List.mem_filter.mp kept).1
      rw [apply] at created ⊢
      rcases created_cases python settings emailStr dependencies db draws faults route with
        same | ⟨creation, -, same | ⟨inserted, -, accepted, same⟩⟩
      · exact absurd (same ▸ created) fresh
      · exact absurd (same ▸ created) (start creation).2
      · rw [same] at created ⊢
        obtain ⟨sound, absent⟩ := start creation
        have here : row = inserted := by
          rcases List.mem_append.mp created with old | new
          · exact absurd old absent
          · exact List.mem_singleton.mp new
        intro link member id
        obtain ⟨owner, present, owned⟩ := sound.linkAddress link member
        exact ((accepts_iff _ inserted).mp accepted owner present).1 (by rw [owned, id, here])

theorem links_stored (operations : List Operation) (link : RecipientRow)
    (member : link ∈ ((mailboxes runes services python emailStr).final db operations).recipients) :
    link ∈ db.recipients ∨ ∃ early delivery late, operations = early ++ .storeEmail delivery :: late ∧
      delivery.emailId = link.emailId ∧
      ∀ row ∈ ((mailboxes runes services python emailStr).final db early).emails, row.id ≠ link.emailId := by
  induction operations using List.reverseRecOn with
  | nil => exact Or.inl member
  | append_singleton earlier operation ih =>
      rw [Machine.final_append] at member
      rcases apply_links runes services python emailStr _ operation link member with old | ⟨delivery, same, id, fresh⟩
      · rcases ih old with first | ⟨early, delivery, late, split, id, fresh⟩
        · exact Or.inl first
        · exact Or.inr ⟨early, delivery, late ++ [operation], by rw [split]; simp, id, fresh⟩
      · exact Or.inr ⟨earlier, delivery, [], by rw [same], id, fresh⟩

end Step

structure MailboxesLive {IP : Type} (runes : Mx.Runes) (services : Mx.Services IP) (python : Api.Python)
    (emailStr : String → Bool)
    (start : Db) (operations : List Operation) : Prop where
  removed : ∀ moment ∈ (mailboxes runes services python emailStr).trace start operations, ∀ row ∈ moment.before.addresses,
    row ∉ (apply runes services python emailStr moment.before moment.event).addresses →
      moment.event = .deleteAddress row.id ∨ Expired moment.event row
  permanent : ∀ moment ∈ (mailboxes runes services python emailStr).trace start operations, ∀ row ∈ moment.before.addresses,
    row.addressType = .permanent → moment.event ≠ .deleteAddress row.id →
      row ∈ (apply runes services python emailStr moment.before moment.event).addresses
  created : ∀ before operation after row, operations = before ++ operation :: after →
    row ∉ ((mailboxes runes services python emailStr).final start before).addresses →
    row ∈ ((mailboxes runes services python emailStr).final start (before ++ [operation])).addresses →
      (∀ link ∈ ((mailboxes runes services python emailStr).final start (before ++ [operation])).recipients,
        link.addressId ≠ row.id) ∧
        ∀ link ∈ ((mailboxes runes services python emailStr).final start operations).recipients, link.addressId = row.id →
          ∃ early delivery late, after = early ++ .storeEmail delivery :: late ∧ delivery.emailId = link.emailId ∧
            ∀ email ∈ ((mailboxes runes services python emailStr).final start (before ++ operation :: early)).emails,
              email.id ≠ link.emailId

theorem mailboxes_live {IP : Type} (runes : Mx.Runes) (services : Mx.Services IP) (python : Api.Python) (emailStr : String → Bool)
    (start : Db) (consistent : Consistent start) (operations : List Operation) :
    MailboxesLive runes services python emailStr start operations := by
  have reached : ∀ some, Consistent ((mailboxes runes services python emailStr).final start some) := fun some =>
    (Machine.invariant_run (mailboxes runes services python emailStr) Consistent (fun _ => True)
      (fun db operation _ sound => apply_consistent runes services python emailStr db operation sound)
      start some (fun _ _ => trivial) consistent).1
  have during := (Machine.invariant_run (mailboxes runes services python emailStr) Consistent (fun _ => True)
    (fun db operation _ sound => apply_consistent runes services python emailStr db operation sound)
    start operations (fun _ _ => trivial) consistent).2
  have removed : ∀ moment ∈ (mailboxes runes services python emailStr).trace start operations, ∀ row ∈ moment.before.addresses,
      row ∉ (apply runes services python emailStr moment.before moment.event).addresses →
        moment.event = .deleteAddress row.id ∨ Expired moment.event row :=
    fun moment member row present gone =>
      apply_drops runes services python emailStr moment.before moment.event (during moment member) row present gone
  refine ⟨removed, ?_, ?_⟩
  · intro moment member row present permanent spared
    by_contra gone
    rcases removed moment member row present gone with named | ⟨temporary, -⟩
    · exact spared named
    · rw [permanent] at temporary
      cases temporary
  · intro before operation after row split absent present
    have step : (mailboxes runes services python emailStr).final start (before ++ [operation]) =
        apply runes services python emailStr ((mailboxes runes services python emailStr).final start before) operation := by
      rw [Machine.final_append]
      rfl
    rw [step] at present ⊢
    have empty := created_empty runes services python emailStr _ operation (reached before) row absent present
    refine ⟨empty, fun link member own => ?_⟩
    rw [split, ← List.singleton_append, ← List.append_assoc, Machine.final_append, step] at member
    rcases links_stored runes services python emailStr _ after link member with old | ⟨early, delivery, late, later, id, fresh⟩
    · exact absurd own (empty link old)
    · refine ⟨early, delivery, late, later, id, ?_⟩
      rw [← List.singleton_append, ← List.append_assoc, Machine.final_append, step]
      exact fresh

def shortLife : List Operation :=
  [.create Api.sampleSettings (.ok ()) Api.sampleDraws {} (.createAddress ⟨some "alice", none⟩),
    .cleanupExpiredAddresses (days 2)]

theorem short_life_live : MailboxesLive Mx.asciiRunes Mx.quietServices Api.asciiPython Api.plainEmailStr {} shortLife :=
  mailboxes_live Mx.asciiRunes Mx.quietServices Api.asciiPython Api.plainEmailStr {} empty_consistent shortLife

end Tempmail.Store
