import Tempmail.Store.Lifetimes

set_option autoImplicit false

namespace Tempmail.Store

-- active_addresses of get_stats: expires_at > now OR expires_at IS NULL.
def AddressRow.countedActive (row : AddressRow) (now : Time) : Bool :=
  row.expiresAt.any (fun expiresAt => expiresAt > now) || row.expiresAt.isNone

def Db.activeRows (db : Db) (now : Time) : List AddressRow := db.addresses.filter (fun row => row.countedActive now)

section Expiry

variable (runes : Mx.Runes)

def Db.addressExists (db : Db) (now : Time) (email : String) : Bool :=
  let normalizedEmail := runes.lower email
  db.addresses.any (fun row => row.email == normalizedEmail && row.active now)

def Db.answering (db : Db) (now : Time) : Mx.StoreCalls Uuid where
  begins := true
  insertEmail := true
  selectAddress email := some (db.activeAddress now email)
  insertRecipient := true
  insertAttachment _ := true
  commit := .done

-- The address is answered for at RCPT, and its mail is stored into its own row.
def Db.AcceptsMail (db : Db) (now : Time) (row : AddressRow) : Prop :=
  db.addressExists runes now row.email = true ∧ Mx.getAddress runes (db.answering now) row.email = .ok row.id

structure ExpiryAgrees (db : Db) (now : Time) (row : AddressRow) : Prop where
  mail : db.AcceptsMail runes now row ↔ row.isExpired now = false
  counted : row ∈ db.activeRows now ↔ row.isExpired now = false
  kept : row ∈ (db.cleanupExpiredAddresses now).addresses ↔ row.isExpired now = false

theorem active_iff (row : AddressRow) (now : Time) :
    row.active now = true ↔ ∀ expiresAt, row.expiresAt = some expiresAt → now < expiresAt := by
  unfold AddressRow.active
  cases row.expiresAt with
  | none => simp
  | some expiresAt => simp

theorem counted_active (row : AddressRow) (now : Time) : row.countedActive now = row.active now := by
  unfold AddressRow.countedActive AddressRow.active
  cases row.expiresAt with
  | none => rfl
  | some expiresAt => simp

theorem unexpired_iff (row : AddressRow) (lifetime : row.expiresAt = none ↔ row.addressType = .permanent) (now : Time) :
    row.isExpired now = false ↔ ∀ expiresAt, row.expiresAt = some expiresAt → now ≤ expiresAt := by
  rw [← Bool.not_eq_true, expired_iff]
  constructor
  · intro alive expiresAt dated
    have kind : row.addressType = .temp := by
      cases holds : row.addressType with
      | temp => rfl
      | permanent =>
          rw [lifetime.mpr holds] at dated
          cases dated
    exact Int.not_lt.mp (fun past => alive ⟨kind, expiresAt, dated, past⟩)
  · rintro bounded ⟨-, expiresAt, dated, past⟩
    exact absurd (bounded expiresAt dated) (Int.not_le.mpr past)

theorem kept_iff (db : Db) (now : Time) (row : AddressRow) (member : row ∈ db.addresses)
    (lifetime : row.expiresAt = none ↔ row.addressType = .permanent) :
    row ∈ (db.cleanupExpiredAddresses now).addresses ↔ row.isExpired now = false := by
  rw [Db.cleanupExpiredAddresses, delete_addresses_addresses, List.mem_filter, unexpired_iff row lifetime]
  cases row.expiresAt with
  | none => simpa using member
  | some expiresAt => simpa using fun _ => member

theorem accepts_mail_iff (db : Db) (distinct : (db.addresses.map AddressRow.email).Nodup)
    (ids : (db.addresses.map AddressRow.id).Nodup) (now : Time) (row : AddressRow) (member : row ∈ db.addresses) :
    db.AcceptsMail runes now row ↔ runes.lower row.email = row.email ∧ row.active now = true := by
  constructor
  · rintro ⟨-, stored⟩
    simp only [Mx.getAddress, Db.answering, Db.activeAddress] at stored
    cases found : db.addresses.find? (fun other => other.email == runes.lower row.email && other.active now) with
    | none =>
        rw [found] at stored
        cases stored
    | some other =>
        rw [found] at stored
        have holds := List.find?_some found
        rw [Bool.and_eq_true, beq_iff_eq] at holds
        have same : other = row :=
          List.inj_on_of_nodup_map ids (List.mem_of_find?_eq_some found) member (Except.ok.inj stored)
        rw [same] at holds
        exact ⟨holds.1.symm, holds.2⟩
  · rintro ⟨lower, active⟩
    have holds : (row.email == runes.lower row.email && row.active now) = true := by
      rw [lower, active, beq_self_eq_true, Bool.and_self]
    refine ⟨List.any_eq_true.mpr ⟨row, member, holds⟩, ?_⟩
    cases found : db.addresses.find? (fun other => other.email == runes.lower row.email && other.active now) with
    | none => exact absurd holds (List.find?_eq_none.mp found row member)
    | some other =>
        have named := List.find?_some found
        rw [Bool.and_eq_true, beq_iff_eq, lower] at named
        have same : other = row := List.inj_on_of_nodup_map distinct (List.mem_of_find?_eq_some found) member named.1
        simp only [Mx.getAddress, Db.answering, Db.activeAddress, found, same, Option.map_some]

theorem expiry_agrees_row (db : Db) (consistent : Consistent db) (distinct : (db.addresses.map AddressRow.email).Nodup)
    (now : Time) (row : AddressRow) (member : row ∈ db.addresses) : ExpiryAgrees runes db now row ↔
      row.expiresAt ≠ some now ∧ (runes.lower row.email = row.email ∨ row.isExpired now = true) := by
  have lifetime := consistent.lifetimes row member
  have alive := unexpired_iff row lifetime now
  have active := active_iff row now
  have mail := accepts_mail_iff runes db distinct consistent.addressIds now row member
  have counted : row ∈ db.activeRows now ↔ row.active now = true := by
    rw [Db.activeRows, List.mem_filter, counted_active]
    exact and_iff_right member
  constructor
  · intro agrees
    have same := counted.symm.trans agrees.counted
    constructor
    · intro boundary
      have late := active.mp (same.mpr (alive.mpr (fun expiresAt dated => by
        rw [boundary, Option.some.injEq] at dated
        exact Int.le_of_eq dated))) now boundary
      exact Int.lt_irrefl now late
    · cases expired : row.isExpired now with
      | true => exact Or.inr rfl
      | false => exact Or.inl (mail.mp (agrees.mail.mpr expired)).1
  · rintro ⟨apart, stored⟩
    have same : row.active now = true ↔ row.isExpired now = false := by
      rw [active, alive]
      refine forall₂_congr fun expiresAt dated => ?_
      have differs : now ≠ expiresAt := fun equal => apart (by rw [dated, equal])
      exact ⟨Int.le_of_lt, fun bounded => Int.lt_iff_le_and_ne.mpr ⟨bounded, differs⟩⟩
    refine ⟨?_, counted.trans same, kept_iff db now row member lifetime⟩
    rw [mail, same]
    refine ⟨And.right, fun unexpired => ⟨stored.resolve_right ?_, unexpired⟩⟩
    rw [unexpired]
    exact Bool.false_ne_true

section Run

variable {IP : Type} (services : Mx.Services IP) (python : Api.Python) (emailStr : String → Bool)

-- One step: some rows go, and one the UNIQUE constraints accept may come.
theorem apply_addresses (db : Db) (operation : Operation) : ∃ left : Db, left.addresses.Sublist db.addresses ∧
    ((apply runes services python emailStr db operation).addresses = left.addresses ∨ ∃ row, left.accepts row = true ∧
      (apply runes services python emailStr db operation).addresses = left.addresses ++ [row]) := by
  have whole : ∀ after : Db, after.addresses = db.addresses → ∃ left : Db, left.addresses.Sublist db.addresses ∧
      (after.addresses = left.addresses ∨ ∃ row, left.accepts row = true ∧ after.addresses = left.addresses ++ [row]) :=
    fun after same => ⟨db, List.Sublist.refl _, Or.inl same⟩
  have fewer : ∀ (after : Db) (kept : AddressRow → Bool), after.addresses = db.addresses.filter kept →
      ∃ left : Db, left.addresses.Sublist db.addresses ∧
        (after.addresses = left.addresses ∨ ∃ row, left.accepts row = true ∧ after.addresses = left.addresses ++ [row]) :=
    fun after kept same => ⟨after, same ▸ List.filter_sublist, Or.inl rfl⟩
  cases operation with
  | storeEmail delivery => exact whole _ (store_keeps_addresses runes services db delivery)
  | enforceEmailLimit addressId current scan => exact whole _ (limit_keeps_addresses db addressId current scan)
  | deleteEmailByToken token emailId now => exact whole _ (token_keeps_addresses db token emailId now)
  | deleteEmail emailId => exact whole _ (email_keeps_addresses db emailId)
  | deleteAddress addressId => exact fewer _ _ (delete_address_addresses db addressId)
  | cleanupExpiredAddresses now => exact fewer _ _ (delete_addresses_addresses db _)
  | enforceStorageLimit maxStorageMb => exact whole _ (storage_keeps_addresses db maxStorageMb)
  | cleanupPermanentEmailRetention retentionDays now => exact whole _ (retention_keeps_addresses db retentionDays now)
  | purgePermanentEmails addressId => exact whole _ (purge_keeps_addresses db addressId)
  | create settings dependencies draws faults route =>
      have released : ∀ creation : Api.Creation, (creation.released db).addresses.Sublist db.addresses := by
        intro creation
        unfold Api.Creation.released
        cases creation.existing with
        | none => exact List.Sublist.refl _
        | some existing =>
            rw [delete_address_addresses]
            exact List.filter_sublist
      rw [apply]
      rcases created_cases python settings emailStr dependencies db draws faults route with
        same | ⟨creation, -, same | ⟨row, -, accepted, same⟩⟩
      · rw [same]
        exact whole db rfl
      · rw [same]
        exact ⟨_, released creation, Or.inl rfl⟩
      · rw [same]
        exact ⟨_, released creation, Or.inr ⟨row, accepted, rfl⟩⟩

theorem apply_emails_distinct (db : Db) (operation : Operation) (distinct : (db.addresses.map AddressRow.email).Nodup) :
    ((apply runes services python emailStr db operation).addresses.map AddressRow.email).Nodup := by
  obtain ⟨left, fewer, same | ⟨row, accepted, same⟩⟩ := apply_addresses runes services python emailStr db operation
  · rw [same]
    exact distinct.sublist (fewer.map _)
  · rw [same, List.map_append, List.map_singleton, List.nodup_append]
    refine ⟨distinct.sublist (fewer.map _), List.nodup_singleton _, ?_⟩
    intro email present other new equal
    obtain ⟨holder, held, rfl⟩ := List.mem_map.mp present
    rw [List.mem_singleton] at new
    exact ((accepts_iff left row).mp accepted holder held).2.1 (equal.trans new)

theorem expiry_agrees_iff (operations : List Operation) (now : Time) (row : AddressRow)
    (member : row ∈ ((mailboxes runes services python emailStr).final {} operations).addresses) :
    ExpiryAgrees runes ((mailboxes runes services python emailStr).final {} operations) now row ↔
      row.expiresAt ≠ some now ∧ (runes.lower row.email = row.email ∨ row.isExpired now = true) := by
  have sound : ∀ db : Db, Consistent db ∧ (db.addresses.map AddressRow.email).Nodup → ∀ operation,
      Consistent (apply runes services python emailStr db operation) ∧
        ((apply runes services python emailStr db operation).addresses.map AddressRow.email).Nodup :=
    fun db holds operation => ⟨apply_consistent runes services python emailStr db operation holds.1,
      apply_emails_distinct runes services python emailStr db operation holds.2⟩
  have reached := (Machine.invariant_run (mailboxes runes services python emailStr)
    (fun db => Consistent db ∧ (db.addresses.map AddressRow.email).Nodup) (fun _ => True)
    (fun db operation _ holds => sound db holds operation) {} operations (fun _ _ => trivial)
    ⟨empty_consistent, List.nodup_nil⟩).1
  exact expiry_agrees_row runes _ reached.1 reached.2 now row member

end Run

end Expiry

def oneDay : List Operation := [.create Api.sampleSettings (.ok ()) Api.sampleDraws {} (.createAddress ⟨some "alice", none⟩)]

def oneDayDb : Db := (mailboxes Mx.asciiRunes Mx.quietServices Api.asciiPython Api.plainEmailStr).final {} oneDay

theorem one_day_row : ∃ row ∈ oneDayDb.addresses, row.expiresAt = some (days 1) ∧ Mx.asciiRunes.lower row.email = row.email := by
  decide +kernel

theorem one_day_agrees : ∃ row ∈ oneDayDb.addresses, ExpiryAgrees Mx.asciiRunes oneDayDb (days 2) row := by
  obtain ⟨row, member, dated, lower⟩ := one_day_row
  refine ⟨row, member, (expiry_agrees_iff Mx.asciiRunes Mx.quietServices Api.asciiPython Api.plainEmailStr oneDay (days 2) row
    member).mpr ⟨?_, Or.inl lower⟩⟩
  rw [dated]
  decide

-- At the last instant the token still works while mail is refused.
theorem last_instant_differs : ¬ ∀ (operations : List Operation) (now : Time),
    ∀ row ∈ ((mailboxes Mx.asciiRunes Mx.quietServices Api.asciiPython Api.plainEmailStr).final {} operations).addresses,
      ExpiryAgrees Mx.asciiRunes
        ((mailboxes Mx.asciiRunes Mx.quietServices Api.asciiPython Api.plainEmailStr).final {} operations) now row := by
  intro claimed
  obtain ⟨row, member, dated, -⟩ := one_day_row
  have agrees := claimed oneDay (days 1) row member
  have inactive : row.countedActive (days 1) = false := by
    rw [AddressRow.countedActive, dated]
    decide
  have unexpired : row.isExpired (days 1) = false := by
    rw [AddressRow.isExpired, dated]
    cases row.addressType with
    | temp => decide
    | permanent => rfl
  have counted := (List.mem_filter.mp (agrees.counted.mpr unexpired)).2
  rw [inactive] at counted
  cases counted

end Tempmail.Store
