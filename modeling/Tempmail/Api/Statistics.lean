import Tempmail.Api.PermanentStats
import Tempmail.Api.ServedMail
import Tempmail.Store.Expiry

set_option autoImplicit false

namespace Tempmail.Api

open Store (AddressRow EmailRow FileRow Inbox Letter Link PostOffice Uuid)
open scoped List

structure AdminStats where
  totalAddresses : Nat
  activeAddresses : Nat
  totalEmails : Nat
  unreadEmails : Nat
  emails24h : Nat
  totalAttachments : Nat
  emailSizeBytes : Nat
  attachmentSizeBytes : Nat
deriving DecidableEq

def getStats (inbox : Inbox) (now : Store.Time) : AdminStats where
  totalAddresses := Joins.count (fun row => some row.id) inbox.addresses
  activeAddresses := Joins.count (fun row => some row.id) (inbox.addresses.filter (fun row => row.countedActive now))
  totalEmails := Joins.count (fun row => some row.id) inbox.emails
  unreadEmails := Joins.count (fun link => some link.id) (inbox.links.filter (fun link => !link.isRead))
  emails24h := Joins.count (fun row => some row.id) (inbox.emails.filter (fun row => now - Store.days 1 ≤ row.data.receivedAt))
  totalAttachments := Joins.count (fun file => some file.id) inbox.files
  emailSizeBytes := (Joins.sum (fun row => row.data.sizeBytes) inbox.emails).getD 0
  attachmentSizeBytes := (Joins.sum (fun file => file.file.sizeBytes) inbox.files).getD 0

-- The dashboard against the rows of the address list, where a mailbox is not
-- expired yet at the instant its time is over.
structure ListAgrees (stats : AdminStats) (ending : Nat) (items : List AdminAddressSummary) : Prop where
  total : stats.totalAddresses = items.length
  active : stats.activeAddresses + ending = items.countP (fun item => !item.isExpired)
  mail : stats.totalEmails = (items.map AdminAddressSummary.emailCount).sum
  unread : stats.unreadEmails = (items.map AdminAddressSummary.unreadCount).sum

structure LettersAgree (stats : AdminStats) (now : Store.Time) (letters : List Letter) : Prop where
  mail : stats.totalEmails = letters.length
  recent : stats.emails24h = letters.countP (fun letter => now - Store.days 1 ≤ letter.row.data.receivedAt)
  sizes : stats.emailSizeBytes = (letters.map (fun letter => letter.row.data.sizeBytes)).sum
  files : stats.totalAttachments = (letters.map (fun letter => letter.files.length)).sum
  fileSizes : stats.attachmentSizeBytes = (letters.map (fun letter => (letter.files.map Mx.AttachmentData.sizeBytes).sum)).sum

section Counting

variable {Row : Type}

theorem count_rows (column : Row → Uuid) (rows : List Row) : Joins.count (fun row => some (column row)) rows = rows.length :=
  Tables.count_all column rows

theorem counted_by_mailbox (addresses : List AddressRow) (ids : (addresses.map AddressRow.id).Nodup) (links : List Link)
    (owned : ∀ link ∈ links, ∃ row ∈ addresses, row.id = link.addressId) (wanted : Link → Bool) :
    (addresses.map (fun row => links.countP (fun link => link.addressId == row.id && wanted link))).sum =
      links.countP wanted := by
  have weighed : ∀ row : AddressRow, links.countP (fun link => link.addressId == row.id && wanted link) =
      (links.map (fun link => if link.addressId == row.id && wanted link then 1 else 0)).sum := by
    intro row
    rw [List.countP_eq_length_filter, Joins.length_filter_sum]
  have once : ∀ link ∈ links, (addresses.map (fun row => if link.addressId == row.id && wanted link then 1 else 0)).sum =
      if wanted link then 1 else 0 := by
    intro link member
    obtain ⟨row, known, same⟩ := owned link member
    have single : addresses.countP (fun row => link.addressId == row.id) = 1 := by
      have counted := List.count_eq_one_of_mem ids (List.mem_map_of_mem known)
      rw [same, List.count, List.countP_map] at counted
      rw [← counted]
      refine List.countP_congr fun other _ => ?_
      rw [Function.comp_apply, beq_iff_eq, beq_iff_eq]
      exact eq_comm
    cases wanted link with
    | false => simp
    | true =>
        simp only [Bool.and_true, if_true]
        rw [← Joins.length_filter_sum, ← List.countP_eq_length_filter, single]
  simp only [weighed]
  rw [Joins.sum_exchange addresses links, List.map_congr_left once, ← Joins.length_filter_sum, List.countP_eq_length_filter]

end Counting

section Figures

variable (inbox : Inbox) (now : Store.Time)

theorem active_or_ending (row : AddressRow) (lifetime : row.expiresAt = none ↔ row.addressType = .permanent) :
    (!row.isExpired now) = (row.countedActive now || row.expiresAt == some now) ∧
      (row.countedActive now && row.expiresAt == some now) = false := by
  have alive := Store.unexpired_iff row lifetime now
  have active := Store.active_iff row now
  rw [← Store.counted_active] at active
  constructor
  · rw [Bool.eq_iff_iff, Bool.not_eq_true', alive, Bool.or_eq_true, active, beq_iff_eq]
    grind
  · rw [← Bool.not_eq_true, Bool.and_eq_true, active, beq_iff_eq]
    rintro ⟨later, ends⟩
    exact Int.lt_irrefl now (later now ends)

theorem active_and_ending (addresses : List AddressRow)
    (lifetimes : ∀ row ∈ addresses, row.expiresAt = none ↔ row.addressType = .permanent) :
    addresses.countP (fun row => row.countedActive now) + addresses.countP (fun row => row.expiresAt == some now) =
      addresses.countP (fun row => !row.isExpired now) := by
  induction addresses with
  | nil => rfl
  | cons row rest ih =>
      obtain ⟨here, later⟩ := List.forall_mem_cons.mp lifetimes
      obtain ⟨same, apart⟩ := active_or_ending now row here
      have tail := ih later
      simp only [List.countP_cons, same]
      cases active : row.countedActive now <;> cases ends : row.expiresAt == some now <;> simp_all <;> omega

def addressSummary (row : AddressRow) : AdminAddressSummary where
  id := row.id
  email := row.email
  addressType := row.addressType
  createdAt := stamp row.createdAt
  expiresAt := row.expiresAt.map stamp
  isExpired := row.isExpired now
  emailCount := inbox.links.countP (fun link => link.addressId == row.id)
  unreadCount := inbox.links.countP (fun link => link.addressId == row.id && !link.isRead)
  lastEmailAt := (Admin.lastEmail inbox row.id).map stamp

theorem list_figures (consistent : Store.Consistent inbox.db) (single : inbox.emails.length = inbox.links.length) :
    ListAgrees (getStats inbox now) (inbox.addresses.countP (fun row => row.expiresAt == some now))
      (inbox.addresses.map (addressSummary inbox now)) := by
  have owned : ∀ link ∈ inbox.links, ∃ row ∈ inbox.addresses, row.id = link.addressId := fun link member =>
    consistent.linkAddress link.row (List.mem_map_of_mem member)
  constructor
  · rw [List.length_map]
    exact count_rows _ _
  · have figure : (getStats inbox now).activeAddresses = inbox.addresses.countP (fun row => row.countedActive now) :=
      (count_rows _ _).trans List.countP_eq_length_filter.symm
    rw [figure, List.countP_map]
    exact active_and_ending now inbox.addresses consistent.lifetimes
  · have figure : (getStats inbox now).totalEmails = inbox.links.length := (count_rows _ _).trans single
    have all := counted_by_mailbox inbox.addresses inbox.addressIds inbox.links owned (fun _ => true)
    rw [figure, List.map_map]
    simpa [addressSummary, Function.comp_def] using all.symm
  · have figure : (getStats inbox now).unreadEmails = inbox.links.countP (fun link => !link.isRead) :=
      (count_rows _ _).trans List.countP_eq_length_filter.symm
    rw [figure, List.map_map]
    exact (counted_by_mailbox inbox.addresses inbox.addressIds inbox.links owned (fun link => !link.isRead)).symm

theorem letter_figures (office : PostOffice) (tables : inbox.db = office.layout) :
    LettersAgree (getStats inbox now) now office.letters := by
  have emails : inbox.emails = office.letters.map Letter.row := congrArg Store.Db.emails tables
  have attachments : inbox.files.map (fun file => (⟨file.emailId, file.file⟩ : Store.AttachmentRow)) =
      office.letters.flatMap Letter.attachments := congrArg Store.Db.attachments tables
  have files : inbox.files.map FileRow.file = office.letters.flatMap Letter.files := by
    have columns := congrArg (List.map Store.AttachmentRow.file) attachments
    rw [List.map_map, List.map_flatMap] at columns
    refine columns.trans (List.flatMap_congr fun letter _ => ?_)
    simp [Letter.attachments, Function.comp_def]
  constructor
  · refine (count_rows _ _).trans ?_
    rw [emails, List.length_map]
  · refine (count_rows _ _).trans ?_
    rw [emails, ← List.countP_eq_length_filter, List.countP_map]
    rfl
  · refine (Joins.sum_coalesced _ _).trans ?_
    rw [emails, List.map_map]
    rfl
  · refine (count_rows _ _).trans ?_
    rw [← List.length_map FileRow.file, files, List.length_flatMap]
  · refine (Joins.sum_coalesced _ _).trans ?_
    have sizes : inbox.files.map (fun file => file.file.sizeBytes) =
      (inbox.files.map FileRow.file).map Mx.AttachmentData.sizeBytes := by
      rw [List.map_map]
      rfl
    rw [sizes, files]
    exact Joins.sum_flat_map office.letters Letter.files Mx.AttachmentData.sizeBytes

theorem list_perm (stats : AdminStats) (ending : Nat) (items listed : List AdminAddressSummary) (same : listed.Perm items)
    (agree : ListAgrees stats ending items) : ListAgrees stats ending listed where
  total := agree.total.trans same.length_eq.symm
  active := agree.active.trans (same.countP_eq _).symm
  mail := agree.mail.trans (same.map _).sum_eq.symm
  unread := agree.unread.trans (same.map _).sum_eq.symm

end Figures

open Store Store.PostOffice in
-- After any run the dashboard says what the address list adds up to, page by page,
-- and what the letters there are add up to.
theorem stats_agree {IP : Type} (runes : Mx.Runes) (services : Mx.Services IP) (python : Python) (emailStr : String → Bool)
    (operations : List Operation) (genuine : ∀ operation ∈ operations, operation.Genuine) (inbox : Inbox)
    (tables : inbox.db = (mailboxes runes services python emailStr).final {} operations) (now : Store.Time) (fold : Char → Char)
    (size : Page) (sorters : Nat → Pages.Sorter AddressRow)
    (ordered : ∀ page, Pages.Allowed newestAddress inbox.addresses (sorters page newestAddress inbox.addresses))
    (steady : (∀ page, sorters page = sorters 1) ∨
      Pages.Untied newestAddress size.perPage (sorters 1 newestAddress inbox.addresses))
    (pages : List Nat) (all : pages.Perm (List.range' 1 ((inbox.addresses.length + size.perPage - 1) / size.perPage))) :
    ListAgrees (getStats inbox now) (inbox.addresses.countP (fun row => row.expiresAt == some now))
        (pages.flatMap (fun page => (Admin.listAddresses fold (sorters page) inbox now (size.turn page) none).items)) ∧
      LettersAgree (getStats inbox now) now ((offices runes services python).final empty operations).letters := by
  have consistent : Consistent inbox.db := by
    rw [tables]
    exact (Machine.invariant_run (mailboxes runes services python emailStr) Consistent (fun _ => True)
      (fun db operation _ consistent => apply_consistent runes services python emailStr db operation consistent)
      {} operations (fun _ _ => trivial) empty_consistent).1
  rw [← empty_layout, run_layout runes services python emailStr empty operations genuine] at tables
  have single : inbox.emails.length = inbox.links.length := by
    have emails := congrArg (fun db => db.emails.length) tables
    have links := congrArg (fun db => db.recipients.length) tables
    simp only [Inbox.db, layout, List.length_map] at emails links
    exact emails.trans links.symm
  have every : Admin.addressRows fold inbox none = inbox.addresses := List.filter_true inbox.addresses
  have served : ∀ page ∈ pages, (Admin.listAddresses fold (sorters page) inbox now (size.turn page) none).items =
      (Pages.slice size.perPage page (sorters page newestAddress inbox.addresses)).map (addressSummary inbox now) := by
    intro page member
    have turned := turn_page size page (List.mem_range'_1.mp (all.mem_iff.mp member)).1
    simp only [Admin.listAddresses, Admin.paginate, turned, every]
    rfl
  have cover := Pages.pages_cover newestAddress size.perPage newest_address_ranks inbox.addresses
    (fun page => sorters page newestAddress inbox.addresses) ordered
    (steady.imp_left fun fixed page => by rw [fixed page]) size.filled pages all
  refine ⟨list_perm _ _ _ _ ?_ (list_figures inbox now consistent single), letter_figures inbox now _ tables⟩
  rw [List.flatMap_congr served, ← List.map_flatMap]
  exact cover.map _

theorem alice_stats_agree :
    ListAgrees (getStats aliceInbox 5) 0
        ([1].flatMap (fun page => (Admin.listAddresses Char.toLower (fun before rows => rows.mergeSort before) aliceInbox 5
          (oneEach.turn page) none).items)) ∧
      LettersAgree (getStats aliceInbox 5) 5
        ((PostOffice.offices Mx.asciiRunes Mx.quietServices asciiPython).final PostOffice.empty aliceRun).letters :=
  stats_agree Mx.asciiRunes Mx.quietServices asciiPython plainEmailStr aliceRun alice_run_genuine aliceInbox rfl 5
    Char.toLower oneEach
    (fun _ before rows => rows.mergeSort before)
    (fun _ => Pages.allowed_sort newestAddress newest_address_ranks _ _ (.refl _)) (Or.inl fun _ => rfl) [1] (by decide)

end Tempmail.Api
