import Mathlib.Algebra.Ring.Nat
import Tempmail.Api.Isolation
import Tempmail.Lib.Pages
import Tempmail.Store.Triggers

set_option autoImplicit false

namespace Tempmail.Api

open Store (AddressRow AddressType EmailRow Inbox Link Uuid)

structure AdminAddressSummary where
  id : Uuid
  email : String
  addressType : AddressType
  createdAt : Int
  expiresAt : Option Int
  isExpired : Bool
  emailCount : Nat
  unreadCount : Nat
  lastEmailAt : Option Int
deriving DecidableEq

structure AdminEmailSummary where
  id : Uuid
  subject : String
  fromAddress : String
  toAddress : String
  addresses : List String
  receivedAt : Int
  isRead : Bool
  hasAttachments : Bool
  sizeBytes : Nat
  spfResult : Option Mx.SPFResult
  dmarcResult : Option Mx.DMARCResult
deriving DecidableEq

structure AdminPermanentAddressSummary where
  id : Uuid
  email : String
  createdAt : Int
  emailCount : Nat
  unreadCount : Nat
  sizeBytes : Nat
  lastEmailAt : Option Int
deriving DecidableEq

structure AdminPage (Item : Type) where
  items : List Item
  total : Nat
  page : Nat
  perPage : Nat
  hasNext : Bool
deriving DecidableEq

abbrev AdminAddressList := AdminPage AdminAddressSummary
abbrev AdminEmailList := AdminPage AdminEmailSummary
abbrev AdminPermanentAddressList := AdminPage AdminPermanentAddressSummary

structure Collation where
  before : String → String → Bool
  ranks : Pages.Ranks before

inductive PermanentSort where
  | created
  | emails
  | email
deriving DecidableEq

section Queries

variable (fold : Char → Char)

def matchesSearch (search : Option String) (columns : List String) : Bool :=
  match search with
  | none => true
  | some term => term == "" || columns.any (Like.ilike fold '\\' ("%" ++ escapeLike term ++ "%"))

def newestEmail (a b : EmailRow) : Bool := b.data.receivedAt ≤ a.data.receivedAt

def newestReceived (a b : EmailRow × Link) : Bool := newestEmail a.1 b.1

def newestAddress (a b : AddressRow) : Bool := b.createdAt ≤ a.createdAt

def receivedRows (inbox : Inbox) (address : AddressRow) (unreadOnly : Bool) (search : Option String) : List (EmailRow × Link) :=
  (joined inbox address.id).filter (fun pair => (!unreadOnly || !pair.2.isRead) &&
    matchesSearch fold search [pair.1.data.subject, pair.1.data.fromAddr, pair.1.data.bodyPlain])

def listEmailsBy (sorter : Pages.Sorter (EmailRow × Link)) (inbox : Inbox) (address : AddressRow) (page : Page)
    (unreadOnly : Bool) (search : Option String) : EmailListResponse :=
  let found := receivedRows fold inbox address unreadOnly search
  let totalPages := (found.length + page.perPage - 1) / page.perPage
  { emails := (Pages.slice page.perPage page.page (sorter newestReceived found)).map summary
    total := found.length
    page := page.page
    perPage := page.perPage
    hasNext := page.page < totalPages
    hasPrev := 1 < page.page }

namespace Admin

variable {Row Item : Type}

def paginate (sorter : Pages.Sorter Row) (orderBy : Row → Row → Bool) (page : Page) (found : List Row)
    (item : Row → Item) : AdminPage Item where
  items := (Pages.slice page.perPage page.page (sorter orderBy found)).map item
  total := found.length
  page := page.page
  perPage := page.perPage
  hasNext := page.page * page.perPage < found.length

def lastEmail (inbox : Inbox) (addressId : Uuid) : Option Store.Time :=
  ((joined inbox addressId).map (fun pair => pair.1.data.receivedAt)).max?

def addressRows (inbox : Inbox) (search : Option String) : List AddressRow :=
  inbox.addresses.filter (fun row => matchesSearch fold search [row.email])

def listAddresses (sorter : Pages.Sorter AddressRow) (inbox : Inbox) (now : Store.Time) (page : Page) (search : Option String) :
    AdminAddressList :=
  paginate sorter newestAddress page (addressRows fold inbox search) (fun row =>
    { id := row.id
      email := row.email
      addressType := row.addressType
      createdAt := stamp row.createdAt
      expiresAt := row.expiresAt.map stamp
      isExpired := row.isExpired now
      emailCount := inbox.links.countP (fun link => link.addressId == row.id)
      unreadCount := inbox.links.countP (fun link => link.addressId == row.id && !link.isRead)
      lastEmailAt := (lastEmail inbox row.id).map stamp })

-- The links come in the order they are loaded in.
def emailSummary (loaded : List Link → List Link) (inbox : Inbox) (row : EmailRow) : AdminEmailSummary :=
  let recipients := loaded (inbox.links.filter (fun link => link.emailId == row.id))
  { id := row.id
    subject := row.data.subject
    fromAddress := row.data.fromAddr
    toAddress := row.data.toAddr
    addresses := recipients.filterMap
      (fun link => (inbox.addresses.find? (fun address => address.id == link.addressId)).map AddressRow.email)
    receivedAt := stamp row.data.receivedAt
    isRead := recipients.any Link.isRead
    hasAttachments := row.data.hasAttachments
    sizeBytes := row.data.sizeBytes
    spfResult := row.data.spfResult
    dmarcResult := row.data.dmarcResult }

def emailRows (inbox : Inbox) (search : Option String) : List EmailRow :=
  inbox.emails.filter (fun row => matchesSearch fold search [row.data.subject, row.data.fromAddr, row.data.toAddr])

def listEmails (sorter : Pages.Sorter EmailRow) (loaded : List Link → List Link) (inbox : Inbox) (page : Page)
    (search : Option String) : AdminEmailList :=
  paginate sorter newestEmail page (emailRows fold inbox search) (emailSummary loaded inbox)

-- A mailbox with the row of counts_subq that the outer join finds for it.
structure PermanentRow where
  address : AddressRow
  emailCount : Nat
  unreadCount : Nat
  sizeBytes : Nat
  lastEmailAt : Option Store.Time

def permanentRow (inbox : Inbox) (address : AddressRow) : PermanentRow :=
  let received := joined inbox address.id
  { address
    emailCount := received.length
    unreadCount := received.countP (fun pair => !pair.2.isRead)
    sizeBytes := (received.map (fun pair => pair.1.data.sizeBytes)).sum
    lastEmailAt := lastEmail inbox address.id }

def permanentRows (inbox : Inbox) (search : Option String) : List PermanentRow :=
  (inbox.addresses.filter (fun row => row.addressType == .permanent && matchesSearch fold search [row.email])).map
    (permanentRow inbox)

def orderBy (collation : Collation) : PermanentSort → PermanentRow → PermanentRow → Bool
  | .emails, a, b => b.emailCount < a.emailCount || (a.emailCount == b.emailCount && newestAddress a.address b.address)
  | .email, a, b => collation.before a.address.email b.address.email
  | .created, a, b => newestAddress a.address b.address

def permanentSummary (row : PermanentRow) : AdminPermanentAddressSummary where
  id := row.address.id
  email := row.address.email
  createdAt := stamp row.address.createdAt
  emailCount := row.emailCount
  unreadCount := row.unreadCount
  sizeBytes := row.sizeBytes
  lastEmailAt := row.lastEmailAt.map stamp

def listPermanentAddresses (sorter : Pages.Sorter PermanentRow) (collation : Collation) (inbox : Inbox) (page : Page)
    (search : Option String) (sort : PermanentSort) : AdminPermanentAddressList :=
  paginate sorter (orderBy collation sort) page (permanentRows fold inbox search) permanentSummary

end Admin

end Queries

-- The route that picks an order by place is the list over one such database.
theorem list_emails_by (executor : Executor) (inbox : Inbox) (address : AddressRow) (page : Page) (unreadOnly : Bool)
    (search : Option String) :
    listEmails executor inbox address page unreadOnly search = listEmailsBy executor.fold
      (fun before rows => (Rows.arrange (fun pair => executor.place pair.2.id) rows).mergeSort before)
        inbox address page unreadOnly search := by
  have same : ∀ row : EmailRow, searched executor search row =
      matchesSearch executor.fold search [row.data.subject, row.data.fromAddr, row.data.bodyPlain] := by
    intro row
    cases search <;> rfl
  simp only [listEmails, listEmailsBy, receivedRows, same]
  rfl

def EmailListResponse.answer (response : EmailListResponse) : Pages.Answer Uuid :=
  ⟨response.emails.map EmailSummary.id, response.total, response.hasNext⟩

def AdminPage.answer {Item : Type} (id : Item → Uuid) (response : AdminPage Item) : Pages.Answer Uuid :=
  ⟨response.items.map id, response.total, response.hasNext⟩

def Page.turn (size : Page) (number : Nat) : Page := { size with page := max 1 number, counted := Nat.le_max_left 1 number }

section Ranks

theorem newest_email_ranks : Pages.Ranks newestEmail where
  total a b := by simpa [newestEmail] using le_total b.data.receivedAt a.data.receivedAt
  trans a b c := by simpa [newestEmail] using fun below above => le_trans above below

theorem newest_received_ranks : Pages.Ranks newestReceived where
  total a b := newest_email_ranks.total a.1 b.1
  trans a b c := newest_email_ranks.trans a.1 b.1 c.1

theorem newest_address_ranks : Pages.Ranks newestAddress where
  total a b := by simpa [newestAddress] using le_total b.createdAt a.createdAt
  trans a b c := by simpa [newestAddress] using fun below above => le_trans above below

theorem order_by_ranks (collation : Collation) (sort : PermanentSort) : Pages.Ranks (Admin.orderBy collation sort) := by
  cases sort with
  | created => exact ⟨fun a b => newest_address_ranks.total a.address b.address,
    fun a b c => newest_address_ranks.trans a.address b.address c.address⟩
  | email => exact ⟨fun a b => collation.ranks.total _ _, fun a b c => collation.ranks.trans _ _ _⟩
  | emails =>
      refine ⟨fun a b => ?_, fun a b c first second => ?_⟩
      · rcases Nat.lt_trichotomy b.emailCount a.emailCount with more | same | fewer
        · exact Or.inl (by simp [Admin.orderBy, more])
        · simpa [Admin.orderBy, same] using newest_address_ranks.total a.address b.address
        · exact Or.inr (by simp [Admin.orderBy, fewer])
      · have chained := newest_address_ranks.trans a.address b.address c.address
        simp only [Admin.orderBy, Bool.or_eq_true, Bool.and_eq_true, decide_eq_true_eq, beq_iff_eq] at first second ⊢
        rcases first with more | level
        · rcases second with further | flat
          · exact Or.inl (Nat.lt_trans further more)
          · exact Or.inl (flat.1 ▸ more)
        · rcases second with further | flat
          · exact Or.inl (level.1 ▸ further)
          · exact Or.inr ⟨level.1.trans flat.1, chained level.2 flat.2⟩

end Ranks

section Rows

variable (fold : Char → Char) (inbox : Inbox) (search : Option String)

theorem received_distinct (address : AddressRow) (unreadOnly : Bool) :
    ((receivedRows fold inbox address unreadOnly search).map (fun pair => pair.1.id)).Nodup := by
  refine Rows.unique_filter (fun pair : EmailRow × Link => pair.1.id) (joined inbox address.id) _ ?_
  have mine : ((inbox.links.filter (fun link => link.addressId == address.id)).map Link.emailId).Nodup := by
    rw [List.nodup_map_iff_inj_on (Rows.unique_filter Link.id inbox.links _ inbox.linkIds).of_map]
    intro a memberA b memberB same
    obtain ⟨knownA, ownA⟩ := List.mem_filter.mp memberA
    obtain ⟨knownB, ownB⟩ := List.mem_filter.mp memberB
    have owner : a.addressId = b.addressId := (eq_of_beq ownA).trans (eq_of_beq ownB).symm
    exact Rows.same_row (fun link => (link.emailId, link.addressId)) inbox.links inbox.linkPairs a b knownA knownB
      (Prod.ext same owner)
  refine mine.sublist ?_
  rw [joined]
  induction inbox.links.filter (fun link => link.addressId == address.id) with
  | nil => exact .refl _
  | cons link rest ih =>
      cases found : inbox.emails.find? (fun row => row.id == link.emailId) with
      | none =>
          rw [List.filterMap_cons_none (by rw [found]; rfl), List.map_cons]
          exact ih.cons _
      | some row =>
          have same : row.id = link.emailId := by simpa using List.find?_some found
          rw [List.filterMap_cons_some (by rw [found]; rfl), List.map_cons, List.map_cons, same]
          exact ih.cons_cons _

theorem permanent_distinct : ((Admin.permanentRows fold inbox search).map (fun row => row.address.id)).Nodup := by
  rw [Admin.permanentRows, List.map_map]
  exact Rows.unique_filter AddressRow.id inbox.addresses _ inbox.addressIds

end Rows

theorem next_page_total (page total perPage : Nat) (filled : 1 ≤ perPage) :
    page < (total + perPage - 1) / perPage ↔ page * perPage < total := by
  rw [← Nat.succ_le_iff, Nat.le_div_iff_mul_le filled, Nat.succ_mul]
  omega

section Pagination

variable {Row Item : Type} (sorter : Pages.Sorter Row) (size : Page) (number : Nat) (counted : 1 ≤ number)

include counted

theorem turn_page : (size.turn number).page = number := Nat.max_eq_right counted

theorem paginate_answer (orderBy : Row → Row → Bool) (found : List Row) (item : Row → Item) (id : Item → Uuid)
    (same : (sorter orderBy found).length = found.length) :
      (Admin.paginate sorter orderBy (size.turn number) found item).answer id =
      Pages.answer (fun row => id (item row)) size.perPage number (sorter orderBy found) := by
  have page := turn_page size number counted
  simp only [AdminPage.answer, Admin.paginate, Pages.answer, page, same, List.map_map]
  rfl

theorem list_answer (fold : Char → Char) (sorter : Pages.Sorter (EmailRow × Link)) (inbox : Inbox) (address : AddressRow)
    (unreadOnly : Bool) (search : Option String)
    (same : (sorter newestReceived (receivedRows fold inbox address unreadOnly search)).length =
      (receivedRows fold inbox address unreadOnly search).length) :
    (listEmailsBy fold sorter inbox address (size.turn number) unreadOnly search).answer =
      Pages.answer (fun pair => pair.1.id) size.perPage number
        (sorter newestReceived (receivedRows fold inbox address unreadOnly search)) := by
  have page := turn_page size number counted
  have next := next_page_total number (receivedRows fold inbox address unreadOnly search).length size.perPage size.filled
  simp only [EmailListResponse.answer, listEmailsBy, Pages.answer, page, same, List.map_map]
  simp only [Page.turn, next]
  rfl

end Pagination

-- Each list is a partition of the matching rows into pages exactly when no page
-- ends between two rows that its ORDER BY does not tell apart.
theorem pagination_iff (fold : Char → Char) (collation : Collation) (inbox : Inbox) (address : AddressRow) (unreadOnly : Bool)
    (search : Option String) (sort : PermanentSort) (size : Page) (clock : Nat → Store.Time)
    (loaded : Nat → List Link → List Link) :
    (Pages.Partitioned newestReceived (fun pair => pair.1.id) (receivedRows fold inbox address unreadOnly search)
        (fun sorter page => (listEmailsBy fold sorter inbox address (size.turn page) unreadOnly search).answer) ↔
      Pages.Untied newestReceived size.perPage ((receivedRows fold inbox address unreadOnly search).mergeSort newestReceived)) ∧
    (Pages.Partitioned newestEmail EmailRow.id (Admin.emailRows fold inbox search)
        (fun sorter page => (Admin.listEmails fold sorter (loaded page) inbox
          (size.turn page) search).answer AdminEmailSummary.id) ↔
      Pages.Untied newestEmail size.perPage ((Admin.emailRows fold inbox search).mergeSort newestEmail)) ∧
    (Pages.Partitioned newestAddress AddressRow.id (Admin.addressRows fold inbox search)
        (fun sorter page => (Admin.listAddresses fold sorter inbox (clock page)
          (size.turn page) search).answer AdminAddressSummary.id) ↔
      Pages.Untied newestAddress size.perPage ((Admin.addressRows fold inbox search).mergeSort newestAddress)) ∧
    (Pages.Partitioned (Admin.orderBy collation sort) (fun row => row.address.id) (Admin.permanentRows fold inbox search)
        (fun sorter page => (Admin.listPermanentAddresses fold sorter collation inbox (size.turn page) search sort).answer
          AdminPermanentAddressSummary.id) ↔
      Pages.Untied (Admin.orderBy collation sort) size.perPage
        ((Admin.permanentRows fold inbox search).mergeSort (Admin.orderBy collation sort))) := by
  refine ⟨?_, ?_, ?_, ?_⟩
  · refine Pages.partitioned_iff _ _ _ newest_received_ranks _ _ size.filled
      (received_distinct fold inbox search address unreadOnly) ?_
    intro sorter page same counted
    exact list_answer size page counted fold sorter inbox address unreadOnly search same
  · refine Pages.partitioned_iff _ _ _ newest_email_ranks _ _ size.filled (Rows.unique_filter _ _ _ inbox.emailIds) ?_
    intro sorter page same counted
    exact paginate_answer sorter size page counted _ _ _ _ same
  · refine Pages.partitioned_iff _ _ _ newest_address_ranks _ _ size.filled (Rows.unique_filter _ _ _ inbox.addressIds) ?_
    intro sorter page same counted
    exact paginate_answer sorter size page counted _ _ _ _ same
  · refine Pages.partitioned_iff _ _ _ (order_by_ranks collation sort) _ _ size.filled (permanent_distinct fold inbox search) ?_
    intro sorter page same counted
    exact paginate_answer sorter size page counted _ _ _ _ same

section Tied

open Store (sampleAddress sized)

def twins : Inbox where
  addresses := [sampleAddress 7 "box@example.com" "twins" .temp (some 100) (by decide +kernel) (by decide +kernel)]
  emails := [sized 1 0 10, sized 2 0 10]
  links := [⟨3, 1, 7, false, none⟩, ⟨4, 2, 7, false, none⟩]
  files := []
  addressIds := by decide
  tokens := by decide
  emailIds := by decide
  linkIds := by decide
  linkPairs := by decide
  fileIds := List.nodup_nil

def oneEach : Page := ⟨1, 1, by decide, by decide, by decide⟩

def turning (page : Nat) : Pages.Sorter EmailRow := fun _ rows => if page = 1 then rows else rows.reverse

theorem twin_repeated :
    (∀ page, Pages.Allowed newestEmail (Admin.emailRows id twins none)
      (turning page newestEmail (Admin.emailRows id twins none))) ∧
      Pages.Walk (fun page =>
        (Admin.listEmails id (turning page) id twins (oneEach.turn page) none).answer AdminEmailSummary.id) 1 [1, 1] ∧
      ¬ [1, 1].Perm ((Admin.emailRows id twins none).map EmailRow.id) := by
  refine ⟨fun page => ?_, ?_, by decide⟩
  · by_cases first : page = 1
    · rw [turning, if_pos first]
      exact ⟨.refl _, by decide⟩
    · rw [turning, if_neg first]
      exact ⟨List.reverse_perm _, by decide⟩
  · exact .next 1 [1] (by decide) (.last 2 (by decide))

end Tied

end Tempmail.Api
