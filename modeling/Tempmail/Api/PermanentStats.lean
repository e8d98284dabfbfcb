import Mathlib.Data.String.Basic
import Tempmail.Api.AdminLists
import Tempmail.Lib.Joins

set_option autoImplicit false

namespace Tempmail.Api

open Store (AddressRow EmailRow Inbox Link Uuid)
open scoped List

-- A row of email_recipients as the admin queries read it: is_read may be NULL.
structure Recipient where
  id : Uuid
  emailId : Uuid
  addressId : Uuid
  isRead : Option Bool
deriving DecidableEq

structure Tables where
  addresses : List AddressRow
  emails : List EmailRow
  recipients : List Recipient
  addressIds : (addresses.map AddressRow.id).Nodup
  emailIds : (emails.map EmailRow.id).Nodup
  linksEmail : ∀ link ∈ recipients, ∃ row ∈ emails, row.id = link.emailId
  linksAddress : ∀ link ∈ recipients, ∃ row ∈ addresses, row.id = link.addressId

structure AdminPermanentStats where
  total : Nat
  withEmails : Nat
  totalEmails : Nat
  unreadEmails : Nat
  sizeBytes : Nat
  retentionDays : Int
  maxAllowed : Int
  oldestCreatedAt : Option Int
  newestCreatedAt : Option Int
deriving DecidableEq

structure MailboxCounts where
  addressId : Uuid
  emailCount : Nat
  unreadCount : Nat
  sizeBytes : Nat
  lastEmailAt : Option Store.Time

def AdminPermanentAddressSummary.figures (item : AdminPermanentAddressSummary) : Nat × Nat × Nat :=
  (item.emailCount, item.unreadCount, item.sizeBytes)

namespace Tables

def isPermanent (row : AddressRow) : Bool := row.addressType == .permanent

def ownedBy (link : Recipient) (row : AddressRow) : Bool := decide (link.addressId = row.id)

def carries (link : Recipient) (row : EmailRow) : Bool := decide (link.emailId = row.id)

variable (tables : Tables)

def permanentStats (retentionDays maxAllowed : Int) : AdminPermanentStats :=
  let base := tables.addresses.filter isPermanent
  let owned := Joins.inner ownedBy tables.recipients tables.addresses
  let rows := (Joins.inner (fun pair => carries pair.1) owned tables.emails).filter (fun triple => isPermanent triple.1.2)
  let unread := owned.filter (fun pair => isPermanent pair.2 && pair.1.isRead == some false)
  { total := base.length
    withEmails := Joins.countDistinct (fun triple => some triple.1.1.addressId) rows
    totalEmails := Joins.count (fun triple => some triple.1.1.id) rows
    unreadEmails := Joins.count (fun pair => some pair.1.id) unread
    sizeBytes := (Joins.sum (fun triple => triple.2.data.sizeBytes) rows).getD 0
    retentionDays
    maxAllowed
    oldestCreatedAt := (base.map AddressRow.createdAt).min?.map stamp
    newestCreatedAt := (base.map AddressRow.createdAt).max?.map stamp }

def received : List (Recipient × EmailRow) := Joins.inner carries tables.recipients tables.emails

def mailboxCounts (group : Joins.Group Uuid (Recipient × EmailRow)) : MailboxCounts where
  addressId := group.key
  emailCount := Joins.count (fun pair => some pair.1.id) group.rows
  unreadCount := Joins.count (fun pair => Joins.nullif pair.1.isRead true) group.rows
  sizeBytes := (Joins.sum (fun pair => pair.2.data.sizeBytes) group.rows).getD 0
  lastEmailAt := (group.rows.map (fun pair => pair.2.data.receivedAt)).max?

def countsSubq : List MailboxCounts := (Joins.groupBy (fun pair => pair.1.addressId) tables.received).map mailboxCounts

def countedRow (pair : AddressRow × Option MailboxCounts) : Admin.PermanentRow where
  address := pair.1
  emailCount := (pair.2.map MailboxCounts.emailCount).getD 0
  unreadCount := (pair.2.map MailboxCounts.unreadCount).getD 0
  sizeBytes := (pair.2.map MailboxCounts.sizeBytes).getD 0
  lastEmailAt := pair.2.bind MailboxCounts.lastEmailAt

section Listing

variable (fold : Char → Char) (search : Option String)

def wanted (row : AddressRow) : Bool := isPermanent row && matchesSearch fold search [row.email]

def permanentRows : List Admin.PermanentRow :=
  let joined := Joins.outer (fun row counts => decide (counts.addressId = row.id)) tables.addresses tables.countsSubq
  (joined.filter (fun pair => wanted fold search pair.1)).map countedRow

def listPermanentAddresses (sorter : Pages.Sorter Admin.PermanentRow) (collation : Collation) (page : Page)
    (sort : PermanentSort) : AdminPermanentAddressList :=
  let total := tables.addresses.countP (wanted fold search)
  { items := (Pages.slice page.perPage page.page
      (sorter (Admin.orderBy collation sort) (tables.permanentRows fold search))).map Admin.permanentSummary
    total
    page := page.page
    perPage := page.perPage
    hasNext := page.page * page.perPage < total }

end Listing

-- What the panel adds up over the rows it lists.
structure FiguresAgree (stats : AdminPermanentStats) (items : List AdminPermanentAddressSummary) : Prop where
  total : stats.total = items.length
  totalEmails : stats.totalEmails = (items.map AdminPermanentAddressSummary.emailCount).sum
  unreadEmails : stats.unreadEmails = (items.map AdminPermanentAddressSummary.unreadCount).sum
  sizeBytes : stats.sizeBytes = (items.map AdminPermanentAddressSummary.sizeBytes).sum
  withEmails : stats.withEmails = items.countP (fun item => decide (0 < item.emailCount))

def mail (row : AddressRow) : List (Recipient × EmailRow) := tables.received.filter (fun pair => ownedBy pair.1 row)

def mailboxRow (row : AddressRow) : Admin.PermanentRow where
  address := row
  emailCount := (tables.mail row).length
  unreadCount := (tables.mail row).countP (fun pair => pair.1.isRead == some false)
  sizeBytes := ((tables.mail row).map (fun pair => pair.2.data.sizeBytes)).sum
  lastEmailAt := ((tables.mail row).map (fun pair => pair.2.data.receivedAt)).max?

theorem count_all {Row Value : Type} (column : Row → Value) (rows : List Row) :
    Joins.count (fun row => some (column row)) rows = rows.length := by
  rw [Joins.count, List.filterMap_eq_map', List.length_map]

theorem count_unread (rows : List (Recipient × EmailRow)) :
    Joins.count (fun pair => Joins.nullif pair.1.isRead true) rows = rows.countP (fun pair => pair.1.isRead == some false) := by
  rw [Joins.count, List.length_filterMap_eq_countP]
  refine List.countP_congr fun pair _ => ?_
  rcases pair.1.isRead with _ | _ | _
  · decide
  · decide
  · decide

theorem permanent_rows_eq (fold : Char → Char) (search : Option String) :
    tables.permanentRows fold search = (tables.addresses.filter (wanted fold search)).map tables.mailboxRow := by
  rw [permanentRows, countsSubq,
    Joins.outer_groups (fun pair : Recipient × EmailRow => pair.1.addressId) AddressRow.id mailboxCounts
    _ (fun _ _ => rfl), List.filter_map, List.map_map]
  refine List.map_congr_left fun row _ => ?_
  dsimp only [Function.comp_apply]
  split
  · rename_i empty
    have none : tables.mail row = [] := empty
    simp only [countedRow, mailboxRow, none]
    rfl
  · simp only [countedRow, mailboxRow, mailboxCounts, Option.map_some, Option.getD_some, Option.bind_some,
      count_all, count_unread,
      Joins.sum_coalesced]
    rfl

section Figures

def mailboxes : List AddressRow := tables.addresses.filter isPermanent

def triples : List ((Recipient × AddressRow) × EmailRow) :=
  (Joins.inner (fun pair => carries pair.1) (Joins.inner ownedBy tables.recipients tables.addresses) tables.emails).filter
    (fun triple => isPermanent triple.1.2)

theorem triples_sum (weight : Recipient → EmailRow → Nat) :
    (tables.triples.map (fun triple => weight triple.1.1 triple.2)).sum =
      (tables.mailboxes.map (fun row => ((tables.mail row).map (fun pair => weight pair.1 pair.2)).sum)).sum :=
  Joins.sum_joined ownedBy carries isPermanent tables.recipients tables.addresses tables.emails weight

theorem one_email (link : Recipient) (member : link ∈ tables.recipients) (weight : Nat) :
    (tables.emails.map (fun row => if carries link row = true then weight else 0)).sum = weight := by
  obtain ⟨row, known, same⟩ := tables.linksEmail link member
  have once : (tables.emails.filter (carries link)).length = 1 := by
    have counted := List.count_eq_one_of_mem tables.emailIds (List.mem_map_of_mem known)
    rw [same, List.count, List.countP_map] at counted
    rw [← List.countP_eq_length_filter, ← counted]
    refine List.countP_congr fun other _ => ?_
    rw [carries, decide_eq_true_iff, Function.comp_apply, beq_iff_eq]
    exact eq_comm
  rw [← Joins.sum_filter (carries link), List.map_const', List.sum_replicate, once, one_nsmul]

theorem owned_known (pair : Recipient × AddressRow) (member : pair ∈ Joins.inner ownedBy tables.recipients tables.addresses) :
    pair.1 ∈ tables.recipients := by
  rw [Joins.inner] at member
  obtain ⟨link, known, inside⟩ := List.mem_flatMap.mp member
  obtain ⟨row, -, rfl⟩ := List.mem_map.mp inside
  exact known

theorem unread_sum : ((Joins.inner ownedBy tables.recipients tables.addresses).filter
    (fun pair => isPermanent pair.2 && pair.1.isRead == some false)).length =
      (tables.mailboxes.map (fun row => (tables.mail row).countP (fun pair => pair.1.isRead == some false))).sum := by
  have counted : ∀ row, (tables.mail row).countP (fun pair => pair.1.isRead == some false) =
      ((tables.mail row).map (fun pair => if pair.1.isRead == some false then 1 else 0)).sum := by
    intro row
    rw [List.countP_eq_length_filter, Joins.length_filter_sum]
  simp only [counted]
  rw [← tables.triples_sum (fun link _ => if link.isRead == some false then 1 else 0), triples, Joins.sum_filter, Joins.sum_inner,
    Joins.length_filter_sum]
  have lone : ∀ pair ∈ Joins.inner ownedBy tables.recipients tables.addresses,
      (tables.emails.map (fun row => if carries pair.1 row = true then
        (if isPermanent pair.2 = true then (if (pair.1.isRead == some false) = true then 1 else 0) else 0) else 0)).sum =
      if (isPermanent pair.2 && pair.1.isRead == some false) = true then 1 else 0 := by
    intro pair member
    rw [one_email tables pair.1 (owned_known tables pair member)]
    cases isPermanent pair.2 <;> simp
  rw [List.map_congr_left lone]

theorem mem_triples (triple : (Recipient × AddressRow) × EmailRow) : triple ∈ tables.triples ↔
    triple.1.2 ∈ tables.mailboxes ∧ (triple.1.1, triple.2) ∈ tables.mail triple.1.2 := by
  simp only [triples, mailboxes, mail, received, Joins.inner, List.mem_filter, List.mem_flatMap, List.mem_map]
  grind

theorem owners_distinct : Joins.countDistinct (fun triple : (Recipient × AddressRow) × EmailRow => some triple.1.1.addressId)
    tables.triples = tables.mailboxes.countP (fun row => decide (0 < (tables.mail row).length)) := by
  rw [Joins.countDistinct, List.filterMap_eq_map', List.countP_eq_length_filter, ← List.length_map AddressRow.id]
  refine List.Perm.length_eq ((List.perm_ext_iff_of_nodup (List.nodup_dedup _) ?_).mpr fun k => ?_)
  · exact Rows.unique_filter AddressRow.id _ _ (Rows.unique_filter AddressRow.id _ _ tables.addressIds)
  · rw [List.mem_dedup, List.mem_map, List.mem_map]
    constructor
    · rintro ⟨triple, member, rfl⟩
      obtain ⟨owner, inside⟩ := (mem_triples tables triple).mp member
      have named : triple.1.1.addressId = triple.1.2.id := of_decide_eq_true (List.mem_filter.mp inside).2
      exact ⟨triple.1.2, List.mem_filter.mpr ⟨owner, decide_eq_true (List.length_pos_of_mem inside)⟩, named.symm⟩
    · rintro ⟨row, member, rfl⟩
      obtain ⟨owner, filled⟩ := List.mem_filter.mp member
      obtain ⟨pair, inside⟩ := List.exists_mem_of_length_pos (of_decide_eq_true filled)
      have named : pair.1.addressId = row.id := of_decide_eq_true (List.mem_filter.mp inside).2
      exact ⟨((pair.1, row), pair.2), (mem_triples tables _).mpr ⟨owner, inside⟩, named⟩

theorem figures_mailboxes (retentionDays maxAllowed : Int) : FiguresAgree (tables.permanentStats retentionDays maxAllowed)
    (tables.mailboxes.map (fun row => Admin.permanentSummary (tables.mailboxRow row))) where
  total := (List.length_map _).symm
  totalEmails := by
    have weighed := tables.triples_sum (fun _ _ => 1)
    simp only [List.map_const', List.sum_replicate, nsmul_eq_mul, Nat.mul_one] at weighed
    rw [List.map_map]
    exact (count_all _ tables.triples).trans weighed
  unreadEmails := by
    rw [List.map_map]
    exact (count_all _ _).trans tables.unread_sum
  sizeBytes := by
    rw [List.map_map]
    exact (Joins.sum_coalesced _ tables.triples).trans (tables.triples_sum (fun _ row => row.data.sizeBytes))
  withEmails := by
    rw [List.countP_map]
    exact tables.owners_distinct

theorem figures_perm (stats : AdminPermanentStats) (items listed : List AdminPermanentAddressSummary)
    (same : (listed.map AdminPermanentAddressSummary.figures).Perm (items.map AdminPermanentAddressSummary.figures))
    (agree : FiguresAgree stats items) : FiguresAgree stats listed := by
  have spread : ∀ {Value : Type} (value : Nat × Nat × Nat → Value),
      (listed.map (fun item => value item.figures)).Perm (items.map (fun item => value item.figures)) := by
    intro Value value
    have moved := same.map value
    rw [List.map_map, List.map_map] at moved
    exact moved
  constructor
  · rw [agree.total]
    simpa using same.length_eq.symm
  · exact agree.totalEmails.trans (spread Prod.fst).sum_eq.symm
  · exact agree.unreadEmails.trans (spread (fun figures => figures.2.1)).sum_eq.symm
  · exact agree.sizeBytes.trans (spread (fun figures => figures.2.2)).sum_eq.symm
  · have counted := (spread Prod.fst).countP_eq (fun count => decide (0 < count))
    rw [List.countP_map, List.countP_map] at counted
    exact agree.withEmails.trans counted.symm

theorem figures_exchanged (stats : AdminPermanentStats) (front rest : List AdminPermanentAddressSummary)
    (a c : AdminPermanentAddressSummary) (first : FiguresAgree stats (front ++ [a] ++ rest))
    (second : FiguresAgree stats (front ++ [c] ++ rest)) : c.figures = a.figures := by
  have totals := first.totalEmails.symm.trans second.totalEmails
  have unread := first.unreadEmails.symm.trans second.unreadEmails
  have sizes := first.sizeBytes.symm.trans second.sizeBytes
  simp only [List.map_append, List.sum_append, List.map_cons, List.map_nil, List.sum_singleton] at totals unread sizes
  refine Prod.ext ?_ (Prod.ext ?_ ?_)
  · dsimp only [AdminPermanentAddressSummary.figures]
    omega
  · dsimp only [AdminPermanentAddressSummary.figures]
    omega
  · dsimp only [AdminPermanentAddressSummary.figures]
    omega

end Figures

def pageCount (size : Page) (total : Nat) : Nat := (total + size.perPage - 1) / size.perPage

theorem wanted_all (fold : Char → Char) : wanted fold none = isPermanent := by
  funext row
  exact Bool.and_true _

section Paging

variable (fold : Char → Char) (collation : Collation) (sort : PermanentSort) (size : Page)

theorem page_items (sorter : Pages.Sorter Admin.PermanentRow) (page : Nat) (counted : 1 ≤ page) :
    (tables.listPermanentAddresses fold none sorter collation (size.turn page) sort).items =
      (Pages.slice size.perPage page (sorter (Admin.orderBy collation sort) (tables.permanentRows fold none))).map
        Admin.permanentSummary := by
  have turned := turn_page size page counted
  simp only [listPermanentAddresses, turned]
  rfl

theorem permanent_nodup : (tables.permanentRows fold none).Nodup := by
  rw [permanent_rows_eq]
  refine (List.Nodup.of_map AddressRow.id tables.addressIds).filter _ |>.map fun first second same => ?_
  exact congrArg Admin.PermanentRow.address same

theorem listed_figures (retentionDays maxAllowed : Int) : FiguresAgree (tables.permanentStats retentionDays maxAllowed)
    ((tables.permanentRows fold none).map Admin.permanentSummary) := by
  rw [permanent_rows_eq, wanted_all, List.map_map]
  exact figures_mailboxes tables retentionDays maxAllowed

-- What the panel adds up over the pages it asked for, each sorted on its own.
def listed (sorters : Nat → Pages.Sorter Admin.PermanentRow) (pages : List Nat) : List AdminPermanentAddressSummary :=
  pages.flatMap (fun page => (tables.listPermanentAddresses fold none (sorters page) collation (size.turn page) sort).items)

def rowFigures (row : Admin.PermanentRow) : Nat × Nat × Nat := (Admin.permanentSummary row).figures

-- The pages add up however often the database sorts anew exactly when no page ends
-- among mailboxes that its sort key leaves equal and whose figures differ.
theorem permanent_figures_iff (retentionDays maxAllowed : Int) :
    (∀ sorters : Nat → Pages.Sorter Admin.PermanentRow,
      (∀ page, Pages.Allowed (Admin.orderBy collation sort) (tables.permanentRows fold none)
        (sorters page (Admin.orderBy collation sort) (tables.permanentRows fold none))) →
      ∀ pages : List Nat, pages.Perm (List.range' 1 (pageCount size (tables.permanentRows fold none).length)) →
        FiguresAgree (tables.permanentStats retentionDays maxAllowed) (tables.listed fold collation sort size sorters pages)) ↔
    Pages.Balanced (Admin.orderBy collation sort) size.perPage rowFigures
      ((tables.permanentRows fold none).mergeSort (Admin.orderBy collation sort)) := by
  have ranks := order_by_ranks collation sort
  have sorted := Pages.allowed_sort (Admin.orderBy collation sort) ranks (tables.permanentRows fold none) _ (.refl _)
  constructor
  · intro always page a b counted lastIn firstOut tied row inside fromRow toRow
    by_cases same : row = a
    · rw [same]
    classical
    have distinct := sorted.perm.nodup_iff.mpr (tables.permanent_nodup fold)
    obtain ⟨first, second, front, firstAllowed, secondAllowed, firstPage, secondPage⟩ := Pages.exchanged_page _ size.perPage
      _ _ sorted ranks distinct size.filled page a b row counted lastIn firstOut tied inside same fromRow toRow
    have bound : page ∈ List.range' 1 (pageCount size (tables.permanentRows fold none).length) := by
      obtain ⟨short, -⟩ := List.getElem?_eq_some_iff.mp firstOut
      rw [sorted.perm.length_eq] at short
      have upTo : page ≤ pageCount size (tables.permanentRows fold none).length := by
        rw [pageCount, Nat.le_div_iff_mul_le size.filled]
        omega
      exact List.mem_range'_1.mpr ⟨counted, by omega⟩
    -- The page in question is sorted one way or the other, all others one way.
    have agree : ∀ chosen : List Admin.PermanentRow,
        Pages.Allowed (Admin.orderBy collation sort) (tables.permanentRows fold none) chosen →
        FiguresAgree (tables.permanentStats retentionDays maxAllowed)
          ((Pages.slice size.perPage page chosen).map Admin.permanentSummary ++
            tables.listed fold collation sort size (fun _ _ _ => first)
              ((List.range' 1 (pageCount size (tables.permanentRows fold none).length)).erase page)) := by
      intro chosen allowed
      have served := always (fun other _ _ => if other = page then chosen else first) (fun other => by
        split
        · exact allowed
        · exact firstAllowed) _ (List.perm_cons_erase bound).symm
      have others : ∀ other ∈ (List.range' 1 (pageCount size (tables.permanentRows fold none).length)).erase page, other ≠ page :=
        fun other member => (List.Nodup.mem_erase_iff List.nodup_range').mp member |>.1
      rw [listed, List.flatMap_cons, page_items _ _ _ _ _ _ _ counted, if_pos rfl] at served
      rwa [List.flatMap_congr fun other member => by rw [if_neg (others other member)]] at served
    have one := agree first firstAllowed
    have two := agree second secondAllowed
    rw [firstPage, List.map_append] at one
    rw [secondPage, List.map_append] at two
    exact figures_exchanged _ _ _ _ _ one two
  · intro balanced sorters allowed pages all
    refine figures_perm _ _ _ ?_ (tables.listed_figures fold retentionDays maxAllowed)
    have cut : tables.listed fold collation sort size sorters pages = (pages.flatMap (fun page => Pages.slice size.perPage page
        (sorters page (Admin.orderBy collation sort) (tables.permanentRows fold none)))).map Admin.permanentSummary := by
      rw [listed, List.map_flatMap]
      refine List.flatMap_congr fun page member => page_items tables fold collation sort size _ page ?_
      exact (List.mem_range'_1.mp (all.mem_iff.mp member)).1
    rw [cut, List.map_map, List.map_map]
    exact Pages.pages_balanced _ size.perPage rowFigures ranks _ _ _ sorted allowed balanced size.filled pages all

end Paging

section Projection

def recipient (link : Link) : Recipient := ⟨link.id, link.emailId, link.addressId, some link.isRead⟩

def ofInbox (inbox : Inbox) (emails : ∀ link ∈ inbox.links, ∃ row ∈ inbox.emails, row.id = link.emailId)
    (addresses : ∀ link ∈ inbox.links, ∃ row ∈ inbox.addresses, row.id = link.addressId) : Tables where
  addresses := inbox.addresses
  emails := inbox.emails
  recipients := inbox.links.map recipient
  addressIds := inbox.addressIds
  emailIds := inbox.emailIds
  linksEmail := List.forall_mem_map.mpr emails
  linksAddress := List.forall_mem_map.mpr addresses

theorem filter_email (rows : List EmailRow) (ids : (rows.map EmailRow.id).Nodup) (emailId : Uuid) :
    rows.filter (fun row => decide (emailId = row.id)) = (rows.find? (fun row => row.id == emailId)).toList := by
  induction rows with
  | nil => rfl
  | cons first rest ih =>
      rw [List.map_cons, List.nodup_cons] at ids
      by_cases here : first.id = emailId
      · have others : rest.filter (fun row => decide (emailId = row.id)) = [] := by
          refine List.filter_eq_nil_iff.mpr fun row member same => ids.1 ?_
          rw [here, of_decide_eq_true same]
          exact List.mem_map_of_mem member
        rw [List.filter_cons_of_pos (by simp [here]), others, List.find?_cons_of_pos (by simp [here])]
        rfl
      · rw [List.filter_cons_of_neg (by simpa [eq_comm] using here), ih ids.2, List.find?_cons_of_neg (by simpa using here)]

theorem mail_inbox (inbox : Inbox) (emails : ∀ link ∈ inbox.links, ∃ row ∈ inbox.emails, row.id = link.emailId)
    (addresses : ∀ link ∈ inbox.links, ∃ row ∈ inbox.addresses, row.id = link.addressId) (row : AddressRow) :
    (ofInbox inbox emails addresses).mail row = (joined inbox row.id).map (fun pair => (recipient pair.2, pair.1)) := by
  have spread : ∀ links : List Link,
      (Joins.inner carries (links.map recipient) inbox.emails).filter (fun pair => ownedBy pair.1 row) =
      ((links.filter (fun link => link.addressId == row.id)).filterMap (fun link =>
        (inbox.emails.find? (fun row => row.id == link.emailId)).map (fun row => (row, link)))).map
          (fun pair => (recipient pair.2, pair.1)) := by
    intro links
    induction links with
    | nil => rfl
    | cons link rest ih =>
        have found : inbox.emails.filter (carries (recipient link)) =
            (inbox.emails.find? (fun row => row.id == link.emailId)).toList :=
              filter_email inbox.emails inbox.emailIds link.emailId
        rw [Joins.inner, List.map_cons, List.flatMap_cons, List.filter_append, ← Joins.inner, ih, found]
        by_cases own : link.addressId = row.id
        · have owned : ownedBy (recipient link) row = true := decide_eq_true own
          rw [List.filter_cons_of_pos (by simp [own])]
          cases located : inbox.emails.find? (fun row => row.id == link.emailId) with
          | none =>
              rw [List.filterMap_cons_none (by rw [located]; rfl)]
              rfl
          | some email =>
              have kept : [(recipient link, email)].filter (fun pair => ownedBy pair.1 row) = [(recipient link, email)] :=
                List.filter_cons_of_pos owned
              rw [List.filterMap_cons_some (by rw [located]; rfl), List.map_cons, Option.toList_some, List.map_singleton, kept]
              rfl
        · have foreign : ownedBy (recipient link) row = false := decide_eq_false own
          rw [List.filter_cons_of_neg (by simpa using own)]
          cases inbox.emails.find? (fun row => row.id == link.emailId) with
          | none => rfl
          | some email => simp [foreign]
  exact spread inbox.links

theorem permanent_rows_inbox (inbox : Inbox) (emails : ∀ link ∈ inbox.links, ∃ row ∈ inbox.emails, row.id = link.emailId)
    (addresses : ∀ link ∈ inbox.links, ∃ row ∈ inbox.addresses, row.id = link.addressId) (fold : Char → Char)
    (search : Option String) :
    (ofInbox inbox emails addresses).permanentRows fold search = Admin.permanentRows fold inbox search := by
  rw [permanent_rows_eq, Admin.permanentRows]
  refine List.map_congr_left fun row _ => ?_
  rw [mailboxRow, mail_inbox, Admin.permanentRow, Admin.lastEmail, List.length_map, List.countP_map, List.map_map, List.map_map]
  simp only [Admin.PermanentRow.mk.injEq, true_and]
  refine ⟨List.countP_congr fun pair _ => ?_, rfl, rfl⟩
  simp [recipient]

end Projection

end Tables

section Sample

open Store (sampleAddress sized)

def sharedTables : Tables where
  addresses := [sampleAddress 1 "a@example.com" "alpha" .permanent none (by decide +kernel) (by decide +kernel),
    sampleAddress 2 "b@example.com" "beta" .permanent none (by decide +kernel) (by decide +kernel),
    sampleAddress 3 "c@example.com" "gamma" .temp (some 100) (by decide +kernel) (by decide +kernel)]
  emails := [sized 1 0 10, sized 2 5 20]
  recipients := [⟨1, 1, 1, some false⟩, ⟨2, 1, 2, none⟩, ⟨3, 1, 3, some false⟩, ⟨4, 2, 1, some true⟩]
  addressIds := by decide
  emailIds := by decide
  linksEmail := by decide
  linksAddress := by decide

def byEmail : Collation where
  before first second := decide (first ≤ second)
  ranks := ⟨fun a b => by simpa using le_total a b, fun a b c => by simpa using le_trans⟩

-- The two mailboxes are of one instant, and only the first request sorts the second first.
def turned (page : Nat) : Pages.Sorter Admin.PermanentRow := fun _ rows => if page = 1 then rows.reverse else rows

theorem first_mailbox_missed :
    (∀ page, Pages.Allowed (Admin.orderBy byEmail .created) (sharedTables.permanentRows id none)
      (turned page (Admin.orderBy byEmail .created) (sharedTables.permanentRows id none))) ∧
    [1, 2].Perm (List.range' 1 (Tables.pageCount oneEach (sharedTables.permanentRows id none).length)) ∧
    (sharedTables.permanentStats 30 0).totalEmails = 3 ∧
    ((sharedTables.listed id byEmail .created oneEach turned [1, 2]).map AdminPermanentAddressSummary.emailCount).sum = 2 ∧
    ¬ Tables.FiguresAgree (sharedTables.permanentStats 30 0) (sharedTables.listed id byEmail .created oneEach turned [1, 2]) := by
  refine ⟨fun page => ?_, by decide +kernel, by decide +kernel, by decide +kernel,
    fun agree => absurd agree.totalEmails (by decide +kernel)⟩
  by_cases first : page = 1
  · rw [turned, if_pos first]
    exact ⟨List.reverse_perm _, by decide +kernel⟩
  · rw [turned, if_neg first]
    exact ⟨.refl _, by decide +kernel⟩

end Sample

end Tempmail.Api
