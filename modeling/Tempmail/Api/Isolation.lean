import Tempmail.Api.Atomicity
import Tempmail.Api.TokenRoutes

set_option autoImplicit false

namespace Tempmail.Api

open Store (AddressRow EmailRow FileRow Inbox Link Uuid)
open Store.Inbox (View)

variable (python : Python) (executor : Executor)

-- What the queries of the routes say of one address's view alone.
section Queries

variable (inbox : Inbox) (addressId emailId : Uuid)

def viewed (view : View) (emailId : Uuid) : Option (EmailRow × Link) := do
  let row ← view.emails.find? (fun row => row.id == emailId)
  let link ← view.links.find? (fun link => link.emailId == emailId)
  some (row, link)

theorem view_link : inbox.links.find? (fun link => link.emailId == emailId && link.addressId == addressId) =
    (inbox.view addressId).links.find? (fun link => link.emailId == emailId) := by
  rw [Store.Inbox.view, List.find?_filter]
  congr 1
  funext link
  rw [Bool.and_comm, Bool.decide_and, Bool.decide_eq_true, Bool.decide_eq_true]

theorem view_email (shown : inbox.shows addressId emailId = true) :
    inbox.emails.find? (fun row => row.id == emailId) = (inbox.view addressId).emails.find? (fun row => row.id == emailId) := by
  rw [Store.Inbox.view, List.find?_filter]
  congr 1
  funext row
  by_cases same : row.id = emailId
  · simp [same, shown]
  · simp [same]

theorem view_files (shown : inbox.shows addressId emailId = true) :
    inbox.files.filter (fun file => file.emailId == emailId) =
      (inbox.view addressId).files.filter (fun file => file.emailId == emailId) := by
  rw [Store.Inbox.view, List.filter_filter]
  refine List.filter_congr fun file _ => ?_
  by_cases same : file.emailId = emailId
  · simp [same, shown]
  · simp [same]

theorem received_viewed : inbox.received addressId emailId = viewed (inbox.view addressId) emailId := by
  rw [Store.Inbox.received, viewed, ← view_link inbox addressId emailId]
  cases found : inbox.links.find? (fun link => link.emailId == emailId && link.addressId == addressId) with
  | none => cases inbox.emails.find? (fun row => row.id == emailId) <;> cases (inbox.view addressId).emails.find? _ <;> rfl
  | some link =>
      have shown : inbox.shows addressId emailId = true :=
        List.any_eq_true.mpr ⟨link, List.mem_of_find?_eq_some found, by simpa using List.find?_some found⟩
      rw [view_email inbox addressId emailId shown]

theorem joined_viewed : joined inbox addressId = (inbox.view addressId).links.filterMap (fun link =>
    ((inbox.view addressId).emails.find? (fun row => row.id == link.emailId)).map (fun row => (row, link))) := by
  refine List.filterMap_congr fun link member => ?_
  obtain ⟨known, mine⟩ := List.mem_filter.mp member
  have shown : inbox.shows addressId link.emailId = true := List.any_eq_true.mpr ⟨link, known, by simpa using mine⟩
  rw [view_email inbox addressId link.emailId shown]

theorem received_shown (found : EmailRow × Link) (received : inbox.received addressId emailId = some found) :
    found.1.id = emailId ∧ inbox.shows addressId emailId = true := by
  simp only [Store.Inbox.received, bind, Option.bind_eq_some_iff] at received
  obtain ⟨row, rowFound, link, linkFound, same⟩ := received
  cases same
  exact ⟨by simpa using List.find?_some rowFound,
    List.any_eq_true.mpr ⟨link, List.mem_of_find?_eq_some linkFound, by simpa using List.find?_some linkFound⟩⟩

theorem joined_apart (a b : EmailRow × Link) (memberA : a ∈ joined inbox addressId) (memberB : b ∈ joined inbox addressId)
    (same : a.2.id = b.2.id) : a = b := by
  obtain ⟨first, firstMember, firstRow⟩ := List.mem_filterMap.mp memberA
  obtain ⟨second, secondMember, secondRow⟩ := List.mem_filterMap.mp memberB
  obtain ⟨rowA, foundA, rfl⟩ := Option.map_eq_some_iff.mp firstRow
  obtain ⟨rowB, foundB, rfl⟩ := Option.map_eq_some_iff.mp secondRow
  have link := Rows.same_row Link.id inbox.links inbox.linkIds first second (List.mem_filter.mp firstMember).1
    (List.mem_filter.mp secondMember).1 same
  subst link
  rw [Option.some.inj (foundA.symm.trans foundB)]

end Queries

section Read

-- Two states agree on an address when it is the same row and they hold the same
-- links, emails and attachments for it, in whatever order.
structure SameView (left right : View) : Prop where
  address : left.address = right.address
  emails : left.emails.Perm right.emails
  links : left.links.Perm right.links
  files : left.files.Perm right.files

def AgreeOn (token : String) (left right : Inbox) : Prop :=
  left.addressByToken token = right.addressByToken token ∧
    ∀ address, left.addressByToken token = some address → SameView (left.view address.id) (right.view address.id)

variable (left right : Inbox) (addressId emailId : Uuid) (same : SameView (left.view addressId) (right.view addressId))

theorem view_email_ids (inbox : Inbox) : ((inbox.view addressId).emails.map EmailRow.id).Nodup :=
  Rows.unique_filter _ inbox.emails _ inbox.emailIds

theorem view_links_apart (inbox : Inbox) (a b : Link) (memberA : a ∈ (inbox.view addressId).links)
    (memberB : b ∈ (inbox.view addressId).links) (sameEmail : a.emailId = b.emailId) : a = b := by
  obtain ⟨knownA, mineA⟩ := List.mem_filter.mp memberA
  obtain ⟨knownB, mineB⟩ := List.mem_filter.mp memberB
  have pair : (a.emailId, a.addressId) = (b.emailId, b.addressId) := by
    rw [sameEmail, eq_of_beq mineA, eq_of_beq mineB]
  exact Rows.same_row _ inbox.links inbox.linkPairs a b knownA knownB pair

include same

theorem found_same : (left.view addressId).emails.find? (fun row => row.id == emailId) =
    (right.view addressId).emails.find? (fun row => row.id == emailId) := by
  refine Rows.find_perm _ _ _ same.emails fun a memberA b memberB wantedA wantedB => ?_
  exact Rows.same_row EmailRow.id _ (view_email_ids addressId left) a b memberA memberB
    ((eq_of_beq wantedA).trans (eq_of_beq wantedB).symm)

theorem link_same : (left.view addressId).links.find? (fun link => link.emailId == emailId) =
    (right.view addressId).links.find? (fun link => link.emailId == emailId) := by
  refine Rows.find_perm _ _ _ same.links fun a memberA b memberB wantedA wantedB => ?_
  exact view_links_apart addressId left a b memberA memberB ((eq_of_beq wantedA).trans (eq_of_beq wantedB).symm)

theorem received_same : left.received addressId emailId = right.received addressId emailId := by
  rw [received_viewed, received_viewed, viewed, viewed, found_same left right addressId emailId same,
    link_same left right addressId emailId same]

theorem shows_same : left.shows addressId emailId = right.shows addressId emailId := by
  rw [Store.Inbox.shows_links, Store.Inbox.shows_links]
  exact same.links.any_eq

theorem joined_same : (joined left addressId).Perm (joined right addressId) := by
  rw [joined_viewed, joined_viewed]
  have found : ∀ link : Link, (left.view addressId).emails.find? (fun row => row.id == link.emailId) =
      (right.view addressId).emails.find? (fun row => row.id == link.emailId) :=
    fun link => found_same left right addressId link.emailId same
  simp only [found]
  exact same.links.filterMap _

theorem files_same (shown : left.shows addressId emailId = true) :
    (left.files.filter (fun file => file.emailId == emailId)).Perm
    (right.files.filter (fun file => file.emailId == emailId)) := by
  have seen := shows_same left right addressId emailId same
  rw [shown] at seen
  rw [view_files left addressId emailId shown, view_files right addressId emailId seen.symm]
  exact same.files.filter _

theorem attachments_same (shown : left.shows addressId emailId = true) :
    attachmentsOf executor left emailId = attachmentsOf executor right emailId := by
  refine Rows.arrange_perm _ _ _ (files_same left right addressId emailId same shown) fun a memberA b memberB place => ?_
  exact Rows.same_row FileRow.id left.files left.fileIds a b (List.mem_filter.mp memberA).1 (List.mem_filter.mp memberB).1
    (executor.distinct place)

theorem list_same (address : AddressRow) (here : address.id = addressId) (page : Page) (unreadOnly : Bool)
    (search : Option String) :
    listEmails executor left address page unreadOnly search = listEmails executor right address page unreadOnly search := by
  have found := (joined_same left right addressId same).filter
    (fun pair => (!unreadOnly || !pair.2.isRead) && searched executor search pair.1)
  have ordered := Rows.arrange_perm (fun pair => executor.place pair.2.id) _ _ found
    fun a memberA b memberB place => joined_apart left addressId a b (List.mem_filter.mp memberA).1 (List.mem_filter.mp memberB).1
      (executor.distinct place)
  simp only [listEmails, here, ordered, found.length_eq]

theorem get_same (address : AddressRow) (here : address.id = addressId) (markRead : Bool) (now : Store.Time) :
    (getEmail executor left address emailId markRead now).1 = (getEmail executor right address emailId markRead now).1 := by
  have received := received_same left right addressId emailId same
  rw [getEmail, getEmail, here, ← received]
  cases found : left.received addressId emailId with
  | none => rfl
  | some pair =>
      obtain ⟨row, link⟩ := pair
      obtain ⟨id, shown⟩ := received_shown left addressId emailId (row, link) found
      have files := attachments_same executor left right addressId emailId same shown
      have marked : ∀ inbox : Inbox,
          attachmentsOf executor (if markRead && !link.isRead then inbox.markRead link.id now else inbox) row.id =
          attachmentsOf executor inbox emailId := by
        intro inbox
        rw [← id]
        split <;> rfl
      simp only [emailDetail, marked, files]

theorem raw_same (address : AddressRow) (here : address.id = addressId) :
    downloadRawEmail left address emailId = downloadRawEmail right address emailId := by
  rw [downloadRawEmail, downloadRawEmail, here, received_same left right addressId emailId same]

theorem attachment_same (address : AddressRow) (here : address.id = addressId) (attachmentId : Uuid) :
    downloadAttachment python left address emailId attachmentId =
      downloadAttachment python right address emailId attachmentId := by
  have received := received_same left right addressId emailId same
  rw [downloadAttachment, downloadAttachment, here, ← received]
  cases found : left.received addressId emailId with
  | none => rfl
  | some pair =>
      obtain ⟨-, shown⟩ := received_shown left addressId emailId pair found
      have files := files_same left right addressId emailId same shown
      have split : ∀ inbox : Inbox, inbox.files.find? (fun file => file.id == attachmentId && file.emailId == emailId) =
          (inbox.files.filter (fun file => file.emailId == emailId)).find? (fun file => file.id == attachmentId) := by
        intro inbox
        rw [List.find?_filter]
        congr 1
        funext file
        rw [Bool.and_comm, Bool.decide_and, Bool.decide_eq_true, Bool.decide_eq_true]
      have one := Rows.find_perm
        (fun file : FileRow => file.id == attachmentId) _ _ files fun a memberA b memberB wantedA wantedB =>
        Rows.same_row FileRow.id left.files left.fileIds a b (List.mem_filter.mp memberA).1 (List.mem_filter.mp memberB).1
          ((eq_of_beq wantedA).trans (eq_of_beq wantedB).symm)
      rw [split left, split right, one]

theorem delete_same (address : AddressRow) (here : address.id = addressId) :
    (deleteEmail left address emailId).1 = (deleteEmail right address emailId).1 := by
  have answers : ∀ inbox : Inbox, (deleteEmail inbox address emailId).1 =
      ((inbox.view addressId).links.find? (fun link => link.emailId == emailId)).elim (.error emailNotFound)
      (fun _ => .ok .noContent) := by
    intro inbox
    rw [deleteEmail, here, view_link inbox addressId emailId]
    cases (inbox.view addressId).links.find? (fun link => link.emailId == emailId) with
    | none => rfl
    | some link =>
        dsimp only
        split <;> rfl
  rw [answers left, answers right, link_same left right addressId emailId same]

omit same in
theorem answer_same (request : TokenRequest) (address : AddressRow) (now : Store.Time)
    (agree : SameView (left.view address.id) (right.view address.id)) :
    (request.answer python executor left address now).1 = (request.answer python executor right address now).1 := by
  cases request with
  | info => rfl
  | listEmails page unreadOnly search =>
      simp only [TokenRequest.answer, list_same executor left right address.id agree address rfl page unreadOnly search]
  | getEmail emailId markRead => exact get_same executor left right address.id emailId agree address rfl markRead now
  | downloadRaw emailId => exact raw_same left right address.id emailId agree address rfl
  | downloadAttachment emailId attachmentId =>
      exact attachment_same python left right address.id emailId agree address rfl attachmentId
  | deleteEmail emailId => exact delete_same left right address.id emailId agree address rfl

end Read

section Write

variable (inbox : Inbox) (address : AddressRow) (other : Uuid) (apart : other ≠ address.id)

include apart

theorem get_frame (emailId : Uuid) (markRead : Bool) (now : Store.Time) :
    (getEmail executor inbox address emailId markRead now).2.view other = inbox.view other := by
  rw [getEmail]
  cases found : inbox.received address.id emailId with
  | none => rfl
  | some pair =>
      obtain ⟨row, link⟩ := pair
      dsimp only
      split
      · refine Store.Inbox.mark_view inbox other link.id now fun theirs member mine same => ?_
        simp only [Store.Inbox.received, bind, Option.bind_eq_some_iff] at found
        obtain ⟨_, -, held, linkFound, pair_eq⟩ := found
        cases pair_eq
        have linkMine : link.addressId = address.id := by
          have holds := List.find?_some linkFound
          rw [Bool.and_eq_true, beq_iff_eq, beq_iff_eq] at holds
          exact holds.2
        have equal := Rows.same_row Link.id inbox.links inbox.linkIds theirs link member
          (List.mem_of_find?_eq_some linkFound) same
        rw [equal, linkMine] at mine
        exact apart mine.symm
      · rfl

theorem delete_frame (emailId : Uuid) : (deleteEmail inbox address emailId).2.view other = inbox.view other := by
  rw [deleteEmail]
  cases found : inbox.links.find? (fun link => link.emailId == emailId && link.addressId == address.id) with
  | none => rfl
  | some recipient =>
      have holds := List.find?_some found
      rw [Bool.and_eq_true, beq_iff_eq, beq_iff_eq] at holds
      have flushed : (inbox.deleteLinks (fun link => link.id == recipient.id)).view other = inbox.view other := by
        refine Store.Inbox.delete_links_view inbox other _ fun theirs member mine => ?_
        by_contra same
        have same_id : theirs.id = recipient.id := by simpa using same
        have equal := Rows.same_row Link.id inbox.links inbox.linkIds theirs recipient member
          (List.mem_of_find?_eq_some found) same_id
        rw [equal, holds.2] at mine
        exact apart mine.symm
      dsimp only
      split
      · exact flushed
      · rename_i unlinked
        have hidden := Store.Inbox.unlinked_hidden _ other emailId (by simpa using unlinked)
        have cleared := Store.Inbox.delete_files_view (inbox.deleteLinks (fun link => link.id == recipient.id)) other
          (fun file => file.emailId == emailId) fun file _ gone => by rw [eq_of_beq gone]; exact hidden
        have unseen : (Store.Inbox.deleteFiles (inbox.deleteLinks (fun link => link.id == recipient.id))
            (fun file => file.emailId == emailId)).shows other emailId = false := by
          rw [Store.Inbox.shows_links, cleared, ← Store.Inbox.shows_links]
          exact hidden
        refine (Store.Inbox.delete_emails_view _ other (fun row => row.id == emailId) fun row _ gone => ?_).trans
          (cleared.trans flushed)
        rw [eq_of_beq gone]
        exact unseen

theorem answer_frame (request : TokenRequest) (now : Store.Time) :
    (request.answer python executor inbox address now).2.view other = inbox.view other := by
  cases request with
  | getEmail emailId markRead => exact get_frame executor inbox address other apart emailId markRead now
  | deleteEmail emailId => exact delete_frame inbox address other apart emailId
  | _ => rfl

end Write

-- On the tables of the store the delete route is its transaction there.
theorem delete_route_db (token : String) (now : Store.Time) (inbox : Inbox) (emailId : Uuid) :
    ((TokenRequest.deleteEmail emailId).handle python executor (.ok ()) token now inbox).2.db =
      inbox.db.deleteEmailByToken token emailId now := by
  simp only [TokenRequest.handle, getAddressByToken, Store.Db.deleteEmailByToken]
  have carries : inbox.db.addresses.find? (fun row => row.token == token) = inbox.addressByToken token := rfl
  rw [carries]
  cases inbox.addressByToken token with
  | none => rfl
  | some address =>
      cases expired : address.isExpired now with
      | true => simp [expired]
      | false =>
          simp only [expired, Bool.false_eq_true, if_false, TokenRequest.answer, deleteEmail]
          cases found : inbox.links.find? (fun link => link.emailId == emailId && link.addressId == address.id) with
          | none =>
              have absent : inbox.db.recipients.contains ⟨emailId, address.id⟩ = false := by
                rw [List.find?_eq_none] at found
                rw [Bool.eq_false_iff, ne_eq, List.contains_iff_mem, Store.Inbox.db, List.mem_map]
                intro ⟨link, member, same⟩
                rw [Store.Link.row, Store.RecipientRow.mk.injEq] at same
                exact found link member (by simp [same])
              rw [absent]
              rfl
          | some recipient =>
              have member := List.mem_of_find?_eq_some found
              have holds := List.find?_some found
              rw [Bool.and_eq_true, beq_iff_eq, beq_iff_eq] at holds
              have row_eq : recipient.row = ⟨emailId, address.id⟩ := by rw [Store.Link.row, holds.1, holds.2]
              have present : inbox.db.recipients.contains ⟨emailId, address.id⟩ = true :=
                List.contains_iff_mem.mpr (List.mem_map.mpr ⟨recipient, member, row_eq⟩)
              -- The pair is as unique as the id.
              have flushed := Store.Inbox.delete_links_db inbox (fun link => link.id == recipient.id)
                (fun link => link == ⟨emailId, address.id⟩) fun link known => by
                  rw [Bool.eq_iff_iff, beq_iff_eq, beq_iff_eq, ← row_eq]
                  constructor
                  · intro same
                    rw [Rows.same_row Link.id inbox.links inbox.linkIds link recipient known member same]
                  · intro same
                    have pair : (link.emailId, link.addressId) = (recipient.emailId, recipient.addressId) := by
                      simpa [Store.Link.row] using same
                    rw [Rows.same_row _ inbox.links inbox.linkPairs link recipient known member pair]
              rw [present]
              simp only [Bool.not_true, Bool.false_eq_true, if_false, Store.Inbox.linked_db, flushed]
              split
              · exact flushed
              · rw [Store.Inbox.delete_emails_db, Store.Inbox.delete_files_db _ (fun file => file.emailId == emailId)
                  (fun file => file.emailId == emailId) (fun _ _ => rfl), flushed]
                rfl

theorem mailbox_isolation (dependencies : Except HTTPException Unit) (token : String) (now : Store.Time)
    (request : TokenRequest) :
    (∀ left right : Inbox, AgreeOn token left right →
      (request.handle python executor dependencies token now left).1 =
        (request.handle python executor dependencies token now right).1) ∧
    ∀ (inbox : Inbox) (other : Uuid), (∀ address, inbox.addressByToken token = some address → other ≠ address.id) →
      (request.handle python executor dependencies token now inbox).2.view other = inbox.view other := by
  constructor
  · intro left right agree
    cases dependencies with
    | error refusal => rfl
    | ok passed =>
        simp only [TokenRequest.handle, getAddressByToken, ← agree.1]
        cases carries : left.addressByToken token with
        | none => rfl
        | some address =>
            cases expired : address.isExpired now with
            | true => simp [expired]
            | false =>
                simp only [expired, Bool.false_eq_true, if_false]
                exact answer_same python executor left right request address now (agree.2 address carries)
  · intro inbox other apart
    cases dependencies with
    | error refusal => rfl
    | ok passed =>
        simp only [TokenRequest.handle, getAddressByToken]
        cases carries : inbox.addressByToken token with
        | none => rfl
        | some address =>
            cases expired : address.isExpired now with
            | true => simp [expired]
            | false =>
                simp only [expired, Bool.false_eq_true, if_false]
                exact answer_frame python executor inbox address other (apart address carries) request now

section Example

def postmark : Mx.EmailData where
  messageID := ""
  subject := "shared"
  fromAddr := "sender@example.com"
  toAddr := "first@a.org"
  rawHeaders := ""
  bodyPlain := ""
  bodyHTML := ""
  rawMessage := [114, 97, 119]
  sizeBytes := 3
  dkimValid := none
  spfResult := none
  dmarcResult := none
  hasAttachments := false
  receivedAt := 0

def firstMailbox : AddressRow := ⟨1, "first@a.org", "token-first", .permanent, 0, none, by decide, by decide⟩
def secondMailbox : AddressRow := ⟨2, "second@a.org", "token-second", .permanent, 0, none, by decide, by decide⟩

def firstLink : Link := ⟨1, 7, 1, false, none⟩
def secondLink : Link := ⟨2, 7, 2, false, none⟩

def ownInbox : Inbox where
  addresses := [firstMailbox]
  emails := [⟨7, postmark⟩]
  links := [firstLink]
  files := []
  addressIds := by decide
  tokens := by decide
  emailIds := by decide
  linkIds := by decide
  linkPairs := by decide
  fileIds := by decide

def sharedInbox : Inbox where
  addresses := [secondMailbox, firstMailbox]
  emails := [⟨7, postmark⟩]
  links := [secondLink, firstLink]
  files := []
  addressIds := by decide
  tokens := by decide
  emailIds := by decide
  linkIds := by decide
  linkPairs := by decide
  fileIds := by decide

def byId : Executor := ⟨id, Function.injective_id, Char.toLower⟩

theorem shared_agrees : AgreeOn "token-first" ownInbox sharedInbox := by
  refine ⟨by decide, fun address carries => ?_⟩
  have same : address = firstMailbox := Option.some.inj (carries.symm.trans (by decide))
  rw [same]
  exact ⟨by decide, by decide, by decide, by decide⟩

theorem shared_delete_isolated :
    ((TokenRequest.deleteEmail 7).handle asciiPython byId (.ok ()) "token-first" 0 ownInbox).1 =
        ((TokenRequest.deleteEmail 7).handle asciiPython byId (.ok ()) "token-first" 0 sharedInbox).1 ∧
      ((TokenRequest.deleteEmail 7).handle asciiPython byId (.ok ()) "token-first" 0 sharedInbox).2.view 2 =
        sharedInbox.view 2 := by
  have isolated := mailbox_isolation asciiPython byId (.ok ()) "token-first" 0 (.deleteEmail 7)
  refine ⟨isolated.1 ownInbox sharedInbox shared_agrees, isolated.2 sharedInbox 2 fun address carries => ?_⟩
  have same : address = firstMailbox := Option.some.inj (carries.symm.trans (by decide))
  rw [same]
  decide

end Example

end Tempmail.Api
