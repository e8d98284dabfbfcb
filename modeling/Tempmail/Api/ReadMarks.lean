import Tempmail.Api.TokenRoutes
import Tempmail.Lib.Holding

set_option autoImplicit false

namespace Tempmail.Store.Inbox

def empty : Inbox := ⟨[], [], [], [], List.nodup_nil, List.nodup_nil, List.nodup_nil, List.nodup_nil,
    List.nodup_nil, List.nodup_nil⟩

-- The rows of one stored message; is_read and read_at take their defaults.
def unread (linkId emailId addressId : Uuid) : Link := ⟨linkId, emailId, addressId, false, none⟩

structure Receivable (inbox : Inbox) (row : EmailRow) (linkId : Uuid) (files : List FileRow) : Prop where
  emailId : ∀ other ∈ inbox.emails, other.id ≠ row.id
  linkId : ∀ other ∈ inbox.links, other.id ≠ linkId ∧ other.emailId ≠ row.id
  fileIds : ((inbox.files ++ files).map FileRow.id).Nodup

instance (inbox : Inbox) (row : EmailRow) (linkId : Uuid) (files : List FileRow) :
  Decidable (inbox.Receivable row linkId files) :=
  decidable_of_iff ((∀ other ∈ inbox.emails, other.id ≠ row.id) ∧
    (∀ other ∈ inbox.links, other.id ≠ linkId ∧ other.emailId ≠ row.id) ∧
      ((inbox.files ++ files).map FileRow.id).Nodup)
    ⟨fun all => ⟨all.1, all.2.1, all.2.2⟩, fun fits => ⟨fits.1, fits.2, fits.3⟩⟩

theorem append_fresh {Row Key : Type} (key : Row → Key) (rows : List Row) (row : Row) (unique : (rows.map key).Nodup)
    (fresh : ∀ other ∈ rows, key other ≠ key row) : ((rows ++ [row]).map key).Nodup := by
  rw [List.map_append, List.nodup_append]
  refine ⟨unique, List.nodup_singleton _, ?_⟩
  intro known member other here same
  obtain ⟨present, inside, made⟩ := List.mem_map.mp member
  rw [List.map_singleton, List.mem_singleton] at here
  exact fresh present inside (by rw [made, same, here])

-- The INSERTs of StoreEmail on the columns the token routes read.
def receive (inbox : Inbox) (row : EmailRow) (linkId addressId : Uuid) (files : List FileRow) : Inbox :=
  if fits : inbox.Receivable row linkId files then
    { inbox with
      emails := inbox.emails ++ [row]
      links := inbox.links ++ [unread linkId row.id addressId]
      files := inbox.files ++ files
      emailIds := append_fresh EmailRow.id inbox.emails row inbox.emailIds fits.emailId
      linkIds := append_fresh Link.id inbox.links _ inbox.linkIds fun other member => (fits.linkId other member).1
      linkPairs := append_fresh (fun link => (link.emailId, link.addressId)) inbox.links _ inbox.linkPairs
        fun other member same => (fits.linkId other member).2 (congrArg Prod.fst same)
      fileIds := fits.fileIds }
  else inbox

structure Admissible (inbox : Inbox) (row : AddressRow) : Prop where
  id : ∀ other ∈ inbox.addresses, other.id ≠ row.id
  token : ∀ other ∈ inbox.addresses, other.token ≠ row.token

instance (inbox : Inbox) (row : AddressRow) : Decidable (inbox.Admissible row) :=
  decidable_of_iff ((∀ other ∈ inbox.addresses, other.id ≠ row.id) ∧ ∀ other ∈ inbox.addresses, other.token ≠ row.token)
    ⟨fun all => ⟨all.1, all.2⟩, fun fits => ⟨fits.1, fits.2⟩⟩

def enrol (inbox : Inbox) (row : AddressRow) : Inbox :=
  if fits : inbox.Admissible row then
    { inbox with
      addresses := inbox.addresses ++ [row]
      addressIds := append_fresh AddressRow.id inbox.addresses row inbox.addressIds fits.id
      tokens := append_fresh AddressRow.token inbox.addresses row inbox.tokens fits.token }
  else inbox

def closeAddresses (inbox : Inbox) (kept : AddressRow → Bool) : Inbox :=
  { inbox with
    addresses := inbox.addresses.filter kept
    addressIds := Rows.unique_filter _ inbox.addresses kept inbox.addressIds
    tokens := Rows.unique_filter _ inbox.addresses kept inbox.tokens }

section Links

variable (inbox : Inbox)

theorem fire_links (removed : List Link) : (inbox.fireTriggers removed).links = inbox.links := by
  induction removed generalizing inbox with
  | nil => rfl
  | cons link rest ih =>
      have kept : (inbox.deleteOrphanedEmails link.emailId).links = inbox.links := by
        refine List.filter_eq_self.mpr fun other member => ?_
        rw [Bool.not_eq_true', List.any_eq_false]
        intro row gone same
        have falls := (List.mem_filter.mp gone).2
        rw [Bool.and_eq_true, beq_iff_eq, Bool.not_eq_true'] at falls
        have alone := falls.2
        rw [linked, List.any_eq_false] at alone
        refine alone other member ?_
        rw [beq_iff_eq] at same ⊢
        rw [← same, falls.1]
      rw [fireTriggers, List.foldl_cons, ← fireTriggers, ih, kept]

theorem delete_links_links (doomed : Link → Bool) :
    (inbox.deleteLinks doomed).links = inbox.links.filter (fun link => !doomed link) := fire_links _ _

theorem delete_unlinked_links (emailId : Uuid) (unlinked : inbox.linked emailId = false) :
    ((inbox.deleteFiles (fun file => file.emailId == emailId)).deleteEmails (fun row => row.id == emailId)).links =
      inbox.links := by
  have whole : (inbox.deleteFiles (fun file => file.emailId == emailId)).links = inbox.links := List.filter_true _
  rw [deleteEmails, fire_links]
  refine (List.filter_eq_self.mpr fun link member => ?_).trans whole
  rw [whole] at member
  rw [Bool.not_eq_true', List.any_eq_false]
  intro row gone same
  have falls := (List.mem_filter.mp gone).2
  rw [linked, List.any_eq_false] at unlinked
  refine unlinked link member ?_
  rw [beq_iff_eq] at same falls ⊢
  rw [← same, falls]

end Links

end Tempmail.Store.Inbox

namespace Tempmail.Api

open Store (AddressRow EmailRow FileRow Inbox Link Uuid)

inductive InboxEvent where
  | ask (asked : TokenRequest) (dependencies : Except HTTPException Unit) (token : String) (now : Store.Time)
  | receive (row : EmailRow) (linkId addressId : Uuid) (files : List FileRow)
  | enrol (row : AddressRow)
  | delete (address : AddressRow → Bool) (email : EmailRow → Bool) (link : Link → Bool) (file : FileRow → Bool)

section Steps

variable (python : Python) (executor : Executor)

def InboxEvent.apply (inbox : Inbox) : InboxEvent → Inbox
  | .ask asked dependencies token now => (asked.handle python executor dependencies token now inbox).2
  | .receive row linkId addressId files => inbox.receive row linkId addressId files
  | .enrol row => inbox.enrol row
  | .delete address email link file => (inbox.closeAddresses address).keep email link file

def inboxes : Machine Inbox InboxEvent Unit := ⟨fun inbox event => (event.apply python executor inbox, ())⟩

def Reaches (inbox : Inbox) (dependencies : Except HTTPException Unit) (token : String) (now : Store.Time) (link : Link) : Prop :=
  dependencies = .ok () ∧ ∃ address, getAddressByToken inbox token now = .ok address ∧ link.addressId = address.id

def Opens (inbox : Inbox) (event : InboxEvent) (link : Link) (now : Store.Time) : Prop :=
  link.isRead = false ∧ (∃ row ∈ inbox.emails, row.id = link.emailId) ∧ ∃ dependencies token,
    event = .ask (.getEmail link.emailId true) dependencies token now ∧ Reaches inbox dependencies token now link

def Discards (inbox : Inbox) (event : InboxEvent) (link : Link) : Prop :=
  (∃ dependencies token now, event = .ask (.deleteEmail link.emailId) dependencies token now ∧
    Reaches inbox dependencies token now link) ∨
  ∃ address email kept file, event = .delete address email kept file ∧ kept link = false

def Arrives (inbox : Inbox) (event : InboxEvent) (link : Link) : Prop :=
  ∃ row linkId addressId files, event = .receive row linkId addressId files ∧ inbox.Receivable row linkId files ∧
    link = Store.Inbox.unread linkId row.id addressId

def opened (link : Link) (now : Store.Time) : Link := { link with isRead := true, readAt := some now }

structure LinksStep (inbox after : Inbox) (event : InboxEvent) : Prop where
  links : ∀ link, link ∈ after.links ↔ (Arrives inbox event link ∨ ∃ old ∈ inbox.links, ∃ now, Opens inbox event old now ∧
    link = opened old now) ∨ (link ∈ inbox.links ∧ ¬ ((∃ now, Opens inbox event link now) ∨ Discards inbox event link))

theorem links_same (inbox after : Inbox) (event : InboxEvent) (same : after.links = inbox.links)
    (arrives : ∀ link, ¬ Arrives inbox event link) (opens : ∀ link ∈ inbox.links, ∀ now, ¬ Opens inbox event link now)
    (discards : ∀ link ∈ inbox.links, ¬ Discards inbox event link) : LinksStep inbox after event := by
  refine ⟨fun link => ?_⟩
  rw [same]
  constructor
  · intro member
    refine Or.inr ⟨member, ?_⟩
    rintro (⟨now, opening⟩ | gone)
    · exact opens link member now opening
    · exact discards link member gone
  · rintro ((arriving | ⟨old, member, now, opening, -⟩) | kept)
    · exact absurd arriving (arrives link)
    · exact absurd opening (opens old member now)
    · exact kept.1

theorem same_pair (inbox : Inbox) (a b : Link) (memberA : a ∈ inbox.links) (memberB : b ∈ inbox.links)
    (email : a.emailId = b.emailId) (address : a.addressId = b.addressId) : a = b :=
  Rows.same_row (fun link => (link.emailId, link.addressId)) inbox.links inbox.linkPairs a b memberA memberB
    (Prod.ext email address)

theorem find_link (inbox : Inbox) (addressId emailId : Uuid) (link : Link) :
    inbox.links.find? (fun link => link.emailId == emailId && link.addressId == addressId) = some link ↔
      link ∈ inbox.links ∧ link.emailId = emailId ∧ link.addressId = addressId := by
  constructor
  · intro found
    have holds := List.find?_some found
    rw [Bool.and_eq_true, beq_iff_eq, beq_iff_eq] at holds
    exact ⟨List.mem_of_find?_eq_some found, holds⟩
  · rintro ⟨member, email, address⟩
    obtain ⟨other, found⟩ : ∃ other, inbox.links.find? (fun link => link.emailId == emailId && link.addressId == addressId) =
        some other := by
      rw [← Option.isSome_iff_exists, List.find?_isSome]
      exact ⟨link, member, by simp [email, address]⟩
    have holds := List.find?_some found
    rw [Bool.and_eq_true, beq_iff_eq, beq_iff_eq] at holds
    rw [found, same_pair inbox other link (List.mem_of_find?_eq_some found) member (holds.1.trans email.symm)
      (holds.2.trans address.symm)]

theorem received_iff (inbox : Inbox) (addressId emailId : Uuid) (link : Link) :
    (∃ row, inbox.received addressId emailId = some (row, link)) ↔
      (link ∈ inbox.links ∧ link.emailId = emailId ∧ link.addressId = addressId) ∧ ∃ row ∈ inbox.emails, row.id = emailId := by
  rw [← find_link]
  simp only [Store.Inbox.received, bind, Option.bind_eq_some_iff]
  constructor
  · rintro ⟨row, other, found, held, linked, same⟩
    cases same
    exact ⟨linked, row, List.mem_of_find?_eq_some found, by simpa using List.find?_some found⟩
  · rintro ⟨linked, row, member, same⟩
    obtain ⟨other, found⟩ : ∃ other, inbox.emails.find? (fun row => row.id == emailId) = some other := by
      rw [← Option.isSome_iff_exists, List.find?_isSome]
      exact ⟨row, member, by simpa using same⟩
    exact ⟨other, other, found, link, linked, rfl⟩

theorem mark_links (inbox : Inbox) (old : Link) (member : old ∈ inbox.links) (now : Store.Time) (link : Link) :
    link ∈ (inbox.markRead old.id now).links ↔ link = opened old now ∨ (link ∈ inbox.links ∧ link ≠ old) := by
  have change : ∀ other ∈ inbox.links, other.id = old.id → other = old := fun other known same =>
    Rows.same_row Link.id inbox.links inbox.linkIds other old known member same
  rw [Store.Inbox.markRead, List.mem_map]
  constructor
  · rintro ⟨other, known, made⟩
    by_cases same : other.id = old.id
    · rw [if_pos (by simpa using same), change other known same] at made
      exact Or.inl made.symm
    · rw [if_neg (by simpa using same)] at made
      refine Or.inr ⟨made ▸ known, fun equal => same ?_⟩
      rw [made, equal]
  · rintro (made | ⟨known, apart⟩)
    · refine ⟨old, member, ?_⟩
      rw [if_pos (by simp), made]
      rfl
    · refine ⟨link, known, if_neg ?_⟩
      intro same
      exact apart (change link known (by simpa using same))

theorem opens_iff (inbox : Inbox) (token : String) (now later : Store.Time) (address : AddressRow)
    (accepted : getAddressByToken inbox token now = .ok address) (emailId : Uuid) (markRead : Bool) (link : Link)
    (member : link ∈ inbox.links) :
    Opens inbox (.ask (.getEmail emailId markRead) (.ok ()) token now) link later ↔
      later = now ∧ markRead = true ∧ link.isRead = false ∧ ∃ row, inbox.received address.id emailId = some (row, link) := by
  rw [received_iff]
  constructor
  · rintro ⟨unread, row, dependencies, other, kind, -, holder, found, own⟩
    rw [InboxEvent.ask.injEq, TokenRequest.getEmail.injEq] at kind
    obtain ⟨⟨email, marked⟩, -, sameToken, sameNow⟩ := kind
    rw [← sameToken, ← sameNow, accepted, Except.ok.injEq] at found
    exact ⟨sameNow.symm, marked, unread, ⟨member, email.symm, by rw [own, found]⟩, by rw [email]; exact row⟩
  · rintro ⟨same, marked, unread, ⟨-, email, own⟩, row⟩
    refine ⟨unread, by rw [email]; exact row, .ok (), token, ?_, rfl, address, by rw [same]; exact accepted, own⟩
    rw [same, marked, email]

theorem discards_iff (inbox : Inbox) (token : String) (now : Store.Time) (address : AddressRow)
    (accepted : getAddressByToken inbox token now = .ok address) (emailId : Uuid) (link : Link) :
    Discards inbox (.ask (.deleteEmail emailId) (.ok ()) token now) link ↔ link.emailId = emailId ∧
      link.addressId = address.id := by
  constructor
  · rintro (⟨dependencies, other, later, kind, -, holder, found, own⟩ | ⟨closed, email, kept, file, kind, -⟩)
    · rw [InboxEvent.ask.injEq, TokenRequest.deleteEmail.injEq] at kind
      obtain ⟨email, -, sameToken, sameNow⟩ := kind
      rw [← sameToken, ← sameNow, accepted, Except.ok.injEq] at found
      exact ⟨email.symm, by rw [own, found]⟩
    · cases kind
  · rintro ⟨email, own⟩
    exact Or.inl ⟨.ok (), token, now, by rw [email], rfl, address, accepted, own⟩

theorem never_arrives (inbox : Inbox) (asked : TokenRequest) (dependencies : Except HTTPException Unit) (token : String)
    (now : Store.Time) (link : Link) : ¬ Arrives inbox (.ask asked dependencies token now) link := by
  rintro ⟨row, linkId, addressId, files, kind, -⟩
  cases kind

theorem never_discards (inbox : Inbox) (asked : TokenRequest) (dependencies : Except HTTPException Unit) (token : String)
    (now : Store.Time) (other : ∀ emailId, asked ≠ .deleteEmail emailId) (link : Link) :
    ¬ Discards inbox (.ask asked dependencies token now) link := by
  rintro (⟨passed, holder, later, kind, -⟩ | ⟨closed, email, kept, file, kind, -⟩)
  · rw [InboxEvent.ask.injEq] at kind
    exact other _ kind.1
  · cases kind

theorem never_opens (inbox : Inbox) (asked : TokenRequest) (dependencies : Except HTTPException Unit) (token : String)
    (now : Store.Time) (other : ∀ emailId markRead, asked ≠ .getEmail emailId markRead) (link : Link) (later : Store.Time) :
    ¬ Opens inbox (.ask asked dependencies token now) link later := by
  rintro ⟨-, -, passed, holder, kind, -⟩
  rw [InboxEvent.ask.injEq] at kind
  exact other _ _ kind.1

theorem marked_step (inbox : Inbox) (token : String) (now : Store.Time) (address : AddressRow)
    (accepted : getAddressByToken inbox token now = .ok address) (emailId : Uuid) (row : EmailRow) (old : Link)
    (found : inbox.received address.id emailId = some (row, old)) (unread : old.isRead = false) :
    LinksStep inbox (inbox.markRead old.id now) (.ask (.getEmail emailId true) (.ok ()) token now) := by
  obtain ⟨⟨member, -, -⟩, -⟩ := (received_iff inbox address.id emailId old).mp ⟨row, found⟩
  have discards := never_discards inbox (.getEmail emailId true) (.ok ()) token now (fun _ same => by cases same)
  have arrives := never_arrives inbox (.getEmail emailId true) (.ok ()) token now
  have only : ∀ link ∈ inbox.links, ∀ later,
      Opens inbox (.ask (.getEmail emailId true) (.ok ()) token now) link later ↔ later = now ∧ link = old := by
    intro link known later
    rw [opens_iff inbox token now later address accepted emailId true link known, found]
    constructor
    · rintro ⟨same, -, -, other, equal⟩
      rw [Option.some.injEq, Prod.mk.injEq] at equal
      exact ⟨same, equal.2.symm⟩
    · rintro ⟨same, equal⟩
      exact ⟨same, rfl, by rw [equal]; exact unread, row, by rw [equal]⟩
  refine ⟨fun link => ?_⟩
  rw [mark_links inbox old member now link]
  refine or_congr ⟨fun made => Or.inr ⟨old, member, now, (only old member now).mpr ⟨rfl, rfl⟩, made⟩, ?_⟩
    (and_congr_right fun known => not_congr ⟨fun same => Or.inl ⟨now, (only link known now).mpr ⟨rfl, same⟩⟩, ?_⟩)
  · rintro (arriving | ⟨other, known, later, opening, made⟩)
    · exact absurd arriving (arrives link)
    · obtain ⟨time, same⟩ := (only other known later).mp opening
      rw [made, time, same]
  · rintro (⟨later, opening⟩ | gone)
    · exact ((only link known later).mp opening).2
    · exact absurd gone (discards link)

theorem get_step (inbox : Inbox) (token : String) (now : Store.Time) (address : AddressRow)
    (accepted : getAddressByToken inbox token now = .ok address) (emailId : Uuid) (markRead : Bool) :
    LinksStep inbox (getEmail executor inbox address emailId markRead now).2
      (.ask (.getEmail emailId markRead) (.ok ()) token now) := by
  have opens := fun later link member => opens_iff inbox token now later address accepted emailId markRead link member
  have discards := never_discards inbox (.getEmail emailId markRead) (.ok ()) token now (fun _ same => by cases same)
  have arrives := never_arrives inbox (.getEmail emailId markRead) (.ok ()) token now
  have idle : (∀ link ∈ inbox.links, ¬ (markRead = true ∧ link.isRead = false ∧
      ∃ row, inbox.received address.id emailId = some (row, link))) →
      LinksStep inbox inbox (.ask (.getEmail emailId markRead) (.ok ()) token now) := fun closed =>
    links_same inbox inbox _ rfl arrives
      (fun link member later opening => closed link member ((opens later link member).mp opening).2)
      fun link _ => discards link
  unfold getEmail
  cases found : inbox.received address.id emailId with
  | none =>
      refine idle fun link _ opening => ?_
      obtain ⟨-, -, row, received⟩ := opening
      rw [found] at received
      cases received
  | some pair =>
      obtain ⟨row, old⟩ := pair
      dsimp only
      by_cases marks : (markRead && !old.isRead) = true
      · rw [if_pos marks]
        rw [Bool.and_eq_true, Bool.not_eq_true'] at marks
        rw [marks.1]
        exact marked_step inbox token now address accepted emailId row old found marks.2
      · rw [if_neg marks]
        refine idle fun link _ opening => marks ?_
        obtain ⟨marked, unread, other, same⟩ := opening
        rw [found, Option.some.injEq, Prod.mk.injEq] at same
        rw [same.2, marked, unread]
        rfl

theorem delete_step (inbox : Inbox) (token : String) (now : Store.Time) (address : AddressRow)
    (accepted : getAddressByToken inbox token now = .ok address) (emailId : Uuid) :
    LinksStep inbox (deleteEmail inbox address emailId).2 (.ask (.deleteEmail emailId) (.ok ()) token now) := by
  have discards := discards_iff inbox token now address accepted emailId
  have opens := never_opens inbox (.deleteEmail emailId) (.ok ()) token now (fun _ _ same => by cases same)
  have arrives := never_arrives inbox (.deleteEmail emailId) (.ok ()) token now
  unfold deleteEmail
  cases found : inbox.links.find? (fun link => link.emailId == emailId && link.addressId == address.id) with
  | none =>
      refine links_same inbox inbox _ rfl arrives (fun link _ later => opens link later) fun link member gone => ?_
      have held := (find_link inbox address.id emailId link).mpr ⟨member, (discards link).mp gone⟩
      rw [found] at held
      cases held
  | some recipient =>
      obtain ⟨member, email, own⟩ := (find_link inbox address.id emailId recipient).mp found
      have left : ∀ after : Inbox, after.links = inbox.links.filter (fun link => !link.id == recipient.id) →
          LinksStep inbox after (.ask (.deleteEmail emailId) (.ok ()) token now) := by
        intro after same
        refine ⟨fun link => ?_⟩
        rw [same, List.mem_filter, Bool.not_eq_true', beq_eq_false_iff_ne]
        constructor
        · rintro ⟨known, apart⟩
          refine Or.inr ⟨known, ?_⟩
          rintro (⟨later, opening⟩ | gone)
          · exact opens link later opening
          · obtain ⟨sameEmail, sameAddress⟩ := (discards link).mp gone
            exact apart (congrArg Link.id
              (same_pair inbox link recipient known member (sameEmail.trans email.symm) (sameAddress.trans own.symm)))
        · rintro ((arriving | ⟨old, -, later, opening, -⟩) | ⟨known, kept⟩)
          · exact absurd arriving (arrives link)
          · exact absurd opening (opens old later)
          · refine ⟨known, fun sameId => kept (Or.inr ((discards link).mpr ?_))⟩
            rw [Rows.same_row Link.id inbox.links inbox.linkIds link recipient known member sameId]
            exact ⟨email, own⟩
      have flushed := Store.Inbox.delete_links_links inbox (fun link => link.id == recipient.id)
      dsimp only
      split
      · exact left _ flushed
      · rename_i unlinked
        refine left _ ?_
        rw [Store.Inbox.delete_unlinked_links _ emailId (by simpa using unlinked)]
        exact flushed

theorem ask_step (inbox : Inbox) (asked : TokenRequest) (dependencies : Except HTTPException Unit) (token : String)
    (now : Store.Time) :
    LinksStep inbox (asked.handle python executor dependencies token now inbox).2 (.ask asked dependencies token now) := by
  have arrives := never_arrives inbox asked dependencies token now
  have refused : (∀ link, ¬ Reaches inbox dependencies token now link) →
      LinksStep inbox inbox (.ask asked dependencies token now) := by
    intro closed
    refine links_same inbox inbox _ rfl arrives ?_ ?_
    · rintro link - later ⟨-, -, passed, other, kind, reaches⟩
      cases kind
      exact closed link reaches
    · rintro link - (⟨passed, other, later, kind, reaches⟩ | ⟨address, email, kept, file, kind, -⟩)
      · cases kind
        exact closed link reaches
      · cases kind
  have quiet : (∀ emailId markRead, asked ≠ .getEmail emailId markRead) → (∀ emailId, asked ≠ .deleteEmail emailId) →
      LinksStep inbox inbox (.ask asked dependencies token now) := fun reading deleting =>
    links_same inbox inbox _ rfl arrives (fun link _ later => never_opens inbox asked dependencies token now reading link later)
      fun link _ => never_discards inbox asked dependencies token now deleting link
  unfold TokenRequest.handle
  cases dependencies with
  | error refusal => exact refused fun link reaches => by cases reaches.1
  | ok passed =>
      cases accepted : getAddressByToken inbox token now with
      | error refusal =>
          refine refused fun link reaches => ?_
          obtain ⟨-, address, found, -⟩ := reaches
          rw [accepted] at found
          cases found
      | ok address =>
          cases asked with
          | getEmail emailId markRead => exact get_step executor inbox token now address accepted emailId markRead
          | deleteEmail emailId => exact delete_step inbox token now address accepted emailId
          | _ => exact quiet (fun _ _ same => by cases same) (fun _ same => by cases same)

theorem receive_step (inbox : Inbox) (row : EmailRow) (linkId addressId : Uuid) (files : List FileRow) :
    LinksStep inbox (inbox.receive row linkId addressId files) (.receive row linkId addressId files) := by
  have opens : ∀ link later, ¬ Opens inbox (.receive row linkId addressId files) link later := by
    rintro link later ⟨-, -, dependencies, token, kind, -⟩
    cases kind
  have discards : ∀ link, ¬ Discards inbox (.receive row linkId addressId files) link := by
    rintro link (⟨dependencies, token, now, kind, -⟩ | ⟨address, email, kept, file, kind, -⟩)
    · cases kind
    · cases kind
  have arrives : ∀ link, Arrives inbox (.receive row linkId addressId files) link ↔
      inbox.Receivable row linkId files ∧ link = Store.Inbox.unread linkId row.id addressId := by
    intro link
    constructor
    · rintro ⟨_, _, _, _, kind, fits, made⟩
      cases kind
      exact ⟨fits, made⟩
    · exact fun both => ⟨row, linkId, addressId, files, rfl, both⟩
  by_cases fits : inbox.Receivable row linkId files
  · refine ⟨fun link => ?_⟩
    rw [Store.Inbox.receive, dif_pos fits, List.mem_append, List.mem_singleton, or_comm]
    refine or_congr ⟨fun made => Or.inl ((arrives link).mpr ⟨fits, made⟩), ?_⟩ ⟨fun known => ⟨known, ?_⟩, And.left⟩
    · rintro (arriving | ⟨old, -, later, opening, -⟩)
      · exact ((arrives link).mp arriving).2
      · exact absurd opening (opens old later)
    · rintro (⟨later, opening⟩ | gone)
      · exact opens link later opening
      · exact discards link gone
  · refine links_same inbox _ _ ?_ (fun link arriving => fits ((arrives link).mp arriving).1)
      (fun link _ later => opens link later)
      fun link _ => discards link
    rw [Store.Inbox.receive, dif_neg fits]

theorem enrol_step (inbox : Inbox) (row : AddressRow) : LinksStep inbox (inbox.enrol row) (.enrol row) := by
  refine links_same inbox _ _ ?_ ?_ ?_ ?_
  · unfold Store.Inbox.enrol
    split <;> rfl
  · rintro link ⟨_, _, _, _, kind, -⟩
    cases kind
  · rintro link - later ⟨-, -, dependencies, token, kind, -⟩
    cases kind
  · rintro link - (⟨dependencies, token, now, kind, -⟩ | ⟨address, email, kept, file, kind, -⟩)
    · cases kind
    · cases kind

theorem remove_step (inbox : Inbox) (address : AddressRow → Bool) (email : EmailRow → Bool) (kept : Link → Bool)
    (file : FileRow → Bool) :
    LinksStep inbox ((inbox.closeAddresses address).keep email kept file) (.delete address email kept file) := by
  have discards : ∀ link, Discards inbox (.delete address email kept file) link ↔ kept link = false := by
    intro link
    constructor
    · rintro (⟨dependencies, token, now, kind, -⟩ | ⟨_, _, _, _, kind, falls⟩)
      · cases kind
      · cases kind
        exact falls
    · exact fun falls => Or.inr ⟨address, email, kept, file, rfl, falls⟩
  refine ⟨fun link => ?_⟩
  change link ∈ inbox.links.filter kept ↔ _
  rw [List.mem_filter]
  constructor
  · rintro ⟨known, stays⟩
    refine Or.inr ⟨known, ?_⟩
    rintro (⟨later, -, -, dependencies, token, kind, -⟩ | gone)
    · cases kind
    · rw [(discards link).mp gone] at stays
      cases stays
  · rintro ((⟨_, _, _, _, kind, -⟩ | ⟨old, -, later, ⟨-, -, dependencies, token, kind, -⟩, -⟩) | ⟨known, spared⟩)
    · cases kind
    · cases kind
    · refine ⟨known, ?_⟩
      by_contra falls
      exact spared (Or.inr ((discards link).mpr (by simpa using falls)))

theorem event_step (inbox : Inbox) (event : InboxEvent) : LinksStep inbox (event.apply python executor inbox) event := by
  cases event with
  | ask asked dependencies token now => exact ask_step python executor inbox asked dependencies token now
  | receive row linkId addressId files => exact receive_step inbox row linkId addressId files
  | enrol row => exact enrol_step inbox row
  | delete address email kept file => exact remove_step inbox address email kept file

def linkHolding : Machine.Holding (inboxes python executor) Link where
  holds inbox link := link ∈ inbox.links
  brings inbox event link :=
    Arrives inbox event link ∨ ∃ old ∈ inbox.links, ∃ now, Opens inbox event old now ∧ link = opened old now
  takes inbox event link := (∃ now, Opens inbox event link now) ∨ Discards inbox event link
  step inbox event link := (event_step python executor inbox event).links link

-- Over the events after a moment, nobody opens or discards the link.
def Untouched (inbox : Inbox) (events : List InboxEvent) (link : Link) : Prop :=
  ∀ earlier event later, events = earlier ++ event :: later →
    (∀ now, ¬ Opens ((inboxes python executor).final inbox earlier) event link now) ∧
      ¬ Discards ((inboxes python executor).final inbox earlier) event link

def Undiscarded (inbox : Inbox) (events : List InboxEvent) (link : Link) : Prop :=
  ∀ earlier event later, events = earlier ++ event :: later →
    ¬ Discards ((inboxes python executor).final inbox earlier) event link

theorem spared_unread (inbox : Inbox) (events : List InboxEvent) (link : Link) :
    (linkHolding python executor).Spared inbox events link ↔ Untouched python executor inbox events link := by
  refine forall₄_congr fun earlier event later split => ?_
  change ¬ ((∃ now, Opens _ event link now) ∨ Discards _ event link) ↔ _
  rw [not_or, not_exists]

theorem spared_read (inbox : Inbox) (events : List InboxEvent) (link : Link) (read : link.isRead = true) :
    (linkHolding python executor).Spared inbox events link ↔ Undiscarded python executor inbox events link := by
  refine forall₄_congr fun earlier event later split => not_congr ?_
  change (∃ now, Opens _ event link now) ∨ Discards _ event link ↔ _
  constructor
  · rintro (⟨now, unread, -⟩ | gone)
    · rw [read] at unread
      cases unread
    · exact gone
  · exact Or.inr

end Steps

-- A message is unread from its arrival on, until the holder of its mailbox opens
-- it. The mark and its time are those of that first opening, and stay.
theorem read_marks (python : Python) (executor : Executor) (events : List InboxEvent) (link : Link) :
    (link ∈ ((inboxes python executor).final Store.Inbox.empty events).links ∧ link.isRead = false ↔
      ∃ before event after, events = before ++ event :: after ∧
        Arrives ((inboxes python executor).final Store.Inbox.empty before) event link ∧
        Untouched python executor ((inboxes python executor).final Store.Inbox.empty (before ++ [event])) after link) ∧
    (link ∈ ((inboxes python executor).final Store.Inbox.empty events).links ∧ link.isRead = true ↔
      ∃ before event after old now, events = before ++ event :: after ∧
        old ∈ ((inboxes python executor).final Store.Inbox.empty before).links ∧
        Opens ((inboxes python executor).final Store.Inbox.empty before) event old now ∧ link = opened old now ∧
        Undiscarded python executor ((inboxes python executor).final Store.Inbox.empty (before ++ [event])) after link) := by
  have history := (linkHolding python executor).holds_final_iff Store.Inbox.empty events link
  have start : ¬ (linkHolding python executor).holds Store.Inbox.empty link := fun member => by cases member
  rw [or_iff_right fun both => start both.1] at history
  constructor
  · constructor
    · rintro ⟨member, unread⟩
      obtain ⟨before, event, after, split, brought, spared⟩ := history.mp member
      rcases brought with arrives | ⟨old, -, now, -, made⟩
      · exact ⟨before, event, after, split, arrives, (spared_unread python executor _ after link).mp spared⟩
      · rw [made] at unread
        cases unread
    · rintro ⟨before, event, after, split, arrives, untouched⟩
      refine ⟨history.mpr ⟨before, event, after, split, Or.inl arrives,
        (spared_unread python executor _ after link).mpr untouched⟩, ?_⟩
      obtain ⟨row, linkId, addressId, files, -, -, made⟩ := arrives
      rw [made]
      rfl
  · constructor
    · rintro ⟨member, read⟩
      obtain ⟨before, event, after, split, brought, spared⟩ := history.mp member
      have undiscarded := (spared_read python executor _ after link read).mp spared
      rcases brought with ⟨row, linkId, addressId, files, -, -, made⟩ | ⟨old, known, now, opens, made⟩
      · rw [made] at read
        cases read
      · exact ⟨before, event, after, old, now, split, known, opens, made, undiscarded⟩
    · rintro ⟨before, event, after, old, now, split, known, opens, made, undiscarded⟩
      have read : link.isRead = true := by rw [made]; rfl
      exact ⟨history.mpr ⟨before, event, after, split, Or.inr ⟨old, known, now, opens, made⟩,
        (spared_read python executor _ after link read).mpr undiscarded⟩, read⟩

end Tempmail.Api
