import Tempmail.Lib.Eviction
import Tempmail.Lib.Machine
import Tempmail.Store.EmailLimit
import Tempmail.Store.Keeping
import Tempmail.Store.Mailboxes
import Tempmail.Store.StorageCap

set_option autoImplicit false

namespace Tempmail.Store

-- A message as its reader knows it: it lies in one mailbox, with its files.
structure Letter where
  row : EmailRow
  mailbox : Uuid
  files : List Mx.AttachmentData
deriving DecidableEq

def Letter.link (letter : Letter) : RecipientRow := ⟨letter.row.id, letter.mailbox⟩

def Letter.attachments (letter : Letter) : List AttachmentRow := letter.files.map (fun file => ⟨letter.row.id, file⟩)

-- What the four tables are for: mailboxes and the letters in them.
structure PostOffice where
  mailboxes : List AddressRow
  letters : List Letter
  mailboxIds : (mailboxes.map AddressRow.id).Nodup
  letterIds : (letters.map (fun letter => letter.row.id)).Nodup
  housed : ∀ letter ∈ letters, ∃ row ∈ mailboxes, row.id = letter.mailbox

namespace PostOffice

def empty : PostOffice := ⟨[], [], List.nodup_nil, List.nodup_nil, by simp⟩

def layout (office : PostOffice) : Db where
  addresses := office.mailboxes
  emails := office.letters.map Letter.row
  recipients := office.letters.map Letter.link
  attachments := office.letters.flatMap Letter.attachments

theorem empty_layout : empty.layout = {} := rfl

def stays (office : PostOffice) (closes : AddressRow → Bool) (takes : Letter → Bool) (letter : Letter) : Bool :=
  !takes letter && !(office.mailboxes.filter closes).any (fun row => row.id == letter.mailbox)

def clear (office : PostOffice) (closes : AddressRow → Bool) (takes : Letter → Bool) : PostOffice where
  mailboxes := office.mailboxes.filter (fun row => !closes row)
  letters := office.letters.filter (office.stays closes takes)
  mailboxIds := office.mailboxIds.sublist (List.filter_sublist.map _)
  letterIds := office.letterIds.sublist (List.filter_sublist.map _)
  housed := by
    intro letter member
    obtain ⟨known, kept⟩ := List.mem_filter.mp member
    obtain ⟨row, present, same⟩ := office.housed letter known
    rw [stays, Bool.and_eq_true, Bool.not_eq_true', Bool.not_eq_true', List.any_eq_false] at kept
    refine ⟨row, List.mem_filter.mpr ⟨present, ?_⟩, same⟩
    by_contra closed
    exact kept.2 row (List.mem_filter.mpr ⟨present, by simpa using closed⟩) (by simpa using same)

def Fits (office : PostOffice) (letter : Letter) : Prop :=
  (∀ other ∈ office.letters, other.row.id ≠ letter.row.id) ∧ ∃ row ∈ office.mailboxes, row.id = letter.mailbox

instance (office : PostOffice) (letter : Letter) : Decidable (office.Fits letter) :=
  inferInstanceAs (Decidable ((∀ other ∈ office.letters, other.row.id ≠ letter.row.id) ∧
    ∃ row ∈ office.mailboxes, row.id = letter.mailbox))

def deliver (office : PostOffice) (letter : Letter) : PostOffice :=
  if fits : office.Fits letter then
    { office with
      letters := office.letters ++ [letter]
      letterIds := by
        rw [List.map_append, List.nodup_append]
        refine ⟨office.letterIds, List.nodup_singleton _, ?_⟩
        intro id member other here same
        obtain ⟨known, present, known_id⟩ := List.mem_map.mp member
        rw [List.map_singleton, List.mem_singleton] at here
        exact fits.1 known present (by rw [known_id, same, here])
      housed := by
        intro other member
        rcases List.mem_append.mp member with known | new
        · exact office.housed other known
        · rw [List.mem_singleton.mp new]
          exact fits.2 }
  else office

def Admits (office : PostOffice) (row : AddressRow) : Prop :=
  ∀ other ∈ office.mailboxes, other.id ≠ row.id ∧ other.email ≠ row.email ∧ other.token ≠ row.token

instance (office : PostOffice) (row : AddressRow) : Decidable (office.Admits row) :=
  inferInstanceAs (Decidable (∀ other ∈ office.mailboxes, other.id ≠ row.id ∧ other.email ≠ row.email ∧ other.token ≠ row.token))

def enrol (office : PostOffice) (row : AddressRow) : PostOffice :=
  if admits : office.Admits row then
    { office with
      mailboxes := office.mailboxes ++ [row]
      mailboxIds := by
        rw [List.map_append, List.nodup_append]
        refine ⟨office.mailboxIds, List.nodup_singleton _, ?_⟩
        intro id member other here same
        obtain ⟨known, present, known_id⟩ := List.mem_map.mp member
        rw [List.map_singleton, List.mem_singleton] at here
        exact (admits known present).1 (by rw [known_id, same, here])
      housed := by
        intro letter member
        obtain ⟨known, present, same⟩ := office.housed letter member
        exact ⟨known, List.mem_append_left _ present, same⟩ }
  else office

section Layout

variable (office : PostOffice)

theorem layout_linked (letter : Letter) (member : letter ∈ office.letters) : office.layout.linked letter.row.id = true :=
  (linked_iff _ _).mpr ⟨letter.link, List.mem_map_of_mem member, rfl⟩

theorem layout_delivered : Delivered office.layout := by
  refine ⟨?_, ?_, ?_, ?_⟩
  · simp only [layout, List.map_map]
    exact office.letterIds
  · intro row member
    obtain ⟨letter, known, same⟩ := List.mem_map.mp member
    rw [← same]
    exact layout_linked office letter known
  · intro link member
    obtain ⟨letter, known, same⟩ := List.mem_map.mp member
    exact ⟨letter.row, List.mem_map_of_mem known, by rw [← same, Letter.link]⟩
  · intro file member
    obtain ⟨letter, known, inside⟩ := List.mem_flatMap.mp member
    obtain ⟨data, -, same⟩ := List.mem_map.mp inside
    exact ⟨letter.row, List.mem_map_of_mem known, by rw [← same]⟩

theorem layout_valid : SchemaValid office.layout := by
  obtain ⟨emailIds, -, linkEmail, fileEmail⟩ := layout_delivered office
  refine ⟨emailIds, office.mailboxIds, linkEmail, ?_, ?_, fileEmail⟩
  · intro link member
    obtain ⟨letter, known, same⟩ := List.mem_map.mp member
    obtain ⟨row, present, id⟩ := office.housed letter known
    exact ⟨row, present, by rw [id, ← same, Letter.link]⟩
  · refine List.Nodup.of_map RecipientRow.emailId ?_
    simp only [layout, List.map_map]
    exact office.letterIds

theorem same_letter (first second : Letter) (inFirst : first ∈ office.letters) (inSecond : second ∈ office.letters)
    (same : first.row.id = second.row.id) : first = second :=
  List.inj_on_of_nodup_map office.letterIds inFirst inSecond same

theorem kept_link (keeps : RecipientRow → Bool) (letter : Letter) (member : letter ∈ office.letters) :
    (office.layout.recipients.filter keeps).any (fun link => link.emailId == letter.row.id) = keeps letter.link := by
  cases kept : keeps letter.link with
  | true =>
      exact List.any_eq_true.mpr
        ⟨letter.link, List.mem_filter.mpr ⟨List.mem_map_of_mem member, kept⟩, by simp [Letter.link]⟩
  | false =>
      rw [List.any_eq_false]
      intro link inside same
      obtain ⟨known, spared⟩ := List.mem_filter.mp inside
      obtain ⟨other, present, made⟩ := List.mem_map.mp known
      rw [← made, beq_iff_eq] at same
      rw [← made, same_letter office other letter present member same, kept] at spared
      cases spared

theorem filter_attachments (letters : List Letter) (keeps : Letter → Bool) (kept : Uuid → Bool)
    (agree : ∀ letter ∈ letters, kept letter.row.id = keeps letter) :
    (letters.flatMap Letter.attachments).filter (fun file => kept file.emailId) =
    (letters.filter keeps).flatMap Letter.attachments := by
  induction letters with
  | nil => rfl
  | cons letter rest ih =>
      have later := ih fun other member => agree other (List.mem_cons_of_mem _ member)
      have own : letter.attachments.filter (fun file => kept file.emailId) = if keeps letter then letter.attachments else [] := by
        have same : ∀ file ∈ letter.attachments, kept file.emailId = keeps letter := by
          intro file member
          obtain ⟨data, -, made⟩ := List.mem_map.mp member
          rw [← made]
          exact agree letter List.mem_cons_self
        rw [List.filter_congr same]
        cases keeps letter <;> simp
      rw [List.flatMap_cons, List.filter_append, later, own]
      by_cases spared : keeps letter = true
      · rw [List.filter_cons_of_pos spared, if_pos spared, List.flatMap_cons]
      · rw [List.filter_cons_of_neg spared, if_neg spared, List.nil_append]

theorem clear_layout (closes : AddressRow → Bool) (takes : Letter → Bool) (keeps : RecipientRow → Bool)
    (agree : ∀ letter ∈ office.letters, keeps letter.link = office.stays closes takes letter) :
    office.layout.keeping (fun row => !closes row) keeps = (office.clear closes takes).layout := by
  have kept := kept_link office keeps
  have emails : (office.letters.map Letter.row).filter
      (fun row => (office.layout.recipients.filter keeps).any (fun link => link.emailId == row.id)) =
      (office.letters.filter (office.stays closes takes)).map Letter.row := by
    rw [List.filter_map]
    refine congrArg (List.map Letter.row) (List.filter_congr fun letter member => ?_)
    rw [Function.comp_apply, kept letter member, agree letter member]
  have links : (office.letters.map Letter.link).filter keeps =
      (office.letters.filter (office.stays closes takes)).map Letter.link := by
    rw [List.filter_map]
    exact congrArg (List.map Letter.link) (List.filter_congr agree)
  have files := filter_attachments office.letters (office.stays closes takes)
    (fun emailId => (office.layout.recipients.filter keeps).any (fun link => link.emailId == emailId))
    (fun letter member => by rw [kept letter member, agree letter member])
  exact (Db.mk.injEq ..).mpr ⟨rfl, emails, links, files⟩

theorem clear_none (takes : Letter → Bool) (keeps : RecipientRow → Bool)
    (agree : ∀ letter ∈ office.letters, keeps letter.link = !takes letter) :
    office.layout.keeping (fun _ => true) keeps = (office.clear (fun _ => false) takes).layout := by
  refine clear_layout office (fun _ => false) takes keeps fun letter member => ?_
  rw [agree letter member, stays, List.filter_false, List.any_nil, Bool.not_false, Bool.and_true]

theorem clear_idle (closes : AddressRow → Bool) (takes : Letter → Bool) (staying : ∀ row ∈ office.mailboxes, closes row = false)
    (spared : ∀ letter ∈ office.letters, takes letter = false) : office.clear closes takes = office := by
  have closed : office.mailboxes.filter closes = [] := List.filter_eq_nil_iff.mpr fun row member => by simp [staying row member]
  have mailboxes : office.mailboxes.filter (fun row => !closes row) = office.mailboxes :=
    List.filter_eq_self.mpr fun row member => by simp [staying row member]
  have letters : office.letters.filter (office.stays closes takes) = office.letters :=
    List.filter_eq_self.mpr fun letter member => by simp [stays, spared letter member, closed]
  exact (PostOffice.mk.injEq ..).mpr ⟨mailboxes, letters⟩

end Layout

section Operations

variable {IP : Type} (runes : Mx.Runes) (services : Mx.Services IP) (python : Api.Python) (office : PostOffice)

def isPermanent (addressId : Uuid) : Bool :=
  office.mailboxes.any (fun row => row.id == addressId && row.addressType == .permanent)

def commits (delivery : Delivery) : Bool :=
  delivery.reachable && (List.range delivery.attachments.length).all delivery.insertAttachment && delivery.commit != .failed

def addressee (delivery : Delivery) : Option Uuid :=
  (office.mailboxes.find? (fun row => row.email == runes.lower delivery.recipient && row.active delivery.now)).map AddressRow.id

def letterOf (delivery : Delivery) (mailbox : Uuid) : Letter where
  row := ⟨delivery.emailId, (delivery.email runes services).sanitized⟩
  mailbox := mailbox
  files := delivery.attachments.map Mx.AttachmentData.sanitized

-- A mailbox from its newest letter on; the executor's order decides between equal times.
def newest (addressId : Uuid) (scan : List RecipientRow → List RecipientRow) : List Letter :=
  ((scan ((office.letters.filter (fun letter => letter.mailbox == addressId)).map Letter.link)).filterMap
    (fun link => office.letters.find? (fun letter => letter.link == link))).mergeSort
      (fun a b => b.row.data.receivedAt ≤ a.row.data.receivedAt)

def request (settings : Api.CreationSettings) (dependencies : Except Api.HTTPException Unit) (draws : Api.Draws)
    (faults : Api.Faults) (route : Api.CreationRoute) : Option Api.Creation :=
  if faults.queryFails then none
  else (route.prepare python settings dependencies { addresses := office.mailboxes } draws).toOption

def arrival : Operation → Option Letter
  | .storeEmail delivery =>
      if commits delivery then (office.addressee runes delivery).map (letterOf runes services delivery) else none
  | _ => none

def opening : Operation → Option AddressRow
  | .create settings dependencies draws faults route =>
      (office.request python settings dependencies draws faults route).bind (fun creation =>
        if (creation.existing.isNone || faults.release == .done) && faults.insert != .failed then creation.row draws else none)
  | _ => none

def closes : Operation → AddressRow → Bool
  | .deleteAddress addressId, row => row.id == addressId
  | .cleanupExpiredAddresses now, row => row.expiresAt.any (fun expiresAt => expiresAt < now)
  | .create settings dependencies draws faults route, row =>
      faults.release != .failed &&
        ((office.request python settings dependencies draws faults route).bind Api.Creation.existing).any
          (fun existing => row.id == existing.id)
  | _, _ => false

def takes : Operation → Letter → Bool
  | .enforceEmailLimit addressId current scan, letter =>
      ((office.newest addressId scan).drop (maxEmailsPerAddress current)).contains letter
  | .deleteEmailByToken token emailId now, letter =>
      (office.mailboxes.find? (fun row => row.token == token)).any (fun address =>
        !address.isExpired now && letter.row.id == emailId && letter.mailbox == address.id)
  | .deleteEmail emailId, letter => letter.row.id == emailId
  | .enforceStorageLimit maxStorageMb, letter =>
      decide (0 < maxStorageMb) && !(Eviction.evict emailSize newerFirst (maxStorageMb.toNat * 1024 * 1024)
        (office.letters.map Letter.row)).contains letter.row
  | .cleanupPermanentEmailRetention retentionDays now, letter =>
      decide (0 < retentionDays) && (datetime (now - days retentionDays)).any (fun cutoff =>
        decide (letter.row.data.receivedAt < cutoff) && office.isPermanent letter.mailbox)
  | .purgePermanentEmails addressId, letter => office.isPermanent addressId && letter.mailbox == addressId
  | _, _ => false

def opened (row : Option AddressRow) : PostOffice := row.elim office office.enrol

def received (letter : Option Letter) : PostOffice := letter.elim office office.deliver

def step (operation : Operation) : PostOffice :=
  ((office.clear (office.closes python operation) (office.takes operation)).opened (office.opening python operation)).received
    (office.arrival runes services operation)

def offices : Machine PostOffice Operation Unit := ⟨fun office operation => (office.step runes services python operation, ())⟩

end Operations

end PostOffice

end Tempmail.Store
