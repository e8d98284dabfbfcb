import Mathlib.Algebra.Order.Group.Int
import Tempmail.Store.Triggers

set_option autoImplicit false

namespace Tempmail.Store

structure Scan where
  order : List RecipientRow → List RecipientRow
  whole : ∀ links, (order links).Perm links

def Db.linksOf (db : Db) (addressId : Uuid) : List RecipientRow := db.recipients.filter (fun link => link.addressId == addressId)

def Db.excess (db : Db) (addressId : Uuid) (maxEmails : Nat) (scan : Scan) : List RecipientRow :=
  (db.newestFirst addressId scan.order).drop maxEmails

-- The condition of the outer DELETE, on the snapshot the whole statement reads.
def Db.outerDelete (db : Db) (addressId : Uuid) (maxEmails : Nat) (scan : Scan) (row : EmailRow) : Bool :=
  let removed := db.recipients.filter (fun link => (db.excess addressId maxEmails scan).contains link)
  removed.any (fun link => link.emailId == row.id) && !db.linked row.id

def Db.limitAffected (db : Db) (addressId : Uuid) (maxEmails : Nat) (scan : Scan) : Nat :=
  db.emails.countP (db.outerDelete addressId maxEmails scan)

def Db.limitAlone (db : Db) (addressId : Uuid) (maxEmails : Nat) (scan : Scan) : Db :=
  (db.dropEmails (db.outerDelete addressId maxEmails scan)).unlink
    (fun link => (db.excess addressId maxEmails scan).contains link)

def Db.limitTriggered (db : Db) (addressId : Uuid) (maxEmails : Nat) (scan : Scan) : Db :=
  (db.dropEmails (db.outerDelete addressId maxEmails scan)).deleteRecipients
    (fun link => (db.excess addressId maxEmails scan).contains link)

theorem enforce_email_limit_triggered (db : Db) (addressId : Uuid) (current : Option Mx.Config) (scan : Scan) :
    db.enforceEmailLimit addressId current scan.order = db.limitTriggered addressId (maxEmailsPerAddress current) scan := rfl

section Newest

variable (db : Db) (addressId : Uuid) (scan : Scan)

def Db.received (link : RecipientRow) : Time :=
  ((db.emails.find? (fun row => row.id == link.emailId)).map (fun row => row.data.receivedAt)).getD 0

theorem joined_links (valid : SchemaValid db) (links : List RecipientRow) (known : ∀ link ∈ links, link ∈ db.recipients) :
    links.filterMap (fun link => (db.emails.find? (fun row => row.id == link.emailId)).map
      (fun row => (link, row.data.receivedAt))) =
      links.map (fun link => (link, db.received link)) := by
  induction links with
  | nil => rfl
  | cons link rest ih =>
      obtain ⟨row, present, same⟩ := valid.linkEmail link (known link (by simp))
      obtain ⟨found, here⟩ : ∃ found, db.emails.find? (fun row => row.id == link.emailId) = some found := by
        rw [← Option.isSome_iff_exists, List.find?_isSome]
        exact ⟨row, present, by simpa using same⟩
      rw [List.filterMap_cons, here, List.map_cons, ← ih (fun other member => known other (by simp [member])), Db.received, here]
      rfl

theorem newest_first_links (valid : SchemaValid db) :
    (db.newestFirst addressId scan.order).Perm (db.linksOf addressId) ∧
      (db.newestFirst addressId scan.order).Pairwise (fun a b => db.received b ≤ db.received a) := by
  have known : ∀ link ∈ scan.order (db.linksOf addressId), link ∈ db.recipients :=
    fun link member => (List.mem_filter.mp ((scan.whole _).mem_iff.mp member)).1
  have joined := joined_links db valid _ known
  let later : RecipientRow × Time → RecipientRow × Time → Bool := fun a b => decide (b.2 ≤ a.2)
  have ordered : (((scan.order (db.linksOf addressId)).map (fun link => (link, db.received link))).mergeSort later).Pairwise
      (fun a b => later a b = true) :=
    List.pairwise_mergeSort (fun a b c => by simpa [later] using fun first second => Int.le_trans second first)
      (fun a b => by simpa [later] using Int.le_total _ _) _
  have same := List.mergeSort_perm ((scan.order (db.linksOf addressId)).map (fun link => (link, db.received link))) later
  have newest : db.newestFirst addressId scan.order =
      (((scan.order (db.linksOf addressId)).map (fun link => (link, db.received link))).mergeSort later).map Prod.fst := by
    rw [← joined]
    rfl
  rw [newest]
  constructor
  · refine ((same.map Prod.fst).trans ?_).trans (scan.whole _)
    rw [List.map_map]
    exact List.Perm.of_eq (List.map_id _)
  · rw [List.pairwise_map]
    refine ordered.imp_of_mem fun {a b} memberA memberB before => ?_
    obtain ⟨linkA, -, isA⟩ := List.mem_map.mp (same.mem_iff.mp memberA)
    obtain ⟨linkB, -, isB⟩ := List.mem_map.mp (same.mem_iff.mp memberB)
    subst isA isB
    simpa [later] using before

end Newest

-- What one call is for: the mailbox keeps its newest messages, nobody else
-- loses a link, and the statement deletes and counts the orphans it makes.
structure LimitKept (addressId : Uuid) (maxEmails : Nat) (before alone after : Db) (affected : Nat) : Prop where
  newest : ∃ order : List RecipientRow, order.Perm (before.linksOf addressId) ∧
    order.Pairwise (fun a b => before.received b ≤ before.received a) ∧ (after.linksOf addressId).Perm (order.take maxEmails)
  others : ∀ other, other ≠ addressId → after.linksOf other = before.linksOf other
  links : alone.recipients = after.recipients
  orphans : ∀ row ∈ before.emails, row ∉ alone.emails ↔ before.linked row.id = true ∧ alone.linked row.id = false
  affected : affected + after.emails.length = before.emails.length

-- No message beyond the newest is the mailbox's alone.
def Db.excessShared (db : Db) (addressId : Uuid) (maxEmails : Nat) (scan : Scan) : Prop :=
  ∀ link ∈ db.excess addressId maxEmails scan, ∃ other ∈ db.recipients, other.emailId = link.emailId ∧ other.addressId ≠ addressId

section Statement

variable (db : Db) (addressId : Uuid) (maxEmails : Nat) (scan : Scan)

-- A message whose link is being removed still has it in the snapshot.
theorem outer_delete_none (row : EmailRow) : db.outerDelete addressId maxEmails scan row = false := by
  rw [Db.outerDelete]
  cases linked : db.linked row.id with
  | true => simp
  | false =>
      rw [Db.linked, List.any_eq_false] at linked
      rw [Bool.not_false, Bool.and_true, List.any_eq_false]
      exact fun link member => linked link (List.mem_filter.mp member).1

theorem limit_alone_eq : db.limitAlone addressId maxEmails scan =
    db.unlink (fun link => (db.excess addressId maxEmails scan).contains link) := by
  rw [Db.limitAlone, drop_none db _ (fun row _ => outer_delete_none db addressId maxEmails scan row)]

theorem limit_triggered_eq : db.limitTriggered addressId maxEmails scan =
    (db.limitAlone addressId maxEmails scan).dropEmails (fun row =>
      mentions (db.recipients.filter (fun link => (db.excess addressId maxEmails scan).contains link)) row.id &&
        !(db.limitAlone addressId maxEmails scan).linked row.id) := by
  rw [limit_alone_eq, Db.limitTriggered, drop_none db _ (fun row _ => outer_delete_none db addressId maxEmails scan row)]
  exact delete_recipients_eq db _

theorem limit_affected_zero : db.limitAffected addressId maxEmails scan = 0 :=
  List.countP_eq_zero.mpr fun row _ => by simp [outer_delete_none db addressId maxEmails scan row]

theorem limit_links : (db.limitTriggered addressId maxEmails scan).recipients =
    (db.limitAlone addressId maxEmails scan).recipients := by
  rw [limit_triggered_eq]
  refine drop_unlinked _ _ fun row _ falls => ?_
  rw [Bool.and_eq_true, Bool.not_eq_true'] at falls
  exact falls.2

theorem excess_link (valid : SchemaValid db) (link : RecipientRow) (member : link ∈ db.excess addressId maxEmails scan) :
    link ∈ db.recipients ∧ link.addressId = addressId := by
  have inside := (newest_first_links db addressId scan valid).1.mem_iff.mp (List.mem_of_mem_drop member)
  obtain ⟨known, own⟩ := List.mem_filter.mp inside
  exact ⟨known, by simpa using own⟩

theorem limit_newest (valid : SchemaValid db) :
    ((db.limitAlone addressId maxEmails scan).linksOf addressId).Perm ((db.newestFirst addressId scan.order).take maxEmails) := by
  obtain ⟨same, -⟩ := newest_first_links db addressId scan valid
  have distinct : (db.newestFirst addressId scan.order).Nodup := same.nodup_iff.mpr (valid.distinct.filter _)
  have split := List.take_append_drop maxEmails (db.newestFirst addressId scan.order)
  rw [← split, List.nodup_append] at distinct
  refine (List.perm_ext_iff_of_nodup ?_ distinct.1).mpr fun link => ?_
  · rw [limit_alone_eq]
    exact (valid.distinct.filter _).filter _
  · have place : link ∈ db.linksOf addressId ↔ link ∈ (db.newestFirst addressId scan.order).take maxEmails ∨
        link ∈ db.excess addressId maxEmails scan := by
      rw [← same.mem_iff, ← List.mem_append, Db.excess, split]
    have kept : link ∈ (db.limitAlone addressId maxEmails scan).linksOf addressId ↔
        link ∈ db.linksOf addressId ∧ link ∉ db.excess addressId maxEmails scan := by
      rw [limit_alone_eq]
      simp only [Db.linksOf, Db.unlink, List.mem_filter, Bool.not_eq_true', List.contains_eq_mem, decide_eq_false_iff_not]
      exact ⟨fun both => ⟨⟨both.1.1, both.2⟩, both.1.2⟩, fun both => ⟨⟨both.1.1, both.2⟩, both.1.2⟩⟩
    rw [kept, place]
    constructor
    · exact fun both => both.1.resolve_right both.2
    · exact fun early => ⟨Or.inl early, fun late => distinct.2.2 link early link late rfl⟩

theorem limit_others (valid : SchemaValid db) (other : Uuid) (apart : other ≠ addressId) :
    (db.limitAlone addressId maxEmails scan).linksOf other = db.linksOf other := by
  rw [limit_alone_eq, Db.linksOf, Db.unlink, List.filter_filter, Db.linksOf]
  refine List.filter_congr fun link _ => ?_
  by_cases own : link.addressId = other
  · have outside : link ∉ db.excess addressId maxEmails scan :=
      fun member => apart (own.symm.trans (excess_link db addressId maxEmails scan valid link member).2)
    simp [own, outside]
  · simp [own]

theorem lost_last_iff (valid : SchemaValid db) :
    (∀ row ∈ db.emails, db.linked row.id = true → (db.limitAlone addressId maxEmails scan).linked row.id = true) ↔
      db.excessShared addressId maxEmails scan := by
  have left : ∀ link, link ∈ (db.limitAlone addressId maxEmails scan).recipients ↔
      link ∈ db.recipients ∧ link ∉ db.excess addressId maxEmails scan := by
    intro link
    rw [limit_alone_eq]
    simp [Db.unlink]
  constructor
  · intro keeps link member
    obtain ⟨known, own⟩ := excess_link db addressId maxEmails scan valid link member
    obtain ⟨row, present, same⟩ := valid.linkEmail link known
    obtain ⟨other, stays, sameEmail⟩ :=
      (linked_iff _ _).mp (keeps row present ((linked_iff db row.id).mpr ⟨link, known, same.symm⟩))
    refine ⟨other, ((left other).mp stays).1, sameEmail.trans same, fun ownOther => ((left other).mp stays).2 ?_⟩
    have equal : other = link := by
      cases other
      cases link
      simp_all
    exact equal ▸ member
  · intro shared row _ linked
    obtain ⟨link, known, same⟩ := (linked_iff db row.id).mp linked
    by_cases gone : link ∈ db.excess addressId maxEmails scan
    · obtain ⟨other, present, sameEmail, apart⟩ := shared link gone
      refine (linked_iff _ _).mpr ⟨other, (left other).mpr ⟨present, fun member => apart ?_⟩, sameEmail.trans same⟩
      exact (excess_link db addressId maxEmails scan valid other member).2
    · exact (linked_iff _ _).mpr ⟨link, (left link).mpr ⟨known, gone⟩, same⟩

end Statement

theorem limit_kept_shared (db : Db) (addressId : Uuid) (maxEmails : Nat) (scan : Scan) (valid : SchemaValid db)
    (kept : LimitKept addressId maxEmails db (db.limitAlone addressId maxEmails scan)
      (db.limitTriggered addressId maxEmails scan) (db.limitAffected addressId maxEmails scan)) :
    db.excessShared addressId maxEmails scan := by
  rw [← lost_last_iff db addressId maxEmails scan valid]
  intro row member linked
  by_contra lost
  refine (kept.orphans row member).mpr ⟨linked, by simpa using lost⟩ ?_
  rw [limit_alone_eq]
  exact member

-- For every state, mailbox, limit and order of the executor.
theorem email_limit_iff (db : Db) (addressId : Uuid) (maxEmails : Nat) (scan : Scan) (valid : SchemaValid db) :
    LimitKept addressId maxEmails db (db.limitAlone addressId maxEmails scan) (db.limitTriggered addressId maxEmails scan)
        (db.limitAffected addressId maxEmails scan) ↔
      db.excessShared addressId maxEmails scan := by
  have emails : (db.limitAlone addressId maxEmails scan).emails = db.emails := by
    rw [limit_alone_eq]
    rfl
  have links := limit_links db addressId maxEmails scan
  have same : ∀ other, (db.limitTriggered addressId maxEmails scan).linksOf other =
      (db.limitAlone addressId maxEmails scan).linksOf other := by
    intro other
    rw [Db.linksOf, links, Db.linksOf]
  constructor
  · exact limit_kept_shared db addressId maxEmails scan valid
  · intro shared
    have keeps := (lost_last_iff db addressId maxEmails scan valid).mpr shared
    obtain ⟨perm, sorted⟩ := newest_first_links db addressId scan valid
    refine ⟨⟨_, perm, sorted, ?_⟩, ?_, links.symm, ?_, ?_⟩
    · rw [same]
      exact limit_newest db addressId maxEmails scan valid
    · intro other apart
      rw [same]
      exact limit_others db addressId maxEmails scan valid other apart
    · intro row member
      rw [emails]
      refine iff_of_false (fun gone => gone member) fun lost => ?_
      rw [keeps row member lost.1] at lost
      cases lost.2
    · rw [limit_affected_zero, Nat.zero_add, limit_triggered_eq, drop_none, emails]
      intro row member
      rw [emails] at member
      cases mentioned : mentions
        (db.recipients.filter (fun link => (db.excess addressId maxEmails scan).contains link)) row.id with
      | false => rfl
      | true =>
          obtain ⟨link, removed, here⟩ := (mentions_iff _ _).mp mentioned
          have linked := (linked_iff db row.id).mpr ⟨link, (List.mem_filter.mp removed).1, here⟩
          rw [keeps row member linked]
          rfl

def asStored : Scan := ⟨id, fun links => List.Perm.refl links⟩

def twoMessages : Db := { addresses := twoMailboxes, emails := [sized 1 0 5, sized 2 7 5], recipients := [⟨1, 10⟩, ⟨2, 10⟩] }

def twoShared : Db := { twoMessages with recipients := [⟨1, 10⟩, ⟨2, 10⟩, ⟨1, 11⟩] }

theorem orphan_left :
    SchemaValid twoMessages ∧ ¬ LimitKept 10 1 twoMessages (twoMessages.limitAlone 10 1 asStored)
      (twoMessages.limitTriggered 10 1 asStored) (twoMessages.limitAffected 10 1 asStored) := by
  have valid : SchemaValid twoMessages := by constructor <;> decide
  refine ⟨valid, fun kept => ?_⟩
  have shared := limit_kept_shared twoMessages 10 1 asStored valid kept
  have many : (twoMessages.excess 10 1 asStored).length = 1 := by
    rw [Db.excess, List.length_drop, (newest_first_links twoMessages 10 asStored valid).1.length_eq]
    rfl
  obtain ⟨link, member⟩ := List.exists_mem_of_length_pos (by rw [many]; exact Nat.one_pos)
  obtain ⟨other, present, -, apart⟩ := shared link member
  have own : ∀ row ∈ twoMessages.recipients, row.addressId = 10 := by decide
  exact apart (own other present)

theorem shared_message_limited :
    LimitKept 10 1 twoShared (twoShared.limitAlone 10 1 asStored) (twoShared.limitTriggered 10 1 asStored)
        (twoShared.limitAffected 10 1 asStored) ↔ twoShared.excessShared 10 1 asStored :=
  email_limit_iff twoShared 10 1 asStored (by constructor <;> decide)

end Tempmail.Store
