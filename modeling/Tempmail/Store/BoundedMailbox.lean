import Mathlib.Data.List.Perm.Subperm
import Tempmail.Store.EmailLimit
import Tempmail.Store.Lifetimes
import Tempmail.Store.Refinement

set_option autoImplicit false

namespace Tempmail.Store

-- The database, and the goroutines of the mail server that still have to trim a
-- mailbox. missed keeps the deliveries no goroutine will trim after: those whose
-- commit could not be confirmed, and those whose goroutine failed.
structure Trimming where
  db : Db
  pending : List Uuid
  missed : List Uuid

inductive TrimEvent where
  | deliver (delivery : Delivery)
  | enforce (addressId : Uuid) (current : Option Mx.Config) (scan : Scan) (outcome : Mx.CommitOutcome)
  | operate (operation : Operation)

section Steps

variable {IP : Type} (runes : Mx.Runes) (services : Mx.Services IP) (python : Api.Python) (emailStr : String → Bool)

-- StoreEmail starts its goroutine only after a commit it could confirm.
def Trimming.deliver (server : Trimming) (delivery : Delivery) : Trimming :=
  match Mx.storeEmail runes (server.db.calls delivery) (delivery.email runes services) delivery.attachments with
  | (_, none) => server
  | (.ok (), some committed) =>
      { server with
        db := server.db.insertCommitted delivery.emailId committed, pending := server.pending ++ [committed.addressID] }
  | (.error _, some committed) =>
      { server with
        db := server.db.insertCommitted delivery.emailId committed, missed := server.missed ++ [committed.addressID] }

def Trimming.enforce (server : Trimming) (addressId : Uuid) (current : Option Mx.Config) (scan : Scan)
    (outcome : Mx.CommitOutcome) : Trimming :=
  if addressId ∈ server.pending then
    if outcome = .failed then
      { server with pending := server.pending.erase addressId, missed := server.missed ++ [addressId] }
    else
      { db := server.db.enforceEmailLimit addressId current scan.order
        pending := server.pending.erase addressId
        missed := server.missed.filter (fun other => other != addressId) }
  else server

def Trimming.step (server : Trimming) : TrimEvent → Trimming
  | .deliver delivery => server.deliver runes services delivery
  | .enforce addressId current scan outcome => server.enforce addressId current scan outcome
  | .operate operation => { server with db := apply runes services python emailStr server.db operation }

def trimming : Machine Trimming TrimEvent Unit := ⟨fun server event => (server.step runes services python emailStr event, ())⟩

-- Mail comes in through deliver; the limit in force never exceeds maxEmails.
def TrimEvent.Within (maxEmails : Nat) : TrimEvent → Prop
  | .deliver _ => True
  | .enforce _ current _ _ => maxEmailsPerAddress current ≤ maxEmails
  | .operate operation => ∀ delivery, operation ≠ .storeEmail delivery

def Trimming.owed (server : Trimming) (addressId : Uuid) : Nat := server.pending.count addressId + server.missed.count addressId

structure Trimming.Bounded (maxEmails : Nat) (server : Trimming) : Prop where
  consistent : Consistent server.db
  bound : ∀ addressId, (server.db.linksOf addressId).length ≤ maxEmails + server.owed addressId

theorem deliver_db (server : Trimming) (delivery : Delivery) :
    (server.deliver runes services delivery).db = server.db.storeEmail runes services delivery := by
  unfold Trimming.deliver Db.storeEmail
  generalize Mx.storeEmail runes (server.db.calls delivery) (delivery.email runes services) delivery.attachments = answer
  obtain ⟨reply, stored⟩ := answer
  cases stored with
  | none => rfl
  | some committed =>
      cases reply with
      | ok done => rfl
      | error reason => rfl

theorem inserted_links (db : Db) (emailId : Uuid) (committed : Mx.Committed Uuid) (addressId : Uuid) :
    ((db.insertCommitted emailId committed).linksOf addressId).length =
      (db.linksOf addressId).length + [committed.addressID].count addressId := by
  rw [Db.linksOf, Db.insertCommitted, List.filter_append, List.length_append, Db.linksOf]
  congr 1
  by_cases own : committed.addressID = addressId
  · simp [own]
  · simp [own]

theorem deliver_bound (server : Trimming) (delivery : Delivery) (maxEmails : Nat)
    (bound : ∀ addressId, (server.db.linksOf addressId).length ≤ maxEmails + server.owed addressId) (addressId : Uuid) :
    ((server.deliver runes services delivery).db.linksOf addressId).length ≤
      maxEmails + (server.deliver runes services delivery).owed addressId := by
  have before := bound addressId
  unfold Trimming.deliver
  generalize Mx.storeEmail runes (server.db.calls delivery) (delivery.email runes services) delivery.attachments = answer
  obtain ⟨reply, stored⟩ := answer
  cases stored with
  | none => exact before
  | some committed =>
      have added := inserted_links server.db delivery.emailId committed addressId
      cases reply with
      | ok done =>
          simp only [Trimming.owed, List.count_append] at before ⊢
          omega
      | error reason =>
          simp only [Trimming.owed, List.count_append] at before ⊢
          omega

theorem trimmed_links (db : Db) (addressId : Uuid) (current : Option Mx.Config) (scan : Scan) (valid : SchemaValid db) :
    ((db.enforceEmailLimit addressId current scan.order).linksOf addressId).Perm
      ((db.newestFirst addressId scan.order).take (maxEmailsPerAddress current)) ∧
    ∀ other, other ≠ addressId → (db.enforceEmailLimit addressId current scan.order).linksOf other = db.linksOf other := by
  have links := limit_links db addressId (maxEmailsPerAddress current) scan
  rw [enforce_email_limit_triggered]
  constructor
  · rw [Db.linksOf, links]
    exact limit_newest db addressId _ scan valid
  · intro other apart
    rw [Db.linksOf, links]
    exact limit_others db addressId _ scan valid other apart

theorem enforce_bound (server : Trimming) (addressId : Uuid) (current : Option Mx.Config) (scan : Scan)
    (outcome : Mx.CommitOutcome)
    (maxEmails : Nat) (limit : maxEmailsPerAddress current ≤ maxEmails) (valid : SchemaValid server.db)
    (bound : ∀ other, (server.db.linksOf other).length ≤ maxEmails + server.owed other) (other : Uuid) :
    ((server.enforce addressId current scan outcome).db.linksOf other).length ≤
      maxEmails + (server.enforce addressId current scan outcome).owed other := by
  have before := bound other
  unfold Trimming.enforce
  by_cases started : addressId ∈ server.pending
  · rw [if_pos started]
    have some_pending : 0 < server.pending.count addressId := List.count_pos_iff.mpr started
    obtain ⟨newest, others⟩ := trimmed_links server.db addressId current scan valid
    have trimmed : ((server.db.enforceEmailLimit addressId current scan.order).linksOf other).length ≤
        maxEmails + ((server.pending.erase addressId).count other +
          (server.missed.filter (fun kept => kept != addressId)).count other) := by
      by_cases own : other = addressId
      · rw [own, newest.length_eq, List.length_take]
        omega
      · have pending : (server.pending.erase addressId).count other = server.pending.count other :=
          List.count_erase_of_ne own
        have missed : (server.missed.filter (fun kept => kept != addressId)).count other = server.missed.count other :=
          List.count_filter (by simpa using own)
        rw [others other own, pending, missed]
        exact before
    by_cases failed : outcome = .failed
    · rw [if_pos failed]
      simp only [Trimming.owed, List.count_append, List.count_erase] at before ⊢
      by_cases own : addressId = other
      · subst own
        simp only [beq_self_eq_true, if_true, List.count_singleton_self]
        omega
      · simp only [List.count_singleton, beq_iff_eq, own, if_false] at before ⊢
        omega
    · rw [if_neg failed]
      exact trimmed
  · rw [if_neg started]
    exact before

theorem operate_links (db : Db) (operation : Operation) (consistent : Consistent db)
    (quiet : ∀ delivery, operation ≠ .storeEmail delivery) (addressId : Uuid) :
    ((apply runes services python emailStr db operation).linksOf addressId).length ≤ (db.linksOf addressId).length := by
  have distinct : ((apply runes services python emailStr db operation).linksOf addressId).Nodup :=
    (apply_consistent runes services python emailStr db operation consistent).distinct.filter _
  refine (List.Nodup.subperm distinct fun link member => ?_).length_le
  obtain ⟨known, own⟩ := List.mem_filter.mp member
  rcases apply_links runes services python emailStr db operation link known with old | ⟨delivery, kind, -⟩
  · exact List.mem_filter.mpr ⟨old, own⟩
  · exact absurd kind (quiet delivery)

theorem enforce_db (server : Trimming) (addressId : Uuid) (current : Option Mx.Config) (scan : Scan)
    (outcome : Mx.CommitOutcome) :
    (server.enforce addressId current scan outcome).db = server.db ∨
      (server.enforce addressId current scan outcome).db = server.db.enforceEmailLimit addressId current scan.order := by
  unfold Trimming.enforce
  split
  · split
    · exact Or.inl rfl
    · exact Or.inr rfl
  · exact Or.inl rfl

theorem bounded_step (maxEmails : Nat) (server : Trimming) (event : TrimEvent) (within : event.Within maxEmails)
    (bounded : server.Bounded maxEmails) : (server.step runes services python emailStr event).Bounded maxEmails := by
  obtain ⟨consistent, bound⟩ := bounded
  cases event with
  | deliver delivery =>
      refine ⟨?_, deliver_bound runes services server delivery maxEmails bound⟩
      rw [Trimming.step, deliver_db]
      exact store_email_consistent runes services server.db delivery consistent
  | enforce addressId current scan outcome =>
      refine ⟨?_, enforce_bound server addressId current scan outcome maxEmails within (consistent_schema [] _ consistent) bound⟩
      rw [Trimming.step]
      rcases enforce_db server addressId current scan outcome with same | trimmed
      · rw [same]
        exact consistent
      · rw [trimmed]
        exact enforce_email_limit_consistent server.db addressId current scan.order consistent
  | operate operation =>
      refine ⟨apply_consistent runes services python emailStr server.db operation consistent, fun addressId => ?_⟩
      exact Nat.le_trans (operate_links runes services python emailStr server.db operation consistent within addressId)
        (bound addressId)

end Steps

-- What a goroutine that gets through does to the tables: its mailbox keeps as
-- many messages as the limit allows, the newest ones.
structure Trimmed (before after : Db) (addressId : Uuid) (limit : Nat) : Prop where
  size : (after.linksOf addressId).length = min limit (before.linksOf addressId).length
  kept : ∀ link ∈ after.linksOf addressId, link ∈ before.linksOf addressId
  newest : ∀ link ∈ after.linksOf addressId, ∀ gone ∈ before.linksOf addressId, gone ∉ after.linksOf addressId →
    before.received gone ≤ before.received link
  others : ∀ other, other ≠ addressId → after.linksOf other = before.linksOf other

theorem enforced_trimmed (db : Db) (addressId : Uuid) (current : Option Mx.Config) (scan : Scan) (valid : SchemaValid db) :
    Trimmed db (db.enforceEmailLimit addressId current scan.order) addressId (maxEmailsPerAddress current) := by
  obtain ⟨newest, others⟩ := trimmed_links db addressId current scan valid
  obtain ⟨same, sorted⟩ := newest_first_links db addressId scan valid
  have split := List.take_append_drop (maxEmailsPerAddress current) (db.newestFirst addressId scan.order)
  rw [← split, List.pairwise_append] at sorted
  refine ⟨?_, ?_, ?_, others⟩
  · rw [newest.length_eq, List.length_take, same.length_eq]
  · exact fun link member => same.mem_iff.mp (List.mem_of_mem_take (newest.mem_iff.mp member))
  · intro link member gone present absent
    have late : gone ∈ (db.newestFirst addressId scan.order).drop (maxEmailsPerAddress current) := by
      have place := same.mem_iff.mpr present
      rw [← split, List.mem_append] at place
      exact place.resolve_left fun early => absent (newest.mem_iff.mpr early)
    exact sorted.2.2 link (newest.mem_iff.mp member) gone late

-- In every order of deliveries, goroutines and other requests a mailbox exceeds
-- the limit by no more than the deliveries nobody has trimmed after yet.
theorem mailboxes_bounded {IP : Type} (runes : Mx.Runes) (services : Mx.Services IP) (python : Api.Python)
    (emailStr : String → Bool) (maxEmails : Nat) (events : List TrimEvent) (within : ∀ event ∈ events, event.Within maxEmails) :
    (∀ addressId, (((trimming runes services python emailStr).final ⟨{}, [], []⟩ events).db.linksOf addressId).length ≤
        maxEmails + ((trimming runes services python emailStr).final ⟨{}, [], []⟩ events).owed addressId) ∧
      ∀ moment ∈ (trimming runes services python emailStr).trace ⟨{}, [], []⟩ events, ∀ addressId current scan outcome,
        moment.event = .enforce addressId current scan outcome → addressId ∈ moment.before.pending → outcome ≠ .failed →
          Trimmed moment.before.db (moment.before.step runes services python emailStr moment.event).db addressId
            (maxEmailsPerAddress current) := by
  have start : Trimming.Bounded maxEmails ⟨{}, [], []⟩ := ⟨empty_consistent, fun _ => Nat.zero_le _⟩
  obtain ⟨atEnd, during⟩ := Machine.invariant_run (trimming runes services python emailStr) (Trimming.Bounded maxEmails)
    (TrimEvent.Within maxEmails) (bounded_step runes services python emailStr maxEmails) _ events within start
  refine ⟨atEnd.bound, ?_⟩
  intro moment member addressId current scan outcome kind started ran
  have trimmed := enforced_trimmed moment.before.db addressId current scan
    (consistent_schema [] _ (during moment member).consistent)
  rw [kind, Trimming.step, Trimming.enforce, if_pos started, if_neg ran]
  exact trimmed

def oneMessage : Option Mx.Config := some { Mx.openConfig with maxEmailsPerAddress := 1 }

def trimmedOnce : List TrimEvent :=
  aliceMade.map .operate ++ [.deliver greeting, .deliver reminder, .enforce 1 oneMessage asStored .done,
    .enforce 1 oneMessage asStored .done, .operate (.cleanupExpiredAddresses 10)]

theorem trimmed_once_within : ∀ event ∈ trimmedOnce, event.Within 1 := by
  intro event member
  simp only [trimmedOnce, aliceMade, List.map_cons, List.map_nil, List.cons_append, List.nil_append,
    List.mem_cons, List.not_mem_nil,
    or_false] at member
  rcases member with made | first | second | trimmed | again | cleaned
  · rw [made]
    exact fun delivery same => by cases same
  · rw [first]
    exact trivial
  · rw [second]
    exact trivial
  · rw [trimmed]
    exact Nat.le_refl 1
  · rw [again]
    exact Nat.le_refl 1
  · rw [cleaned]
    exact fun delivery same => by cases same

theorem trimmed_once_bounded :
    (∀ addressId, (((trimming Mx.asciiRunes Mx.quietServices Api.asciiPython Api.plainEmailStr).final ⟨{}, [], []⟩
        trimmedOnce).db.linksOf addressId).length ≤
      1 + ((trimming Mx.asciiRunes Mx.quietServices Api.asciiPython Api.plainEmailStr).final ⟨{}, [], []⟩
        trimmedOnce).owed addressId) ∧
      ∀ moment ∈ (trimming Mx.asciiRunes Mx.quietServices Api.asciiPython Api.plainEmailStr).trace ⟨{}, [], []⟩ trimmedOnce,
        ∀ addressId current scan outcome,
        moment.event = .enforce addressId current scan outcome → addressId ∈ moment.before.pending → outcome ≠ .failed →
          Trimmed moment.before.db
            (moment.before.step Mx.asciiRunes Mx.quietServices Api.asciiPython Api.plainEmailStr moment.event).db addressId
            (maxEmailsPerAddress current) :=
  mailboxes_bounded Mx.asciiRunes Mx.quietServices Api.asciiPython Api.plainEmailStr 1 trimmedOnce trimmed_once_within

end Tempmail.Store
