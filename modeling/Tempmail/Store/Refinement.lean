import Tempmail.Lib.Holding
import Tempmail.Mx.Guards
import Tempmail.Store.PostOffice
import Tempmail.Store.Retention

set_option autoImplicit false

namespace Tempmail.Store

def Operation.Genuine : Operation → Prop
  | .enforceEmailLimit _ _ scan => ∀ links, (scan links).Perm links
  | _ => True

theorem random_addresses (db : Db) (draws : Api.Draws) (domain : String) (left attempt : Nat) :
    Api.randomEmail db draws domain left attempt = Api.randomEmail { addresses := db.addresses } draws domain left attempt := by
  induction left generalizing attempt with
  | zero => rfl
  | succ left ih =>
      rw [Api.randomEmail, Api.randomEmail, ih]
      rfl

theorem prepare_addresses (python : Api.Python) (settings : Api.CreationSettings) (dependencies : Except Api.HTTPException Unit)
    (db : Db) (draws : Api.Draws) (route : Api.CreationRoute) :
    route.prepare python settings dependencies db draws =
      route.prepare python settings dependencies { addresses := db.addresses } draws := by
  have temporary : ∀ request, Api.prepareAddress python settings db draws request =
      Api.prepareAddress python settings { addresses := db.addresses } draws request := by
    intro request
    unfold Api.prepareAddress
    simp only [random_addresses db draws]
    rfl
  have permanent : ∀ request, Api.preparePermanent python settings db draws request =
      Api.preparePermanent python settings { addresses := db.addresses } draws request := fun _ => rfl
  cases route with
  | createAddress body =>
      unfold Api.CreationRoute.prepare
      simp only [temporary]
  | createPermanentAddressPublic body => simp only [Api.CreationRoute.prepare, permanent]
  | createPermanentAddressApi body xApiKey => simp only [Api.CreationRoute.prepare, permanent]
  | createPermanentAddressAdmin body => simp only [Api.CreationRoute.prepare, permanent]

theorem delete_nothing (db : Db) (delivered : Delivered db) (doomed : EmailRow → Bool)
    (unlinked : ∀ row ∈ db.emails, doomed row = true → db.linked row.id = false) : db.deleteEmails doomed = db := by
  rw [delete_emails_eq db doomed delivered.emailIds]
  refine drop_none db doomed fun row member => ?_
  rw [← Bool.not_eq_true]
  intro falls
  have linked := delivered.linked row member
  rw [unlinked row member falls] at linked
  cases linked

namespace PostOffice

section Letters

variable (office : PostOffice)

theorem find_letter (letter : Letter) (member : letter ∈ office.letters) :
    office.letters.find? (fun other => other.link == letter.link) = some letter := by
  obtain ⟨found, here⟩ : ∃ found, office.letters.find? (fun other => other.link == letter.link) = some found := by
    rw [← Option.isSome_iff_exists, List.find?_isSome]
    exact ⟨letter, member, by simp⟩
  have same := List.find?_some here
  rw [here, same_letter office found letter (List.mem_of_find?_eq_some here) member]
  exact congrArg RecipientRow.emailId (by simpa using same : found.link = letter.link)

theorem find_row (letter : Letter) (member : letter ∈ office.letters) :
    office.layout.emails.find? (fun row => row.id == letter.link.emailId) = some letter.row := by
  obtain ⟨found, here⟩ : ∃ found, office.layout.emails.find? (fun row => row.id == letter.link.emailId) = some found := by
    rw [← Option.isSome_iff_exists, List.find?_isSome]
    exact ⟨letter.row, List.mem_map_of_mem member, by simp [Letter.link]⟩
  have same := List.find?_some here
  obtain ⟨other, known, made⟩ := List.mem_map.mp (List.mem_of_find?_eq_some here)
  rw [← made] at same
  rw [here, ← made, same_letter office other letter known member (by simpa [Letter.link] using same)]

theorem link_letter (links : List RecipientRow) (known : ∀ link ∈ links, link ∈ office.layout.recipients) :
    ∃ letters : List Letter, (∀ letter ∈ letters, letter ∈ office.letters) ∧ letters.map Letter.link = links ∧
      links.filterMap (fun link => office.letters.find? (fun letter => letter.link == link)) = letters := by
  induction links with
  | nil => exact ⟨[], by simp, rfl, rfl⟩
  | cons link rest ih =>
      obtain ⟨letters, inside, same, found⟩ := ih fun other member => known other (List.mem_cons_of_mem _ member)
      obtain ⟨letter, here, made⟩ := List.mem_map.mp (known link List.mem_cons_self)
      refine ⟨letter :: letters, ?_, by rw [List.map_cons, made, same], ?_⟩
      · intro other member
        rcases List.mem_cons.mp member with first | later
        · exact first ▸ here
        · exact inside other later
      · rw [List.filterMap_cons_some (by rw [← made]; exact find_letter office letter here), found]

theorem newest_layout (addressId : Uuid) (scan : List RecipientRow → List RecipientRow)
    (genuine : ∀ links, (scan links).Perm links) :
    office.layout.newestFirst addressId scan = (office.newest addressId scan).map Letter.link := by
  have own : office.layout.recipients.filter (fun link => link.addressId == addressId) =
      (office.letters.filter (fun letter => letter.mailbox == addressId)).map Letter.link := by
    simp only [layout, List.filter_map]
    rfl
  have known : ∀ link ∈ scan ((office.letters.filter (fun letter => letter.mailbox == addressId)).map Letter.link),
      link ∈ office.layout.recipients := by
    intro link member
    rw [← own] at member
    exact (List.mem_filter.mp ((genuine _).mem_iff.mp member)).1
  obtain ⟨letters, inside, links, found⟩ := link_letter office _ known
  have joined : (letters.map Letter.link).filterMap (fun link =>
      (office.layout.emails.find? (fun row => row.id == link.emailId)).map (fun row => (link, row.data.receivedAt))) =
      letters.map (fun letter => (letter.link, letter.row.data.receivedAt)) := by
    rw [List.filterMap_map, ← List.filterMap_eq_map]
    refine List.filterMap_congr fun letter member => ?_
    rw [Function.comp_apply, find_row office letter (inside letter member)]
    rfl
  rw [Db.newestFirst, newest, own, ← links, joined, links, found,
    ← List.map_mergeSort (r := fun a b => decide (b.row.data.receivedAt ≤ a.row.data.receivedAt)) (fun a _ b _ => rfl),
    List.map_map]
  rfl

theorem newest_letters (addressId : Uuid) (scan : List RecipientRow → List RecipientRow) (letter : Letter)
    (member : letter ∈ office.newest addressId scan) : letter ∈ office.letters := by
  obtain ⟨link, -, found⟩ := List.mem_filterMap.mp ((List.mergeSort_perm _ _).mem_iff.mp member)
  exact List.mem_of_find?_eq_some found

theorem idle_layout (takes : Letter → Bool) (spared : ∀ letter ∈ office.letters, takes letter = false) :
    office.layout = (office.clear (fun _ => false) takes).layout := by
  rw [clear_idle office _ takes (fun _ _ => rfl) spared]

theorem link_is (letter : Letter) (emailId addressId : Uuid) :
    (letter.link == ⟨emailId, addressId⟩) = (letter.row.id == emailId && letter.mailbox == addressId) := by
  rw [Bool.eq_iff_iff]
  simp [Letter.link]

theorem permanent_iff (addressId : Uuid) : office.layout.addresses.any (fun row => row.id == addressId &&
    row.addressType == .permanent) = office.isPermanent addressId := rfl

end Letters

section Steps

variable {IP : Type} (runes : Mx.Runes) (services : Mx.Services IP) (python : Api.Python) (emailStr : String → Bool)
variable (office : PostOffice)

theorem limit_step (addressId : Uuid) (current : Option Mx.Config) (scan : List RecipientRow → List RecipientRow)
    (genuine : ∀ links, (scan links).Perm links) :
    office.layout.enforceEmailLimit addressId current scan =
      (office.clear (fun _ => false) (fun letter =>
        ((office.newest addressId scan).drop (maxEmailsPerAddress current)).contains letter)).layout := by
  have order := newest_layout office addressId scan genuine
  have whole := enforce_email_limit_triggered office.layout addressId current ⟨scan, genuine⟩
  dsimp only at whole
  rw [whole, Db.limitTriggered,
    drop_none _ _ (fun row _ => outer_delete_none office.layout addressId _ ⟨scan, genuine⟩ row),
    delete_recipients_keeping _ (layout_delivered office)]
  refine clear_none office _ _ fun letter member => ?_
  rw [Db.excess, order, ← List.map_drop, Bool.eq_iff_iff, Bool.not_eq_true', Bool.not_eq_true', ← Bool.not_eq_true,
    ← Bool.not_eq_true, List.contains_iff_mem, List.contains_iff_mem, not_iff_not]
  constructor
  · intro late
    obtain ⟨other, dropped, same⟩ := List.mem_map.mp late
    have known := newest_letters office addressId scan other (List.mem_of_mem_drop dropped)
    rwa [← same_letter office other letter known member (congrArg RecipientRow.emailId same)]
  · exact fun dropped => List.mem_map_of_mem dropped

theorem token_step (token : String) (emailId : Uuid) (now : Time) :
    office.layout.deleteEmailByToken token emailId now =
      (office.clear (fun _ => false) (fun letter =>
        (office.mailboxes.find? (fun row => row.token == token)).any (fun address =>
          !address.isExpired now && letter.row.id == emailId && letter.mailbox == address.id))).layout := by
  have delivered := layout_delivered office
  unfold Db.deleteEmailByToken
  cases found : office.layout.addresses.find? (fun row => row.token == token) with
  | none =>
      change office.mailboxes.find? _ = none at found
      exact idle_layout office _ fun letter _ => by rw [found]; rfl
  | some address =>
      change office.mailboxes.find? _ = some address at found
      simp only [found, Option.any_some]
      by_cases expired : address.isExpired now = true
      · rw [if_pos expired]
        exact idle_layout office _ fun letter _ => by simp [expired]
      · have alive : address.isExpired now = false := by simpa using expired
        rw [if_neg expired]
        by_cases inside : office.layout.recipients.contains ⟨emailId, address.id⟩ = true
        · have flushed := delete_recipients_keeping office.layout delivered (fun link => link == ⟨emailId, address.id⟩)
          have rest : Delivered (office.layout.deleteRecipients (fun link => link == ⟨emailId, address.id⟩)) := by
            rw [flushed]
            exact keeping_delivered _ _ _ delivered
          have goal : office.layout.deleteRecipients (fun link => link == ⟨emailId, address.id⟩) =
              (office.clear (fun _ => false) (fun letter =>
                !address.isExpired now && letter.row.id == emailId && letter.mailbox == address.id)).layout := by
            rw [flushed]
            refine clear_none office _ _ fun letter _ => ?_
            rw [alive, Bool.not_false, Bool.true_and, link_is]
          simp only [inside, Bool.not_true, Bool.false_eq_true, if_false]
          by_cases shared : (office.layout.deleteRecipients (fun link => link == ⟨emailId, address.id⟩)).linked emailId = true
          · rw [if_pos shared, goal]
          · rw [if_neg shared, delete_unlinked _ rest emailId (by simpa using shared), goal]
        · have outside : office.layout.recipients.contains ⟨emailId, address.id⟩ = false := by simpa using inside
          simp only [outside, Bool.not_false, if_true]
          refine idle_layout office _ fun letter member => ?_
          rw [alive, Bool.not_false, Bool.true_and, ← Bool.not_eq_true, Bool.and_eq_true, beq_iff_eq, beq_iff_eq]
          intro both
          refine inside (List.contains_iff_mem.mpr ?_)
          rw [← both.1, ← both.2]
          exact List.mem_map_of_mem member

theorem email_step (emailId : Uuid) :
    office.layout.deleteEmail emailId = (office.clear (fun _ => false) (fun letter => letter.row.id == emailId)).layout := by
  have delivered := layout_delivered office
  unfold Db.deleteEmail
  by_cases present : office.layout.emails.any (fun row => row.id == emailId) = true
  · have removed := delete_recipients_keeping office.layout delivered (fun link => link.emailId == emailId)
    have rest : Delivered (office.layout.deleteRecipients (fun link => link.emailId == emailId)) := by
      rw [removed]
      exact keeping_delivered _ _ _ delivered
    have unlinked : (office.layout.deleteRecipients (fun link => link.emailId == emailId)).linked emailId = false := by
      rw [Db.linked, List.any_eq_false]
      intro link member same
      rw [(delete_recipients_links _ _ link member).2] at same
      cases same
    simp only [present, Bool.not_true, Bool.false_eq_true, if_false]
    rw [delete_unlinked _ rest emailId unlinked, removed]
    exact clear_none office _ _ fun letter _ => rfl
  · have absent : office.layout.emails.any (fun row => row.id == emailId) = false := by simpa using present
    simp only [absent, Bool.not_false, if_true]
    rw [clear_idle office _ _ (fun _ _ => rfl)]
    intro letter member
    rw [List.any_eq_false] at absent
    simpa using absent letter.row (List.mem_map_of_mem member)

theorem address_step (addressId : Uuid) :
    office.layout.deleteAddress addressId = (office.clear (fun row => row.id == addressId) (fun _ => false)).layout := by
  have delivered := layout_delivered office
  have removed := delete_recipients_keeping office.layout delivered (fun link => link.addressId == addressId)
  have rest : Delivered (office.layout.deleteRecipients (fun link => link.addressId == addressId)) := by
    rw [removed]
    exact keeping_delivered _ _ _ delivered
  rw [Db.deleteAddress, delete_addresses_keeping _ rest, removed, keeping_keeping]
  have addresses : (office.layout.keeping (fun _ => true) (fun link => !link.addressId == addressId)).addresses =
      office.mailboxes := List.filter_true _
  rw [addresses]
  simp only [Bool.true_and]
  refine clear_layout office _ _ _ fun letter member => ?_
  obtain ⟨row, known, same⟩ := office.housed letter member
  rw [stays, Bool.not_false, Bool.true_and]
  cases closed : (office.mailboxes.filter (fun row => row.id == addressId)).any (fun row => row.id == letter.mailbox) with
  | true =>
      rw [Letter.link, closed, Bool.not_true, Bool.and_false]
  | false =>
      rw [Letter.link, closed, Bool.not_false, Bool.and_true, Bool.not_eq_true', ← Bool.not_eq_true]
      intro own
      rw [List.any_eq_false] at closed
      exact closed row (List.mem_filter.mpr ⟨known, by rw [same]; exact own⟩) (by simpa using same)

theorem expired_step (now : Time) :
    office.layout.cleanupExpiredAddresses now =
      (office.clear (fun row => row.expiresAt.any (fun expiresAt => expiresAt < now)) (fun _ => false)).layout := by
  rw [Db.cleanupExpiredAddresses, delete_addresses_keeping _ (layout_delivered office)]
  exact clear_layout office _ _ _ fun letter _ => by rw [stays, Bool.not_false, Bool.true_and]; rfl

theorem storage_step (maxStorageMb : Int) :
    office.layout.enforceStorageLimit maxStorageMb =
      (office.clear (fun _ => false) (fun letter =>
        decide (0 < maxStorageMb) && !(Eviction.evict emailSize newerFirst (maxStorageMb.toNat * 1024 * 1024)
          (office.letters.map Letter.row)).contains letter.row)).layout := by
  have delivered := layout_delivered office
  unfold Db.enforceStorageLimit
  by_cases off : maxStorageMb ≤ 0
  · rw [if_pos off]
    exact idle_layout office _ fun letter _ => by rw [decide_eq_false (by omega), Bool.false_and]
  · rw [if_neg off]
    dsimp only
    by_cases within : office.layout.storageUsage ≤ maxStorageMb.toNat * 1024 * 1024
    · rw [if_pos within]
      refine idle_layout office _ fun letter member => ?_
      rw [storage_usage_weight] at within
      have whole : Eviction.evict emailSize newerFirst (maxStorageMb.toNat * 1024 * 1024) (office.letters.map Letter.row) =
          office.letters.map Letter.row := Eviction.evict_within emailSize newerFirst _ _ within
      rw [whole, List.contains_iff_mem.mpr (List.mem_map_of_mem member), Bool.not_true, Bool.and_false]
    · rw [if_neg within, delete_emails_keeping _ delivered]
      refine clear_none office _ _ fun letter member => ?_
      have here : letter.row ∈ office.layout.emails := List.mem_map_of_mem member
      have doomed := doomed_iff (maxStorageMb.toNat * 1024 * 1024) office.layout.emails delivered.emailIds letter.row here
      have greedy := Eviction.evict_eq emailSize newerFirst newer_first_total newer_first_trans
        (maxStorageMb.toNat * 1024 * 1024) (newestFirst office.layout.emails) office.layout.emails
        (List.mergeSort_perm _ newerFirst) (newest_first_sorted office.layout.emails)
        (List.Nodup.of_map EmailRow.id delivered.emailIds) (newer_first_strict office.layout.emails delivered.emailIds)
      have gone := dropped_id_iff office.layout (fun row => (overLimit (maxStorageMb.toNat * 1024 * 1024) 0
        (office.layout.emails.mergeSort newerFirst)).contains row.id) delivered.emailIds letter.row here
      rw [newestFirst] at doomed
      change (!(office.layout.emails.filter (fun row => (overLimit (maxStorageMb.toNat * 1024 * 1024) 0
        (office.layout.emails.mergeSort newerFirst)).contains row.id)).any (fun row => row.id == letter.row.id)) = _
      have capped : 0 < maxStorageMb := by omega
      rw [gone, doomed, Bool.not_not, decide_eq_true capped, Bool.true_and, Bool.not_not]
      change _ = (Eviction.evict emailSize newerFirst (maxStorageMb.toNat * 1024 * 1024) office.layout.emails).contains letter.row
      rw [greedy, Bool.eq_iff_iff, List.contains_iff_mem, List.mem_filter]
      exact ⟨fun kept => ⟨here, kept⟩, And.right⟩

theorem retention_step (retentionDays : Int) (now : Time) :
    office.layout.cleanupPermanentEmailRetention retentionDays now =
      (office.clear (fun _ => false) (fun letter =>
        decide (0 < retentionDays) && (datetime (now - days retentionDays)).any (fun cutoff =>
          decide (letter.row.data.receivedAt < cutoff) && office.isPermanent letter.mailbox))).layout := by
  have delivered := layout_delivered office
  unfold Db.cleanupPermanentEmailRetention
  by_cases off : retentionDays ≤ 0
  · rw [if_pos off]
    exact idle_layout office _ fun letter _ => by rw [decide_eq_false (by omega), Bool.false_and]
  · rw [if_neg off]
    cases computed : datetime (now - days retentionDays) with
    | none => exact idle_layout office _ fun letter _ => by rw [Option.any_none, Bool.and_false]
    | some cutoff =>
        have removed := delete_recipients_keeping office.layout delivered (office.layout.retired cutoff)
        have rest : Delivered (office.layout.deleteRecipients (office.layout.retired cutoff)) := by
          rw [removed]
          exact keeping_delivered _ _ _ delivered
        change (office.layout.deleteRecipients (office.layout.retired cutoff)).deleteEmails (fun row =>
          row.data.receivedAt < cutoff && !(office.layout.deleteRecipients (office.layout.retired cutoff)).linked row.id) = _
        rw [delete_nothing _ rest _ (fun row _ falls => by
          rw [Bool.and_eq_true, Bool.not_eq_true'] at falls
          exact falls.2), removed]
        refine clear_none office _ _ fun letter member => ?_
        have old : office.layout.emails.any (fun row => row.id == letter.row.id && row.data.receivedAt < cutoff) =
            decide (letter.row.data.receivedAt < cutoff) := by
          rw [Bool.eq_iff_iff, List.any_eq_true, decide_eq_true_eq]
          constructor
          · rintro ⟨row, known, both⟩
            rw [Bool.and_eq_true, beq_iff_eq, decide_eq_true_eq] at both
            obtain ⟨other, present, made⟩ := List.mem_map.mp known
            rw [← made] at both
            rw [← same_letter office other letter present member both.1]
            exact both.2
          · exact fun early => ⟨letter.row, List.mem_map_of_mem member, by simp [early]⟩
        rw [Option.any_some, decide_eq_true (by omega : 0 < retentionDays), Bool.true_and, ← old]
        rfl

theorem purge_step (addressId : Uuid) :
    office.layout.purgePermanentEmails addressId =
      (office.clear (fun _ => false) (fun letter => office.isPermanent addressId && letter.mailbox == addressId)).layout := by
  have delivered := layout_delivered office
  unfold Db.purgePermanentEmails
  rw [permanent_iff]
  by_cases permanent : office.isPermanent addressId = true
  · have removed := delete_recipients_keeping office.layout delivered (fun link => link.addressId == addressId)
    have rest : Delivered (office.layout.deleteRecipients (fun link => link.addressId == addressId)) := by
      rw [removed]
      exact keeping_delivered _ _ _ delivered
    simp only [permanent, Bool.not_true, Bool.false_eq_true, if_false]
    rw [delete_nothing _ rest _ (fun row _ falls => by simpa using falls), removed]
    exact clear_none office _ _ fun letter _ => rfl
  · have other : office.isPermanent addressId = false := by simpa using permanent
    simp only [other, Bool.not_false, if_true]
    rw [clear_idle office _ _ (fun _ _ => rfl)]
    exact fun letter _ => by rw [Bool.false_and]

theorem admits_layout (row : AddressRow) : office.layout.accepts row = true ↔ office.Admits row := accepts_iff office.layout row

theorem insert_step (draws : Api.Draws) (faults : Api.Faults) (creation : Api.Creation) (writes : List Api.AddressWrite) :
    (creation.insert office.layout draws faults writes).db =
      (office.opened (if faults.insert != .failed then creation.row draws else none)).layout := by
  unfold Api.Creation.insert
  cases built : creation.row draws with
  | none => rw [ite_self]; rfl
  | some row =>
      by_cases admits : office.Admits row
      · have accepted := (admits_layout office row).mpr admits
        have admitted : (office.enrol row).layout = office.layout.insertAddress row := by
          rw [enrol, dif_pos admits]
          rfl
        simp only [accepted, Bool.not_true, Bool.false_eq_true, if_false]
        cases faults.insert with
        | done => exact admitted.symm
        | failed => rfl
        | unconfirmed => exact admitted.symm
      · have refused : office.layout.accepts row = false := by
          rw [← Bool.not_eq_true, admits_layout]
          exact admits
        have unchanged : office.enrol row = office := by rw [enrol, dif_neg admits]
        simp only [refused, Bool.not_false, if_true]
        cases faults.insert with
        | done => exact (congrArg layout unchanged).symm
        | failed => rfl
        | unconfirmed => exact (congrArg layout unchanged).symm

section Create

variable (settings : Api.CreationSettings) (dependencies : Except Api.HTTPException Unit)
    (draws : Api.Draws) (faults : Api.Faults)
  (route : Api.CreationRoute)

def created : PostOffice :=
  (office.clear (office.closes python (.create settings dependencies draws faults route)) (fun _ => false)).opened
    (office.opening python (.create settings dependencies draws faults route))

theorem created_open (closing : office.closes python (.create settings dependencies draws faults route) = fun _ => false) :
    office.created python settings dependencies draws faults route =
      office.opened (office.opening python (.create settings dependencies draws faults route)) := by
  have idle : office.clear (fun _ => false) (fun _ => false) = office := clear_idle office _ _ (fun _ _ => rfl) fun _ _ => rfl
  rw [created, closing, idle]

theorem created_idle (none : office.request python settings dependencies draws faults route = none) :
    office.created python settings dependencies draws faults route = office := by
  have closing : office.closes python (.create settings dependencies draws faults route) = fun _ => false := by
    funext row
    simp [closes, none]
  have opens : office.opening python (.create settings dependencies draws faults route) = Option.none := by simp [opening, none]
  rw [created_open python office settings dependencies draws faults route closing, opens]
  rfl

theorem fresh_step (creation : Api.Creation)
    (granted : office.request python settings dependencies draws faults route = some creation)
    (held : creation.existing = none) :
    (creation.perform office.layout draws faults).db =
    (office.created python settings dependencies draws faults route).layout := by
  have closing : office.closes python (.create settings dependencies draws faults route) = fun _ => false := by
    funext row
    simp [closes, granted, held]
  have opens : office.opening python (.create settings dependencies draws faults route) =
      if faults.insert != .failed then creation.row draws else none := by simp [opening, granted, held]
  rw [created_open python office settings dependencies draws faults route closing, opens, Api.Creation.perform, held]
  exact insert_step office draws faults creation []

theorem reused_step (creation : Api.Creation) (existing : AddressRow)
    (granted : office.request python settings dependencies draws faults route = some creation)
    (held : creation.existing = some existing) :
    (creation.perform office.layout draws faults).db =
    (office.created python settings dependencies draws faults route).layout := by
  have closing : faults.release ≠ .failed →
      office.closes python (.create settings dependencies draws faults route) = fun row => row.id == existing.id := by
    intro ran
    funext row
    simp [closes, granted, held, ran]
  have opens : office.opening python (.create settings dependencies draws faults route) =
      if faults.release = .done then (if faults.insert != .failed then creation.row draws else none) else none := by
    cases released : faults.release <;> simp [opening, granted, held, released]
  rw [Api.Creation.perform, held]
  cases released : faults.release with
  | failed =>
      have closing : office.closes python (.create settings dependencies draws faults route) = fun _ => false := by
        funext row
        simp [closes, released]
      rw [created_open python office settings dependencies draws faults route closing, opens, released]
      rfl
  | unconfirmed =>
      rw [created, closing (by simp [released]), opens, released]
      exact address_step office existing.id
  | done =>
      rw [created, closing (by simp [released]), opens, released]
      dsimp only
      rw [address_step office existing.id]
      exact insert_step _ draws faults creation [.deleted existing]

theorem create_step : (route.handle python settings emailStr dependencies office.layout draws faults).db =
    (office.created python settings dependencies draws faults route).layout := by
  have checked : route.prepare python settings dependencies office.layout draws =
      route.prepare python settings dependencies { addresses := office.mailboxes } draws :=
    prepare_addresses python settings dependencies office.layout draws route
  rw [Api.CreationRoute.handle, Api.respond_db, checked]
  unfold Api.perform
  by_cases lost : faults.queryFails = true
  · rw [if_pos lost, created_idle python office settings dependencies draws faults route (by simp [request, lost])]
  · rw [if_neg lost]
    cases prepared : route.prepare python settings dependencies { addresses := office.mailboxes } draws with
    | error refusal =>
        have refused : office.request python settings dependencies draws faults route = none := by
          simp [request, lost, prepared, Except.toOption]
        rw [created_idle python office settings dependencies draws faults route refused]
    | ok creation =>
        have granted : office.request python settings dependencies draws faults route = some creation := by
          simp [request, lost, prepared, Except.toOption]
        dsimp only
        cases held : creation.existing with
        | none => exact fresh_step python office settings dependencies draws faults route creation granted held
        | some existing => exact reused_step python office settings dependencies draws faults route creation existing granted held

end Create

-- When a delivery commits, and what it leaves.
theorem stored_eq (db : Db) (delivery : Delivery) :
    (Mx.storeEmail runes (db.calls delivery) (delivery.email runes services) delivery.attachments).2 =
      if commits delivery = true ∧ ∀ row ∈ db.emails, row.id ≠ delivery.emailId then
        (db.activeAddress delivery.now (runes.lower delivery.recipient)).map (fun addressId =>
          ⟨runes.lower delivery.recipient, addressId, (delivery.email runes services).sanitized,
            delivery.attachments.map Mx.AttachmentData.sanitized⟩)
      else none := by
  have ready : (db.calls delivery).Ready runes (delivery.email runes services).toAddr delivery.attachments.length ↔
      delivery.reachable = true ∧ (∀ row ∈ db.emails, row.id ≠ delivery.emailId) ∧
        (∃ addressId, db.activeAddress delivery.now (runes.lower delivery.recipient) = some addressId) ∧
        ∀ index < delivery.attachments.length, delivery.insertAttachment index = true := by
    simp [Mx.StoreCalls.Ready, Db.calls, Delivery.email]
  rw [Mx.storeEmail]
  cases built : (db.calls delivery).transaction runes (delivery.email runes services) delivery.attachments with
  | error reason =>
      have unready : ¬ (db.calls delivery).Ready runes (delivery.email runes services).toAddr delivery.attachments.length := by
        rw [← Mx.transaction_ok_iff, built]
        simp
      dsimp only
      split
      · rename_i takes
        obtain ⟨⟨⟨reachable, files⟩, -⟩, fresh⟩ : ((delivery.reachable = true ∧
            ∀ index < delivery.attachments.length, delivery.insertAttachment index = true) ∧ _) ∧ _ := by
          simpa [commits] using takes
        cases selected : db.activeAddress delivery.now (runes.lower delivery.recipient) with
        | none => rfl
        | some addressId => exact absurd (ready.mpr ⟨reachable, fresh, ⟨addressId, selected⟩, files⟩) unready
      · rfl
  | ok committed =>
      obtain ⟨reachable, fresh, -, files⟩ := ready.mp ((Mx.transaction_ok_iff runes _ _ _).mp ⟨committed, built⟩)
      obtain ⟨-, selected, whole⟩ := Mx.transaction_built runes _ _ _ committed built
      have found : db.activeAddress delivery.now (runes.lower delivery.recipient) = some committed.addressID :=
        Option.some.inj selected
      have commit : (db.calls delivery).commit = delivery.commit := rfl
      rw [found, Option.map_some, commit]
      cases outcome : delivery.commit with
      | failed => simp [commits, outcome]
      | done =>
          rw [if_pos ⟨by simpa [commits, outcome, reachable] using files, fresh⟩]
          exact congrArg some whole
      | unconfirmed =>
          rw [if_pos ⟨by simpa [commits, outcome, reachable] using files, fresh⟩]
          exact congrArg some whole

theorem store_step (delivery : Delivery) :
    office.layout.storeEmail runes services delivery =
      (office.received (office.arrival runes services (.storeEmail delivery))).layout := by
  rw [Db.storeEmail, stored_eq, arrival]
  have addressee : office.layout.activeAddress delivery.now (runes.lower delivery.recipient) =
    office.addressee runes delivery := rfl
  have ids : (∀ row ∈ office.layout.emails, row.id ≠ delivery.emailId) ↔
      ∀ letter ∈ office.letters, letter.row.id ≠ delivery.emailId := by simp [layout]
  rw [addressee]
  by_cases commit : commits delivery = true
  · cases home : office.addressee runes delivery with
    | none => rw [Option.map_none, ite_self, if_pos commit]; rfl
    | some mailbox =>
        obtain ⟨row, found, same⟩ := Option.map_eq_some_iff.mp home
        rw [if_pos commit, Option.map_some, Option.map_some]
        change _ = (office.deliver (letterOf runes services delivery mailbox)).layout
        by_cases fresh : ∀ letter ∈ office.letters, letter.row.id ≠ delivery.emailId
        · have fits : office.Fits (letterOf runes services delivery mailbox) :=
            ⟨fresh, row, List.mem_of_find?_eq_some found, same⟩
          rw [if_pos ⟨commit, ids.mpr fresh⟩, deliver, dif_pos fits]
          simp only [layout, Db.insertCommitted, List.map_append, List.flatMap_append]
          simp [letterOf, Letter.link, Letter.attachments]
        · have unfit : ¬ office.Fits (letterOf runes services delivery mailbox) := fun fits => fresh fits.1
          rw [if_neg fun both => fresh (ids.mp both.2), deliver, dif_neg unfit]
  · rw [if_neg fun both => commit both.1, if_neg commit]
    rfl

theorem step_layout (operation : Operation) (genuine : operation.Genuine) :
    apply runes services python emailStr office.layout operation = (office.step runes services python operation).layout := by
  have idle : office.clear (fun _ => false) (fun _ => false) = office := clear_idle office _ _ (fun _ _ => rfl) fun _ _ => rfl
  cases operation with
  | storeEmail delivery =>
      rw [apply, store_step, step]
      exact congrArg (fun cleared => (cleared.received (office.arrival runes services (.storeEmail delivery))).layout) idle.symm
  | enforceEmailLimit addressId current scan => exact limit_step office addressId current scan genuine
  | deleteEmailByToken token emailId now => exact token_step office token emailId now
  | deleteEmail emailId => exact email_step office emailId
  | deleteAddress addressId => exact address_step office addressId
  | cleanupExpiredAddresses now => exact expired_step office now
  | enforceStorageLimit maxStorageMb => exact storage_step office maxStorageMb
  | cleanupPermanentEmailRetention retentionDays now => exact retention_step office retentionDays now
  | purgePermanentEmails addressId => exact purge_step office addressId
  | create settings dependencies draws faults route =>
      exact create_step python emailStr office settings dependencies draws faults route

theorem run_layout (operations : List Operation) (genuine : ∀ operation ∈ operations, operation.Genuine) :
    (Store.mailboxes runes services python emailStr).final office.layout operations =
      ((offices runes services python).final office operations).layout :=
  Machine.refines_run (Store.mailboxes runes services python emailStr) (offices runes services python) layout Operation.Genuine
    (fun office operation => step_layout runes services python emailStr office operation) office operations genuine

end Steps

end PostOffice

open PostOffice in
-- From any mailboxes and letters, the four tables with their cascades, triggers
-- and orphan rules do to them what the operations are for.
theorem tables_refine {IP : Type} (runes : Mx.Runes) (services : Mx.Services IP) (python : Api.Python) (emailStr : String → Bool)
    (office : PostOffice) (operations : List Operation) (genuine : ∀ operation ∈ operations, operation.Genuine) :
    (mailboxes runes services python emailStr).final office.layout operations =
        ((offices runes services python).final office operations).layout ∧
      ∀ db, db = (mailboxes runes services python emailStr).final office.layout operations →
        SchemaValid db ∧ db.recipients.map RecipientRow.emailId = db.emails.map EmailRow.id := by
  have laid := run_layout runes services python emailStr office operations genuine
  refine ⟨laid, fun db reached => ?_⟩
  rw [reached, laid]
  refine ⟨layout_valid _, ?_⟩
  rw [layout, List.map_map, List.map_map]
  rfl

def aliceMade : List Operation :=
  [.create Api.sampleSettings (.ok ()) Api.sampleDraws {} (.createAddress ⟨some "alice", none⟩)]

def greeting : Delivery where
  session := Mx.openSession
  envelope := ⟨fun _ => "", [], "hello", "", [], []⟩
  rawMessage := [0x68, 0x69]
  receivedAt := 5
  recipient := "Alice@example.com"
  emailId := 7
  now := 5
  reachable := true
  insertAttachment _ := true
  commit := .done

def reminder : Delivery := { greeting with emailId := 8, receivedAt := 6, now := 6 }

def shortRun : List Operation :=
  aliceMade ++ [.storeEmail greeting, .storeEmail reminder, .enforceEmailLimit 1 none List.reverse, .deleteEmail 7,
    .cleanupExpiredAddresses 10]

theorem short_run_genuine : ∀ operation ∈ shortRun, operation.Genuine := by
  intro operation member
  simp only [shortRun, aliceMade, List.cons_append, List.nil_append, List.mem_cons, List.not_mem_nil, or_false] at member
  rcases member with made | first | second | limited | deleted | cleaned
  · rw [made]
    exact trivial
  · rw [first]
    exact trivial
  · rw [second]
    exact trivial
  · rw [limited]
    exact List.reverse_perm
  · rw [deleted]
    exact trivial
  · rw [cleaned]
    exact trivial

theorem short_run_refined :
    (mailboxes Mx.asciiRunes Mx.quietServices Api.asciiPython Api.plainEmailStr).final PostOffice.empty.layout shortRun =
        ((PostOffice.offices Mx.asciiRunes Mx.quietServices Api.asciiPython).final PostOffice.empty shortRun).layout ∧
      ∀ db, db = (mailboxes Mx.asciiRunes Mx.quietServices Api.asciiPython Api.plainEmailStr).final
          PostOffice.empty.layout shortRun →
        SchemaValid db ∧ db.recipients.map RecipientRow.emailId = db.emails.map EmailRow.id :=
  tables_refine Mx.asciiRunes Mx.quietServices Api.asciiPython Api.plainEmailStr PostOffice.empty shortRun short_run_genuine

end Tempmail.Store
