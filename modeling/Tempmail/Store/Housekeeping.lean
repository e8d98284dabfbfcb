import Tempmail.Store.Refinement

set_option autoImplicit false

namespace Tempmail.Store

structure Round where
  databaseNow : Time
  maxStorageMb : Int
  retentionDays : Int
  now : Time
  expired : Mx.CommitOutcome := .done
  storage : Mx.CommitOutcome := .done
  retention : Mx.CommitOutcome := .done

-- A job has a session of its own; an exception is logged, rolled back and
-- answered with 0.
def finished (outcome : Mx.CommitOutcome) (db : Db) (job : Nat × Db) : Nat × Db :=
  match outcome with
  | .done => job
  | .failed => (0, db)
  | .unconfirmed => (0, job.2)

def AddressRow.expiredBefore (row : AddressRow) (now : Time) : Bool := row.expiresAt.any (fun expiresAt => expiresAt < now)

def Db.expiredCleanup (db : Db) (now : Time) : Nat × Db :=
  (db.addresses.countP (fun row => row.expiredBefore now), db.cleanupExpiredAddresses now)

structure CleanupResult where
  deletedAddresses : Nat
  deletedEmails : Nat
  retentionDeletedEmails : Nat
  storageBytesBefore : Nat
  storageBytesAfter : Nat
deriving DecidableEq, Repr

-- run_cleanup_now; run_cleanup_loop runs the same three jobs in this order.
def Db.runCleanupNow (db : Db) (round : Round) : CleanupResult × Db :=
  let addresses := finished round.expired db (db.expiredCleanup round.databaseNow)
  let emails := finished round.storage addresses.2 (addresses.2.storageCleanup round.maxStorageMb)
  let retention := finished round.retention emails.2 (emails.2.retentionCleanup round.retentionDays round.now)
  (⟨addresses.1, emails.1, retention.1, db.storageUsage, retention.2.storageUsage⟩, retention.2)

theorem finished_db (outcome : Mx.CommitOutcome) (db : Db) (job : Nat × Db) :
    (finished outcome db job).2 = if outcome = .failed then db else job.2 := by
  cases outcome <;> rfl

theorem finished_zero (outcome : Mx.CommitOutcome) (db : Db) (job : Nat × Db) (idle : job = (0, db)) :
    finished outcome db job = (0, db) := by
  rw [idle]
  cases outcome <;> rfl

namespace PostOffice

variable (office : PostOffice) (round : Round)

def living : PostOffice :=
  if round.expired = .failed then office else office.clear (fun row => row.expiredBefore round.databaseNow) (fun _ => false)

def overCap (letter : Letter) : Bool :=
  decide (0 < round.maxStorageMb) && !(Eviction.evict emailSize newerFirst (round.maxStorageMb.toNat * 1024 * 1024)
    (office.letters.map Letter.row)).contains letter.row

def fitted : PostOffice := if round.storage = .failed then office else office.clear (fun _ => false) (office.overCap round)

def outdated (letter : Letter) : Bool :=
  decide (0 < round.retentionDays) && (datetime (round.now - days round.retentionDays)).any (fun cutoff =>
    decide (letter.row.data.receivedAt < cutoff) && office.isPermanent letter.mailbox)

def retained : PostOffice := if round.retention = .failed then office else office.clear (fun _ => false) (office.outdated round)

def afterRound : PostOffice := ((office.living round).fitted round).retained round

theorem living_layout : (finished round.expired office.layout (office.layout.expiredCleanup round.databaseNow)).2 =
    (office.living round).layout := by
  rw [finished_db, living]
  by_cases failed : round.expired = .failed
  · rw [if_pos failed, if_pos failed]
  · rw [if_neg failed, if_neg failed]
    exact expired_step office round.databaseNow

theorem fitted_layout : (finished round.storage office.layout (office.layout.storageCleanup round.maxStorageMb)).2 =
    (office.fitted round).layout := by
  rw [finished_db, fitted]
  by_cases failed : round.storage = .failed
  · rw [if_pos failed, if_pos failed]
  · rw [if_neg failed, if_neg failed, storage_cleanup_db]
    exact storage_step office round.maxStorageMb

theorem retained_layout :
    (finished round.retention office.layout (office.layout.retentionCleanup round.retentionDays round.now)).2 =
    (office.retained round).layout := by
  rw [finished_db, retained]
  by_cases failed : round.retention = .failed
  · rw [if_pos failed, if_pos failed]
  · rw [if_neg failed, if_neg failed, retention_cleanup_db]
    exact retention_step office round.retentionDays round.now

theorem after_round_layout : (office.layout.runCleanupNow round).2 = (office.afterRound round).layout := by
  rw [Db.runCleanupNow]
  dsimp only
  rw [living_layout, fitted_layout, retained_layout, afterRound]

theorem fitted_mailboxes : (office.fitted round).mailboxes = office.mailboxes := by
  unfold fitted
  split
  · rfl
  · exact List.filter_true _

theorem retained_mailboxes : (office.retained round).mailboxes = office.mailboxes := by
  unfold retained
  split
  · rfl
  · exact List.filter_true _

theorem after_round_mailboxes : (office.afterRound round).mailboxes = (office.living round).mailboxes := by
  rw [afterRound, retained_mailboxes, fitted_mailboxes]

theorem living_unexpired (ran : round.expired ≠ .failed) (row : AddressRow) (member : row ∈ (office.living round).mailboxes) :
    row.expiredBefore round.databaseNow = false := by
  rw [living, if_neg ran] at member
  simpa using (List.mem_filter.mp member).2

theorem stays_open (takes : Letter → Bool) (letter : Letter) : office.stays (fun _ => false) takes letter = !takes letter := by
  rw [stays, List.filter_false, List.any_nil, Bool.not_false, Bool.and_true]

theorem fitted_letters : (office.fitted round).letters =
    office.letters.filter (fun letter => round.storage == .failed || !office.overCap round letter) := by
  unfold fitted
  by_cases failed : round.storage = .failed
  · rw [if_pos failed, failed]
    exact (List.filter_true _).symm
  · rw [if_neg failed, clear]
    refine List.filter_congr fun letter _ => ?_
    rw [stays_open, beq_eq_false_iff_ne.mpr failed, Bool.false_or]

theorem retained_letters : (office.retained round).letters =
    office.letters.filter (fun letter => round.retention == .failed || !office.outdated round letter) := by
  unfold retained
  by_cases failed : round.retention = .failed
  · rw [if_pos failed, failed]
    exact (List.filter_true _).symm
  · rw [if_neg failed, clear]
    refine List.filter_congr fun letter _ => ?_
    rw [stays_open, beq_eq_false_iff_ne.mpr failed, Bool.false_or]

theorem usage_weight : office.layout.storageUsage = Eviction.weight emailSize (office.letters.map Letter.row) :=
  storage_usage_weight office.layout

theorem storage_cleanup_within (capped : 0 < round.maxStorageMb) :
    (office.layout.storageCleanup round.maxStorageMb).2.storageUsage ≤ round.maxStorageMb.toNat * 1024 * 1024 := by
  have ids := (layout_delivered office).emailIds
  have kept := enforce_storage_emails office.layout (round.maxStorageMb.toNat * 1024 * 1024) ids
  have same := fitting_perm (round.maxStorageMb.toNat * 1024 * 1024) office.layout.emails ids
  rw [Db.storageCleanup, if_neg (by omega), storage_usage_weight, kept, ← Eviction.weight_perm emailSize _ _ same]
  exact Eviction.longest_fits emailSize _ _

theorem fitted_within (ran : round.storage ≠ .failed) (capped : 0 < round.maxStorageMb) :
    (office.fitted round).layout.storageUsage ≤ round.maxStorageMb.toNat * 1024 * 1024 := by
  rw [← fitted_layout, finished_db, if_neg ran]
  exact storage_cleanup_within office round capped

theorem retained_usage : (office.retained round).layout.storageUsage ≤ office.layout.storageUsage := by
  rw [usage_weight, usage_weight, retained_letters]
  exact Eviction.weight_sublist emailSize _ _ (List.filter_sublist.map _)

theorem after_round_within (ran : round.storage ≠ .failed) (capped : 0 < round.maxStorageMb) :
    (office.afterRound round).layout.storageUsage ≤ round.maxStorageMb.toNat * 1024 * 1024 :=
  Nat.le_trans (retained_usage _ round) (fitted_within _ round ran capped)

theorem permanent_congr (other : PostOffice) (same : office.mailboxes = other.mailboxes) :
    office.isPermanent = other.isPermanent := by
  funext addressId
  rw [isPermanent, isPermanent, same]

theorem after_round_letters : (office.afterRound round).letters = (office.living round).letters.filter (fun letter =>
    (round.storage == .failed || !(office.living round).overCap round letter) &&
      (round.retention == .failed || !(office.living round).outdated round letter)) := by
  have mailboxes := permanent_congr _ _ (fitted_mailboxes (office.living round) round)
  rw [afterRound, retained_letters, fitted_letters, List.filter_filter]
  refine List.filter_congr fun letter _ => ?_
  rw [Bool.and_comm, outdated, outdated, mailboxes]

theorem after_round_recent (ran : round.retention ≠ .failed) (active : 0 < round.retentionDays) (cutoff : Time)
    (computed : datetime (round.now - days round.retentionDays) = some cutoff) (letter : Letter)
    (member : letter ∈ (office.afterRound round).letters)
    (permanent : (office.afterRound round).isPermanent letter.mailbox = true) :
    cutoff ≤ letter.row.data.receivedAt := by
  rw [after_round_letters] at member
  have kept := (List.mem_filter.mp member).2
  rw [Bool.and_eq_true, beq_eq_false_iff_ne.mpr ran, Bool.false_or, outdated, decide_eq_true active, Bool.true_and, computed,
    Option.any_some] at kept
  rw [permanent_congr _ _ (after_round_mailboxes office round)] at permanent
  rw [permanent, Bool.and_true, Bool.not_eq_true', decide_eq_false_iff_not] at kept
  exact Int.not_lt.mp kept.2

theorem living_mailboxes : (office.living round).mailboxes =
    office.mailboxes.filter (fun row => round.expired == .failed || !row.expiredBefore round.databaseNow) := by
  unfold living
  by_cases failed : round.expired = .failed
  · rw [if_pos failed, failed]
    exact (List.filter_true _).symm
  · rw [if_neg failed, clear]
    refine List.filter_congr fun row _ => ?_
    rw [beq_eq_false_iff_ne.mpr failed, Bool.false_or]

theorem living_letters (letter : Letter) : letter ∈ (office.living round).letters ↔
    letter ∈ office.letters ∧ ∃ row ∈ (office.living round).mailboxes, row.id = letter.mailbox := by
  constructor
  · intro member
    refine ⟨?_, (office.living round).housed letter member⟩
    unfold living at member
    split at member
    · exact member
    · exact (List.mem_filter.mp member).1
  · rintro ⟨member, row, open_, same⟩
    rw [living_mailboxes, List.mem_filter, Bool.or_eq_true, beq_iff_eq, Bool.not_eq_true'] at open_
    unfold living
    split
    · exact member
    · rename_i ran
      refine List.mem_filter.mpr ⟨member, ?_⟩
      rw [stays, Bool.not_false, Bool.true_and, Bool.not_eq_true', List.any_eq_false]
      intro other closed own
      obtain ⟨known, expired⟩ := List.mem_filter.mp closed
      have equal : other = row :=
        List.inj_on_of_nodup_map office.mailboxIds known open_.1 (by rw [same]; simpa using own)
      rw [equal, open_.2.resolve_left ran] at expired
      cases expired

theorem layout_counts : office.layout.emails.length = office.letters.length ∧
    office.layout.recipients.length = office.letters.length :=
  ⟨List.length_map _, List.length_map _⟩

theorem deleted_emails (done : round.storage = .done) :
    (office.layout.runCleanupNow round).1.deletedEmails + ((office.living round).fitted round).letters.length =
      (office.living round).letters.length := by
  have ids := (layout_delivered (office.living round)).emailIds
  have left := fitted_layout (office.living round) round
  rw [Db.runCleanupNow]
  dsimp only
  rw [living_layout, ← (layout_counts ((office.living round).fitted round)).1, ← left, done,
    ← (layout_counts (office.living round)).1]
  change ((office.living round).layout.storageCleanup round.maxStorageMb).1 +
    ((office.living round).layout.storageCleanup round.maxStorageMb).2.emails.length = _
  rw [Db.storageCleanup]
  split
  · exact Nat.zero_add _
  · exact enforce_storage_count _ _ ids

theorem deleted_messages (done : round.retention = .done) :
    (office.layout.runCleanupNow round).1.retentionDeletedEmails + (office.afterRound round).letters.length =
      ((office.living round).fitted round).letters.length := by
  have valid := layout_valid ((office.living round).fitted round)
  have left := retained_layout ((office.living round).fitted round) round
  rw [Db.runCleanupNow]
  dsimp only
  rw [living_layout, fitted_layout, afterRound, ← (layout_counts (((office.living round).fitted round).retained round)).2, ← left,
    done, ← (layout_counts ((office.living round).fitted round)).2]
  change (((office.living round).fitted round).layout.retentionCleanup round.retentionDays round.now).1 +
    (((office.living round).fitted round).layout.retentionCleanup round.retentionDays round.now).2.recipients.length = _
  rw [Db.retentionCleanup]
  split
  · exact Nat.zero_add _
  · split
    · exact Nat.zero_add _
    · rename_i cutoff _
      exact (retention_done _ cutoff valid).counted

theorem expired_counted (done : round.expired = .done) : (office.layout.runCleanupNow round).1.deletedAddresses =
    office.mailboxes.countP (fun row => row.expiredBefore round.databaseNow) := by
  rw [Db.runCleanupNow, done]
  rfl

theorem storage_counted (done : round.storage = .done) : (office.layout.runCleanupNow round).1.deletedEmails =
    (office.living round).letters.countP ((office.living round).overCap round) := by
  have counted := deleted_emails office round done
  have left : ((office.living round).fitted round).letters =
      (office.living round).letters.filter (fun letter => !(office.living round).overCap round letter) := by
    rw [fitted_letters, done]
    rfl
  rw [left] at counted
  have parts := List.length_eq_length_filter_add (l := (office.living round).letters) ((office.living round).overCap round)
  rw [List.countP_eq_length_filter]
  omega

theorem retention_counted (done : round.retention = .done) : (office.layout.runCleanupNow round).1.retentionDeletedEmails =
    ((office.living round).fitted round).letters.countP ((office.living round).outdated round) := by
  have counted := deleted_messages office round done
  have mailboxes := permanent_congr _ _ (fitted_mailboxes (office.living round) round)
  have left : (office.afterRound round).letters =
      ((office.living round).fitted round).letters.filter (fun letter => !(office.living round).outdated round letter) := by
    rw [afterRound, retained_letters, done]
    refine List.filter_congr fun letter _ => ?_
    rw [outdated, outdated, mailboxes]
    rfl
  rw [left] at counted
  have parts := List.length_eq_length_filter_add (l := ((office.living round).fitted round).letters)
    ((office.living round).outdated round)
  rw [List.countP_eq_length_filter]
  omega

theorem unconfirmed_zero (outcome : Mx.CommitOutcome) (db : Db) (job : Nat × Db) (missed : outcome ≠ .done) :
    (finished outcome db job).1 = 0 := by
  cases outcome with
  | done => exact absurd rfl missed
  | failed => rfl
  | unconfirmed => rfl

theorem expired_again (expired : round.expired ≠ .failed) :
    (office.afterRound round).layout.expiredCleanup round.databaseNow = (0, (office.afterRound round).layout) := by
  have unexpired : ∀ row ∈ (office.afterRound round).layout.addresses, row.expiredBefore round.databaseNow = false := by
    intro row member
    have known : row ∈ (office.afterRound round).mailboxes := member
    rw [after_round_mailboxes] at known
    exact living_unexpired office round expired row known
  have idle := clear_idle (office.afterRound round) (fun row => row.expiredBefore round.databaseNow) (fun _ => false) unexpired
    fun _ _ => rfl
  have step := expired_step (office.afterRound round) round.databaseNow
  rw [Db.expiredCleanup, step]
  exact Prod.ext (List.countP_eq_zero.mpr fun row member => by simp [unexpired row member]) (congrArg layout idle)

theorem storage_again (storage : round.storage ≠ .failed) :
    (office.afterRound round).layout.storageCleanup round.maxStorageMb = (0, (office.afterRound round).layout) := by
  rw [Db.storageCleanup]
  split
  · rfl
  · rename_i capped
    rw [Db.enforceStorage, if_pos (after_round_within office round storage (by omega))]

theorem retained_again (retention : round.retention ≠ .failed) :
    (office.afterRound round).layout.retentionCleanup round.retentionDays round.now = (0, (office.afterRound round).layout) := by
  have left := retained_layout ((office.living round).fitted round) round
  rw [finished_db, if_neg retention] at left
  change (((office.living round).fitted round).layout.retentionCleanup round.retentionDays round.now).2 =
    (office.afterRound round).layout at left
  rw [Db.retentionCleanup] at left ⊢
  split
  · rfl
  · rename_i active
    rw [if_neg active] at left
    cases computed : datetime (round.now - days round.retentionDays) with
    | none => rfl
    | some cutoff =>
        rw [computed] at left
        dsimp only at left ⊢
        rw [← left]
        exact retention_again _ cutoff (layout_valid _)

theorem round_again (expired : round.expired ≠ .failed) (storage : round.storage ≠ .failed)
    (retention : round.retention ≠ .failed)
    (other : Round) (same : other.databaseNow = round.databaseNow ∧ other.maxStorageMb = round.maxStorageMb ∧
      other.retentionDays = round.retentionDays ∧ other.now = round.now) :
    (office.afterRound round).layout.runCleanupNow other =
      (⟨0, 0, 0, (office.afterRound round).layout.storageUsage, (office.afterRound round).layout.storageUsage⟩,
        (office.afterRound round).layout) := by
  obtain ⟨databaseNow, maxStorageMb, retentionDays, now⟩ := same
  rw [Db.runCleanupNow, databaseNow, maxStorageMb, retentionDays, now, finished_zero _ _ _ (expired_again office round expired),
    finished_zero _ _ _ (storage_again office round storage), finished_zero _ _ _ (retained_again office round retention)]

end PostOffice

open PostOffice in
structure RoundDone (round : Round) (office : PostOffice) : Prop where
  tables : (office.layout.runCleanupNow round).2 = (office.afterRound round).layout
  mailboxes : (office.afterRound round).mailboxes =
    office.mailboxes.filter (fun row => round.expired == .failed || !row.expiredBefore round.databaseNow)
  letters : ∀ letter, letter ∈ (office.afterRound round).letters ↔ letter ∈ office.letters ∧
    (∃ row ∈ (office.afterRound round).mailboxes, row.id = letter.mailbox) ∧
    (round.storage = .failed ∨ (office.living round).overCap round letter = false) ∧
    (round.retention = .failed ∨ (office.living round).outdated round letter = false)
  unexpired : round.expired ≠ .failed → ∀ row ∈ (office.afterRound round).mailboxes, row.expiredBefore round.databaseNow = false
  capped : round.storage ≠ .failed → 0 < round.maxStorageMb →
    (office.afterRound round).layout.storageUsage ≤ round.maxStorageMb.toNat * 1024 * 1024
  recent : round.retention ≠ .failed → 0 < round.retentionDays → ∀ cutoff,
    datetime (round.now - days round.retentionDays) = some cutoff → ∀ letter ∈ (office.afterRound round).letters,
      (office.afterRound round).isPermanent letter.mailbox = true → cutoff ≤ letter.row.data.receivedAt
  addressesReported : (office.layout.runCleanupNow round).1.deletedAddresses =
    if round.expired = .done then office.mailboxes.countP (fun row => row.expiredBefore round.databaseNow) else 0
  emailsReported : (office.layout.runCleanupNow round).1.deletedEmails =
    if round.storage = .done then (office.living round).letters.countP ((office.living round).overCap round) else 0
  retentionReported : (office.layout.runCleanupNow round).1.retentionDeletedEmails =
    if round.retention = .done then ((office.living round).fitted round).letters.countP ((office.living round).outdated round)
    else 0
  usageReported : (office.layout.runCleanupNow round).1.storageBytesBefore = office.layout.storageUsage ∧
    (office.layout.runCleanupNow round).1.storageBytesAfter = (office.afterRound round).layout.storageUsage
  expiredAgain : round.expired ≠ .failed →
    (office.afterRound round).layout.expiredCleanup round.databaseNow = (0, (office.afterRound round).layout)
  storageAgain : round.storage ≠ .failed →
    (office.afterRound round).layout.storageCleanup round.maxStorageMb = (0, (office.afterRound round).layout)
  retentionAgain : round.retention ≠ .failed →
    (office.afterRound round).layout.retentionCleanup round.retentionDays round.now = (0, (office.afterRound round).layout)
  again : round.expired ≠ .failed → round.storage ≠ .failed → round.retention ≠ .failed →
    ∀ other : Round, other.databaseNow = round.databaseNow ∧ other.maxStorageMb = round.maxStorageMb ∧
      other.retentionDays = round.retentionDays ∧ other.now = round.now →
    (office.afterRound round).layout.runCleanupNow other =
      (⟨0, 0, 0, (office.afterRound round).layout.storageUsage, (office.afterRound round).layout.storageUsage⟩,
        (office.afterRound round).layout)

open PostOffice in
-- One round in any state a run reaches, whichever of its jobs fail.
theorem housekeeping_done {IP : Type} (runes : Mx.Runes) (services : Mx.Services IP) (python : Api.Python)
    (emailStr : String → Bool)
    (operations : List Operation) (genuine : ∀ operation ∈ operations, operation.Genuine) (round : Round) :
    (mailboxes runes services python emailStr).final {} operations =
        ((offices runes services python).final empty operations).layout ∧
      RoundDone round ((offices runes services python).final empty operations) := by
  generalize reached : (offices runes services python).final empty operations = office
  refine ⟨?_, after_round_layout office round, ?_, ?_, ?_, after_round_within office round, after_round_recent office round,
    ?_, ?_, ?_, ⟨rfl, ?_⟩, expired_again office round, storage_again office round, retained_again office round,
    round_again office round⟩
  · rw [← empty_layout, run_layout runes services python emailStr empty operations genuine, reached]
  · rw [after_round_mailboxes, living_mailboxes]
  · intro letter
    rw [after_round_letters, List.mem_filter, living_letters, after_round_mailboxes, and_assoc]
    simp
  · intro ran row member
    rw [after_round_mailboxes] at member
    exact living_unexpired office round ran row member
  · split
    · exact expired_counted office round ‹_›
    · exact unconfirmed_zero _ _ _ ‹_›
  · split
    · exact storage_counted office round ‹_›
    · exact unconfirmed_zero _ _ _ ‹_›
  · split
    · exact retention_counted office round ‹_›
    · exact unconfirmed_zero _ _ _ ‹_›
  · change ((office.layout.runCleanupNow round).2).storageUsage = _
    rw [after_round_layout]

def bobbyRun : List Operation :=
  shortRun ++ [.create Api.sampleSettings (.ok ()) { Api.sampleDraws with id := 2, token := "second" } {}
      (.createPermanentAddressPublic ⟨"bobby", none⟩),
    .storeEmail { greeting with recipient := "bobby@example.com", emailId := 9 }]

theorem bobby_run_genuine : ∀ operation ∈ bobbyRun, operation.Genuine := by
  intro operation member
  simp only [bobbyRun, List.mem_append, List.mem_cons, List.not_mem_nil, or_false] at member
  rcases member with short | made | stored
  · exact short_run_genuine operation short
  · rw [made]
    exact trivial
  · rw [stored]
    exact trivial

def nightly : Round where
  databaseNow := days 3
  maxStorageMb := 1
  retentionDays := 30
  now := days 3
  storage := .failed

open PostOffice in
theorem bobby_run_kept_house :
    (mailboxes Mx.asciiRunes Mx.quietServices Api.asciiPython Api.plainEmailStr).final {} bobbyRun =
        ((offices Mx.asciiRunes Mx.quietServices Api.asciiPython).final empty bobbyRun).layout ∧
      RoundDone nightly ((offices Mx.asciiRunes Mx.quietServices Api.asciiPython).final empty bobbyRun) :=
  housekeeping_done Mx.asciiRunes Mx.quietServices Api.asciiPython Api.plainEmailStr bobbyRun bobby_run_genuine nightly

end Tempmail.Store
