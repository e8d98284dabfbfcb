import Tempmail.Mx.Accepted
import Tempmail.Store.Operations

set_option autoImplicit false

namespace Tempmail.Config

open Api (Python)

structure Moment where
  time : Store.Time
  early : Store.earliest ≤ time
  late : time ≤ Store.latest

-- The integers that create_address, cleanup_permanent_email_retention,
-- run_cleanup_loop and GetMaxMessageSize compute with.
inductive Consumer where
  | lifetime
  | retention
  | interval
  | messageLimit
deriving DecidableEq

def Consumer.key : Consumer → String × String
  | .lifetime => ("tempmail", "address_lifetime_hours")
  | .retention => ("tempmail", "permanent_email_retention_days")
  | .interval => ("tempmail", "cleanup_interval_hours")
  | .messageLimit => ("server", "max_message_size_mb")

section Consumers

-- The most seconds that time.sleep takes.
variable (sleepLimit : Int)

def sleep (seconds : Int) : Option Unit := if 0 ≤ seconds ∧ seconds ≤ sleepLimit then some () else none

-- Each round reads the interval anew; nothing catches what its sleep raises.
def runCleanupLoop : List Int → Option Unit
  | [] => some ()
  | interval :: rounds => do
      sleep sleepLimit (max 1 interval * 3600)
      runCleanupLoop rounds

-- GetMaxMessageSize over the file, where its value decodes.
def messageSize (config : Value) : Option Int64 :=
  (Mx.decoded Mx.asInt 0 (config.setting "server" "max_message_size_mb")).map (fun mb =>
    (Mx.withDefaults { server := { maxMsgSizeMB := Int64.ofInt mb } }).getMaxMessageSize)

def Consumer.Safe (now : Moment) (config : Value) (settings : Settings) : Consumer → Prop
  | .lifetime => ∃ hours expiresAt, settings .addressLifetimeHours = .int hours ∧ Api.addHours now.time hours = some expiresAt
  | .retention => ∃ count cutoff, settings .permanentEmailRetentionDays = .int count ∧
      Store.datetime (now.time - Store.days count) = some cutoff
  | .interval => ∃ interval, settings .cleanupIntervalHours = .int interval ∧
      ∀ rounds, runCleanupLoop sleepLimit (List.replicate rounds interval) = some ()
  | .messageLimit => ∃ mb size, settings .maxMessageSizeMb = .int mb ∧ messageSize config = some size ∧
      size.toInt = mb * 1024 * 1024 ∧ 0 < size.toInt

def Consumer.limit (now : Moment) : Consumer → Int
  | .lifetime => (Store.latest - now.time) / Mx.hour
  | .retention => (now.time - Store.earliest) / (24 * Mx.hour)
  | .interval => sleepLimit / 3600
  | .messageLimit => 2 ^ 43 - 1

end Consumers

theorem datetime_iff (moment : Store.Time) :
    (∃ found, Store.datetime moment = some found) ↔ Store.earliest ≤ moment ∧ moment ≤ Store.latest := by
  by_cases inside : Store.earliest ≤ moment ∧ moment ≤ Store.latest
  · simp [Store.datetime, inside]
  · simp [Store.datetime, inside]

theorem expires_at_iff (now : Moment) (hours : Int) (least : 1 ≤ hours) :
    (∃ expiresAt, Api.addHours now.time hours = some expiresAt) ↔ hours ≤ (Store.latest - now.time) / Mx.hour := by
  have hour : (0 : Int) < Mx.hour := by decide
  have early := now.early
  have later : now.time ≤ now.time + hours * Mx.hour := Int.le_add_of_nonneg_right (Int.mul_nonneg (by omega) (by decide))
  rw [Api.addHours, datetime_iff, Int.le_ediv_iff_mul_le hour]
  constructor
  · rintro ⟨-, inside⟩
    exact Int.le_sub_left_of_add_le inside
  · intro inside
    exact ⟨le_trans early later, Int.add_le_of_le_sub_left inside⟩

theorem cutoff_iff (now : Moment) (count : Int) (least : 1 ≤ count) :
    (∃ cutoff, Store.datetime (now.time - Store.days count) = some cutoff) ↔
    count ≤ (now.time - Store.earliest) / (24 * Mx.hour) := by
  have day : (0 : Int) < 24 * Mx.hour := by decide
  have length : Store.days count = count * (24 * Mx.hour) := Int.mul_assoc _ _ _
  have late := now.late
  have earlier : now.time - Store.days count ≤ now.time := by
    rw [length]
    exact Int.sub_le_self _ (Int.mul_nonneg (by omega) (by decide))
  rw [datetime_iff, Int.le_ediv_iff_mul_le day, ← length]
  constructor
  · rintro ⟨inside, -⟩
    exact Int.le_sub_left_of_add_le (Int.add_le_of_le_sub_right inside)
  · intro inside
    exact ⟨Int.le_sub_right_of_add_le (Int.add_le_of_le_sub_left inside), le_trans earlier late⟩

theorem cleanup_loop_iff (sleepLimit : Int) (intervals : List Int) :
    runCleanupLoop sleepLimit intervals = some () ↔ ∀ interval ∈ intervals, max 1 interval * 3600 ≤ sleepLimit := by
  induction intervals with
  | nil => simp [runCleanupLoop]
  | cons interval rounds ih =>
      have waits : 0 ≤ max 1 interval * 3600 := by omega
      rw [List.forall_mem_cons, ← ih]
      by_cases inside : max 1 interval * 3600 ≤ sleepLimit
      · simp [runCleanupLoop, sleep, waits, inside]
      · simp [runCleanupLoop, sleep, inside]

theorem same_interval_iff (sleepLimit interval : Int) (least : 1 ≤ interval) :
    (∀ rounds, runCleanupLoop sleepLimit (List.replicate rounds interval) = some ()) ↔ interval ≤ sleepLimit / 3600 := by
  have longest : max 1 interval = interval := by omega
  rw [Int.le_ediv_iff_mul_le (by decide)]
  constructor
  · intro runs
    have once := (cleanup_loop_iff sleepLimit _).mp (runs 1) interval (by simp)
    rwa [longest] at once
  · intro inside rounds
    refine (cleanup_loop_iff sleepLimit _).mpr fun other member => ?_
    rw [List.eq_of_mem_replicate member, longest]
    exact inside

theorem size_iff (mb : Int) (least : 1 ≤ mb) (config : Value)
    (held : config.setting "server" "max_message_size_mb" = some (.int mb)) :
    (∃ size, messageSize config = some size ∧ size.toInt = mb * 1024 * 1024 ∧ 0 < size.toInt) ↔ mb ≤ 2 ^ 43 - 1 := by
  by_cases large : Mx.maxInt < mb
  · have unread : messageSize config = none := by simp [messageSize, held, Mx.decoded, Mx.asInt, large]
    simp only [unread, reduceCtorEq, false_and, exists_false, false_iff, not_le]
    rw [Mx.maxInt] at large
    omega
  · have fits : max mb Mx.minInt = mb := by
      rw [Mx.minInt]
      omega
    have kept := Mx.size_kept mb (by rw [Mx.minInt]; omega) (by omega)
    rw [if_neg (by omega : ¬ mb = 0)] at kept
    have read : messageSize config =
        some ((if Int64.ofInt mb = 0 then (10 : Int64) else Int64.ofInt mb) * 1024 * 1024) := by
      rw [messageSize, held, Mx.decoded, Mx.asInt, if_neg large, fits]
      rfl
    have wraps : ((if Int64.ofInt mb = 0 then (10 : Int64) else Int64.ofInt mb) * 1024 * 1024).toInt =
        (mb * 1024 * 1024).bmod (2 ^ 64) := by
      rw [Int64.toInt_mul, Int64.toInt_mul, kept, Int.bmod_mul_bmod]
      rfl
    simp only [read, Option.some.injEq, exists_eq_left', wraps]
    constructor
    · rintro ⟨exact_eq, -⟩
      have top : (mb * 1024 * 1024).bmod (2 ^ 64) < (2 ^ 64 + 1) / 2 := Int.bmod_lt (by decide)
      rw [exact_eq] at top
      omega
    · intro bounded
      have inside : (mb * 1024 * 1024).bmod (2 ^ 64) = mb * 1024 * 1024 := Int.bmod_eq_of_le (by omega) (by omega)
      rw [inside]
      omega

-- What MX computes from the file is what it computes from the patched value.
theorem message_size_loaded (printed : Rat → String) (entries : Mx.Entries) (raw : Mx.FileConfig)
    (reads : Mx.unmarshal printed (.map entries) = some raw) :
    messageSize (.map entries) = some (Mx.withDefaults raw.toConfig).getMaxMessageSize := by
  obtain ⟨found, mapping, read⟩ := (Mx.unmarshal_iff printed (.map entries) raw).mp reads
  cases mapping
  obtain ⟨size, sizeRead, size_eq⟩ := read.maxMsgSizeMB
  rw [messageSize, Mx.nested_reads _ _ _ _ _ _ sizeRead, Option.map_some, Mx.Config.getMaxMessageSize,
    Mx.Config.getMaxMessageSize,
    Mx.withDefaults, Mx.withDefaults, size_eq]

section Patched

variable (python : Python) (config patch patched : Value) (changed : Changes) (old settings : Settings) (value : Int)
  (accepted : applyPatch python config patch = .ok (patched, changed)) (reloaded : apply patched old = (.ok (), settings))

include accepted

theorem patched_int (outer key : String) (offered : patch.offers outer key = some (.int value)) :
    patched.setting outer key = some (.int value) := by
  have kept := (patch_applied python config patch (patched, changed) accepted).1.settings outer key
  rw [offered] at kept
  exact kept

theorem patched_least (outer key : String) (positive : (outer, key) ∈ positiveIntKeys)
    (offered : patch.offers outer key = some (.int value)) : 1 ≤ value := by
  obtain ⟨-, held, checked⟩ := (patch_applied python config patch (patched, changed) accepted).1.offered outer key _ offered
  exact Mx.checked_positive held outer key value positive checked

include reloaded

theorem loaded_int (index : Nat) (name : Attribute) (outer key : String) (fallback : Value)
    (here : assignments = assignments.take index ++ .nested name outer key fallback :: assignments.drop (index + 1))
    (apart : (assignments.drop (index + 1)).all (fun other => other.target != name) = true)
    (offered : patch.offers outer key = some (.int value)) : settings name = .int value := by
  have shaped : wellShaped patched assignments := (apply_outcome patched old).answer.mp (by rw [← apply, reloaded])
  have loaded := setting_loaded patched old index name outer key fallback here apart shaped
  rw [reloaded, patched_int python config patch patched changed value accepted outer key offered] at loaded
  exact loaded

end Patched

-- An accepted integer is safe where it is used exactly when it is within what
-- the code there can compute.
theorem numeric_settings_iff (python : Python) (sleepLimit : Int) (now : Moment)
    (config patch patched : Value) (changed : Changes)
    (old settings : Settings) (consumer : Consumer) (value : Int)
    (accepted : applyPatch python config patch = .ok (patched, changed))
    (reloaded : apply patched old = (.ok (), settings))
    (offered : patch.offers consumer.key.1 consumer.key.2 = some (.int value)) :
    consumer.Safe sleepLimit now patched settings ↔ value ≤ consumer.limit sleepLimit now := by
  have loaded := loaded_int python config patch patched changed old settings value accepted reloaded
  have positive : consumer.key ∈ positiveIntKeys := by cases consumer <;> decide
  have least := patched_least python config patch patched changed value accepted _ _ positive offered
  cases consumer with
  | lifetime =>
      have held := loaded 12 .addressLifetimeHours _ _ _ rfl rfl offered
      rw [Consumer.limit, ← expires_at_iff now value least]
      simp [Consumer.Safe, held]
  | retention =>
      have held := loaded 31 .permanentEmailRetentionDays _ _ _ rfl rfl offered
      rw [Consumer.limit, ← cutoff_iff now value least]
      simp [Consumer.Safe, held]
  | interval =>
      have held := loaded 14 .cleanupIntervalHours _ _ _ rfl rfl offered
      rw [Consumer.limit, ← same_interval_iff sleepLimit value least]
      simp [Consumer.Safe, held]
  | messageLimit =>
      have held := loaded 9 .maxMessageSizeMb _ _ _ rfl rfl offered
      have filed := patched_int python config patch patched changed value accepted _ _ offered
      rw [Consumer.limit, ← size_iff value least patched filed]
      simp [Consumer.Safe, held]

section Huge

def epoch : Moment := ⟨0, by decide, by decide⟩

def numbersPatch (number : Int) : Value :=
  .map [(.str "tempmail",
    .map [(.str "address_lifetime_hours", .int number), (.str "permanent_email_retention_days", .int number),
      (.str "cleanup_interval_hours", .int number)]),
    (.str "server", .map [(.str "max_message_size_mb", .int number)])]

def numbersConfig (number : Int) : Value :=
  .map [(.str "domains", words ["example.com"]), (.str "server", .map [(.str "max_message_size_mb", .int number)]),
    (.str "tempmail", .map [(.str "address_lifetime_hours", .int number), (.str "permanent_email_retention_days", .int number),
      (.str "cleanup_interval_hours", .int number)])]

def numbersSettings (number : Int) : Settings := (apply (numbersConfig number) (fun _ => .null)).2

def numbersKeys : Changes :=
  [("tempmail", "address_lifetime_hours"), ("tempmail", "permanent_email_retention_days"), ("tempmail", "cleanup_interval_hours"),
    ("server", "max_message_size_mb")]

theorem two_days_safe : Consumer.lifetime.Safe 9223372036 epoch (numbersConfig 48) (numbersSettings 48) :=
  (numeric_settings_iff Api.asciiPython 9223372036 epoch (numbersConfig 1) (numbersPatch 48) (numbersConfig 48) numbersKeys
    (fun _ => .null) (numbersSettings 48) .lifetime 48 rfl rfl rfl).mpr (by decide)

-- One patch that gives all four a value of 2^60.
theorem huge_numbers_accepted :
    applyPatch Api.asciiPython (numbersConfig 1) (numbersPatch (2 ^ 60)) = .ok (numbersConfig (2 ^ 60), numbersKeys) ∧
      apply (numbersConfig (2 ^ 60)) (fun _ => .null) = (.ok (), numbersSettings (2 ^ 60)) ∧
      ∀ consumer : Consumer, ¬ consumer.Safe 9223372036 epoch (numbersConfig (2 ^ 60)) (numbersSettings (2 ^ 60)) := by
  refine ⟨rfl, rfl, fun consumer safe => ?_⟩
  cases consumer with
  | lifetime =>
      obtain ⟨hours, expiresAt, held, computed⟩ := safe
      cases held
      exact absurd ((expires_at_iff epoch _ (by decide)).mp ⟨expiresAt, computed⟩) (by decide)
  | retention =>
      obtain ⟨count, cutoff, held, computed⟩ := safe
      cases held
      exact absurd ((cutoff_iff epoch _ (by decide)).mp ⟨cutoff, computed⟩) (by decide)
  | interval =>
      obtain ⟨interval, held, runs⟩ := safe
      cases held
      exact absurd ((same_interval_iff 9223372036 _ (by decide)).mp runs) (by decide)
  | messageLimit =>
      obtain ⟨mb, size, held, computed, whole⟩ := safe
      cases held
      exact absurd ((size_iff _ (by decide) _ rfl).mp ⟨size, computed, whole⟩) (by decide)

end Huge

end Tempmail.Config
