import Mathlib.Algebra.Order.Field.Rat
import Mathlib.Tactic.NormNum
import Tempmail.Config.Rollback
import Tempmail.Mx.Unmarshal

set_option autoImplicit false

namespace Tempmail.Mx

open Tempmail.Config (Key Value Settings words)

inductive Kind where
  | int
  | text
  | flag
deriving DecidableEq

def fields : List (String × String × Kind) :=
  [("database", "url", .text), ("database", "pool_size", .int),
    ("server", "mx_port", .int), ("server", "max_message_size_mb", .int), ("server", "hostname", .text),
    ("server", "max_connections", .int), ("server", "max_messages_per_hour_per_ip", .int), ("server", "max_mime_parts", .int),
    ("tls", "enabled", .flag), ("tls", "cert_file", .text), ("tls", "key_file", .text),
    ("tempmail", "max_emails_per_address", .int),
    ("validation", "check_dkim", .flag), ("validation", "check_spf", .flag), ("validation", "check_dmarc", .flag),
    ("server", "api_port", .int), ("tempmail", "address_lifetime_hours", .int), ("tempmail", "cleanup_interval_hours", .int),
    ("tempmail", "address_format", .text), ("validation", "store_results", .flag),
    ("logging", "level", .text), ("logging", "format", .text)]

section Readable

variable (printed : Rat → String)

def Kind.takes (value : Value) : Kind → Bool
  | .int => (asInt value).isSome
  | .text => (asString printed value).isSome
  | .flag => (asBool value).isSome

def Kind.reads (entries : Entries) (outer key : String) : Kind → Bool
  | .int => (nested asInt 0 entries outer key).isSome
  | .text => (nested (asString printed) "" entries outer key).isSome
  | .flag => (nested asBool false entries outer key).isSome

theorem nested_some_iff {α : Type} (decode : Value → Option (Option α)) (zero : α) (entries : Entries) (outer key : String) :
    (nested decode zero entries outer key).isSome = true ↔ (group entries outer).isSome = true ∧
      ∀ value, (Value.map entries).setting outer key = some value → (decode value).isSome = true := by
  constructor
  · intro read
    obtain ⟨found, read⟩ := Option.isSome_iff_exists.mp read
    have shaped := nested_shape decode zero found entries outer key read
    rw [nested_decoded decode zero entries outer key shaped] at read
    refine ⟨shaped, ?_⟩
    intro value present
    rw [present, decoded, Option.map_eq_some_iff] at read
    obtain ⟨inner, decodes, -⟩ := read
    rw [decodes]
    rfl
  · intro ⟨shaped, taken⟩
    rw [nested_decoded decode zero entries outer key shaped]
    cases present : (Value.map entries).setting outer key with
    | none => rfl
    | some value => simpa [decoded] using taken value present

theorem reads_iff (entries : Entries) (outer key : String) (kind : Kind) :
    kind.reads printed entries outer key = true ↔ (group entries outer).isSome = true ∧
      ∀ value, (Value.map entries).setting outer key = some value → kind.takes printed value = true := by
  cases kind with
  | int => exact nested_some_iff asInt 0 entries outer key
  | text => exact nested_some_iff (asString printed) "" entries outer key
  | flag => exact nested_some_iff asBool false entries outer key

theorem pointer_some_iff (entries : Entries) (outer key : String) :
    (nested (pointer asInt) none entries outer key).isSome = (nested asInt 0 entries outer key).isSome := by
  rw [Bool.eq_iff_iff, nested_some_iff, nested_some_iff]
  simp only [pointer, Option.isSome_map]

structure Readable (entries : Entries) : Prop where
  domains : (field (asStrings printed) [] entries "domains").isSome = true
  taken : ∀ spot ∈ fields, spot.2.2.reads printed entries spot.1 spot.2.1 = true

theorem unmarshal_readable (config : Value) :
    (unmarshal printed config).isSome = true ↔ ∃ entries, asMapping config = some entries ∧ Readable printed entries := by
  constructor
  · intro reads
    obtain ⟨file, reads⟩ := Option.isSome_iff_exists.mp reads
    obtain ⟨entries, mapping, read⟩ := (unmarshal_iff printed config file).mp reads
    obtain ⟨size, sizeRead, -⟩ := read.maxMsgSizeMB
    have rate := pointer_some_iff entries "server" "max_messages_per_hour_per_ip"
    have parts := pointer_some_iff entries "server" "max_mime_parts"
    rw [read.maxMessagesPerHourIP] at rate
    rw [read.maxMIMEParts] at parts
    refine ⟨entries, mapping, by rw [read.domains]; rfl, ?_⟩
    simp [fields, Kind.reads, read.url, read.poolSize, read.mxPort, sizeRead, read.hostname, read.maxConnections, ← rate, ← parts,
      read.enabled, read.certFile, read.keyFile, read.maxEmailsPerAddress, read.checkDKIM, read.checkSPF, read.checkDMARC,
      read.apiPort, read.addressLifetimeHours, read.cleanupIntervalHours, read.addressFormat, read.storeResults,
        read.level, read.format]
  · intro ⟨entries, mapping, readable⟩
    have taken := readable.taken
    simp only [fields, List.forall_mem_cons, Kind.reads, Option.isSome_iff_exists] at taken
    obtain ⟨⟨_, url⟩, ⟨_, poolSize⟩, ⟨_, mxPort⟩, ⟨size, sizeRead⟩, ⟨_, hostname⟩, ⟨_, connections⟩, rate, parts, ⟨_, enabled⟩,
      ⟨_, cert⟩, ⟨_, keyFile⟩, ⟨_, cap⟩, ⟨_, dkim⟩, ⟨_, spf⟩, ⟨_, dmarc⟩, ⟨_, apiPort⟩, ⟨_, lifetime⟩, ⟨_, interval⟩, ⟨_, style⟩,
      ⟨_, store⟩, ⟨_, level⟩, ⟨_, format⟩, -⟩ := taken
    rw [← Option.isSome_iff_exists, ← pointer_some_iff, Option.isSome_iff_exists] at rate parts
    obtain ⟨_, rate⟩ := rate
    obtain ⟨_, parts⟩ := parts
    obtain ⟨domains, listed⟩ := Option.isSome_iff_exists.mp readable.domains
    refine Option.isSome_iff_exists.mpr
      ⟨⟨⟨domains, ⟨_, _⟩, ⟨_, Int64.ofInt size, _, _, _, _⟩, ⟨_, _, _⟩, _, ⟨_, _, _⟩⟩, _, _, _, _, _, _, _⟩,
      (unmarshal_iff printed config _).mpr
        ⟨entries, mapping, listed, url, poolSize, mxPort, ⟨size, sizeRead, rfl⟩, hostname, connections,
        rate, parts, enabled, cert, keyFile, cap, dkim, spf, dmarc, apiPort, lifetime, interval, style, store, level, format⟩⟩

def Loads (config : Value) : Prop := ∃ raw, unmarshal printed config = some raw ∧ raw.database.url ≠ "" ∧ raw.domains ≠ []

end Readable

section Values

def wholeNumber : Value → Option Int
  | .int number => some number
  | .float number => if number.den = 1 then some number.num else none
  | _ => none

-- A key that both loaders default alike when it is absent, and zero to Go.
def Whole (offer : Option Value) : Prop :=
  ∀ value, offer = some value → ∃ number, wholeNumber value = some number ∧ number ≠ 0 ∧ minInt ≤ number ∧ number ≤ maxInt

theorem tdiv_range (number : Rat) (above : -2 ^ 63 ≤ number) (below : number < 2 ^ 63) :
    minInt ≤ number.num.tdiv number.den ∧ number.num.tdiv number.den ≤ maxInt := by
  have positive : (0 : Int) < number.den := by exact_mod_cast number.den_pos
  have low : -2 ^ 63 * (number.den : Int) ≤ number.num := by simpa using (Rat.le_iff (-2 ^ 63) number).mp above
  have high : number.num < 2 ^ 63 * (number.den : Int) := by simpa using (Rat.lt_iff number (2 ^ 63)).mp below
  rw [minInt, maxInt]
  by_cases sign : 0 ≤ number.num
  · have bound := Int.ediv_lt_of_lt_mul positive high
    have nonneg := Int.tdiv_nonneg sign positive.le
    rw [← Int.tdiv_eq_ediv_of_nonneg sign] at bound
    omega
  · have flipped : 0 ≤ -number.num := by omega
    have bound : -number.num / (number.den : Int) ≤ 2 ^ 63 := Int.ediv_le_of_le_mul positive (by omega)
    have nonneg := Int.tdiv_nonneg flipped positive.le
    rw [← Int.tdiv_eq_ediv_of_nonneg flipped, Int.neg_tdiv] at bound
    rw [Int.neg_tdiv] at nonneg
    omega

theorem int_range (value : Value) (read : Int) (reads : asInt value = some (some read)) : minInt ≤ read ∧ read ≤ maxInt := by
  cases value with
  | int number =>
      simp only [asInt, Option.ite_none_left_eq_some, Option.some.injEq] at reads
      obtain ⟨bounded, reads⟩ := reads
      rw [← reads, minInt]
      rw [maxInt] at bounded ⊢
      omega
  | float number =>
      simp only [asInt, Option.ite_none_left_eq_some, Option.some.injEq] at reads
      obtain ⟨-, reads⟩ := reads
      rw [← reads]
      split
      · rename_i inside
        exact tdiv_range number inside.1 inside.2
      · exact ⟨le_refl minInt, by decide⟩
  | _ => simp [asInt] at reads

theorem int_exact (value : Value) (read number : Int) (reads : asInt value = some (some read))
    (whole : wholeNumber value = some number) (above : minInt ≤ number) (below : number ≤ maxInt) : read = number := by
  cases value with
  | int found =>
      simp only [wholeNumber, Option.some.injEq] at whole
      simp only [asInt, Option.ite_none_left_eq_some, Option.some.injEq] at reads
      omega
  | float found =>
      simp only [wholeNumber, Option.ite_none_right_eq_some, Option.some.injEq] at whole
      obtain ⟨integral, whole⟩ := whole
      have exact_eq : found = number := by rw [← whole, Rat.coe_int_num_of_den_eq_one integral]
      simp only [asInt, Option.ite_none_left_eq_some, Option.some.injEq] at reads
      rw [minInt] at above
      rw [maxInt] at below
      have low : -2 ^ 63 ≤ found := by
        rw [exact_eq]
        exact_mod_cast above
      have high : found < 2 ^ 63 := by
        rw [exact_eq]
        exact_mod_cast (by omega : number < 2 ^ 63)
      rw [if_pos ⟨low, high⟩, integral, whole] at reads
      simpa using reads.2.symm
  | _ => cases whole

theorem same_whole (value : Value) (number : Int) (typed : (asInt value).isSome = true) :
    value.same (.int number) = true ↔ wholeNumber value = some number := by
  cases value with
  | int found => simpa [wholeNumber] using Config.same_int found number
  | float found =>
      simp only [Value.same, Value.number, beq_iff_eq, Option.some.injEq, wholeNumber, Option.ite_none_right_eq_some]
      constructor
      · intro same
        rw [← same]
        exact ⟨Rat.den_intCast number, Rat.num_intCast number⟩
      · intro both
        rw [← both.2, Rat.coe_int_num_of_den_eq_one both.1]
  | null => simp [Value.same, wholeNumber]
  | _ => cases typed

theorem whole_same (offer : Option Value) (fallback read : Int) (nonzero : fallback ≠ 0) (above : minInt ≤ fallback)
    (below : fallback ≤ maxInt) (reads : decoded asInt 0 offer = some read) :
    (offer.getD (.int fallback)).same (.int (if read = 0 then fallback else read)) = true ↔ Whole offer := by
  cases offer with
  | none =>
      have zero : read = 0 := (Option.some.inj reads).symm
      simp [Whole, zero, Config.same_int]
  | some value =>
      rw [decoded, Option.map_eq_some_iff] at reads
      obtain ⟨found, decodes, read_eq⟩ := reads
      rw [Option.getD_some, same_whole value _ (by rw [decodes]; rfl)]
      simp only [Whole, Option.some.injEq, forall_eq']
      cases found with
      | none =>
          cases value with
          | null => simp [wholeNumber]
          | int number => simp [asInt] at decodes
          | float number => simp [asInt] at decodes
          | _ => cases decodes
      | some number =>
          have read_eq : number = read := read_eq
          rw [read_eq] at decodes
          have range := int_range value read decodes
          constructor
          · intro same
            by_cases zero : read = 0
            · rw [if_pos zero] at same
              have agrees := int_exact value read fallback decodes same above below
              exact absurd (agrees.symm.trans zero) nonzero
            · rw [if_neg zero] at same
              exact ⟨read, same, zero, range⟩
          · intro ⟨held, whole, apart, low, high⟩
            have agrees := int_exact value read held decodes whole low high
            rw [if_neg (agrees ▸ apart), agrees]
            exact whole

theorem flag_same (value : Value) (read : Bool) (reads : decoded asBool false (some value) = some read) :
    value.same (.bool read) = true ↔ ∃ flag, value = .bool flag := by
  cases value with
  | bool flag =>
      have same : flag = read := Option.some.inj reads
      rw [same]
      simp [Value.same, Value.number]
  | null => simp [Value.same]
  | str text => simp [Value.same]
  | _ => cases reads

theorem text_same (value : Value) (text : String) : value.same (.str text) = true ↔ value = .str text := by
  cases value <;> simp [Value.same, Value.number]

theorem same_words (items : List Value) (texts : List String) :
    Value.sameItems items (texts.map .str) = true ↔ items = texts.map .str := by
  induction items generalizing texts with
  | nil => cases texts <;> simp [Value.sameItems]
  | cons item rest ih =>
      cases texts with
      | nil => simp [Value.sameItems]
      | cons text texts => simp [Value.sameItems, text_same, ih]

theorem words_decoded (printed : Rat → String) (texts : List String) : asStrings printed (words texts) = some (some texts) := by
  have plain : (texts.map Value.str).mapM (asString printed) = some (texts.map some) := by
    induction texts with
    | nil => rfl
    | cons text rest ih => simp [List.mapM_cons, asString, ih]
  simp [asStrings, words, plain]

theorem words_same (printed : Rat → String) (offer : Option Value) (read : List String) (named : read ≠ [])
    (reads : decoded (asStrings printed) [] offer = some read) :
    (offer.getD (.list [])).same (words read) = true ↔ ∃ texts, offer = some (words texts) := by
  cases offer with
  | none =>
      have none_read : read = [] := (Option.some.inj reads).symm
      exact absurd none_read named
  | some value =>
      rw [Option.getD_some]
      constructor
      · intro same
        cases value with
        | list items =>
            rw [words, Value.same, same_words] at same
            exact ⟨read, by rw [same, words]⟩
        | _ => simp [words, Value.same, Value.number] at same
      · intro held
        obtain ⟨texts, value_eq⟩ := held
        cases value_eq
        rw [decoded, words_decoded] at reads
        have same : texts = read := Option.some.inj reads
        rw [same, words, Value.same, same_words]

end Values

structure SameValues (settings : Settings) (file : FileConfig) : Prop where
  domains : (settings .domains).same (words file.domains) = true
  maxMessageSizeMb : (settings .maxMessageSizeMb).same (.int file.server.maxMsgSizeMB.toInt) = true
  hostname : (settings .hostname).same (.str file.server.hostname) = true
  maxEmailsPerAddress : (settings .maxEmailsPerAddress).same (.int file.maxEmailsPerAddress) = true
  addressFormat : (settings .addressFormat).same (.str file.addressFormat) = true
  checkDkim : (settings .checkDkim).same (.bool file.validation.checkDKIM) = true
  checkSpf : (settings .checkSpf).same (.bool file.validation.checkSPF) = true
  checkDmarc : (settings .checkDmarc).same (.bool file.validation.checkDMARC) = true
  storeResults : (settings .storeValidationResults).same (.bool file.storeResults) = true
  tlsEnabled : (settings .tlsEnabled).same (.bool file.tls.enabled) = true

def Flagged (offer : Option Value) : Prop := ∃ flag, offer = some (.bool flag)

structure Agreed (config : Value) : Prop where
  domains : ∃ texts, config.top "domains" = some (words texts)
  maxMessageSizeMb : Whole (config.setting "server" "max_message_size_mb")
  hostname : ∀ value, config.setting "server" "hostname" = some value → ∃ text, value = .str text ∧ text ≠ ""
  maxEmailsPerAddress : Whole (config.setting "tempmail" "max_emails_per_address")
  addressFormat : ∃ text, config.setting "tempmail" "address_format" = some (.str text)
  checkDkim : Flagged (config.setting "validation" "check_dkim")
  checkSpf : Flagged (config.setting "validation" "check_spf")
  checkDmarc : Flagged (config.setting "validation" "check_dmarc")
  storeResults : Flagged (config.setting "validation" "store_results")
  tlsEnabled : ∀ value, config.setting "tls" "enabled" = some value → ∃ flag, value = .bool flag

section Shared

theorem hostname_same (printed : Rat → String) (offer : Option Value) (fallback read : String) (named : fallback ≠ "")
    (reads : decoded (asString printed) "" offer = some read) :
    (offer.getD (.str fallback)).same (.str (if read = "" then fallback else read)) = true ↔
      ∀ value, offer = some value → ∃ text, value = .str text ∧ text ≠ "" := by
  rw [text_same]
  cases offer with
  | none =>
      have empty : read = "" := (Option.some.inj reads).symm
      simp [empty]
  | some value =>
      simp only [Option.getD_some, Option.some.injEq, forall_eq']
      cases value with
      | str text =>
          have same : text = read := Option.some.inj reads
          rw [same]
          by_cases empty : read = ""
          · simp [empty, named.symm]
          · simp [empty]
      | _ => simp

theorem format_same (printed : Rat → String) (offer : Option Value) (fallback read : String) (named : fallback ≠ "")
    (reads : decoded (asString printed) "" offer = some read) :
    (offer.getD (.str fallback)).same (.str read) = true ↔ ∃ text, offer = some (.str text) := by
  rw [text_same]
  cases offer with
  | none =>
      have empty : read = "" := (Option.some.inj reads).symm
      simp [empty, named]
  | some value =>
      cases value with
      | str text =>
          have same : text = read := Option.some.inj reads
          simp [same]
      | _ => simp

-- The API takes an absent check for true and the MX for false.
theorem check_same (offer : Option Value) (read : Bool) (reads : decoded asBool false offer = some read) :
    (offer.getD (.bool true)).same (.bool read) = true ↔ Flagged offer := by
  cases offer with
  | none =>
      have absent : read = false := (Option.some.inj reads).symm
      simp [absent, Flagged, Value.same, Value.number]
  | some value =>
      rw [Option.getD_some, flag_same value read reads]
      simp [Flagged]

theorem tls_same (offer : Option Value) (read : Bool) (reads : decoded asBool false offer = some read) :
    (offer.getD (.bool false)).same (.bool read) = true ↔ ∀ value, offer = some value → ∃ flag, value = .bool flag := by
  cases offer with
  | none =>
      have absent : read = false := (Option.some.inj reads).symm
      simp [absent, Value.same, Value.number]
  | some value =>
      rw [Option.getD_some, flag_same value read reads]
      simp

theorem size_kept (size : Int) (above : minInt ≤ size) (below : size ≤ maxInt) :
    (if Int64.ofInt size = 0 then (10 : Int64) else Int64.ofInt size).toInt = if size = 0 then 10 else size := by
  have exact_eq : (Int64.ofInt size).toInt = size := Int64.toInt_ofInt_of_le above (by rw [maxInt] at below; omega)
  by_cases zero : size = 0
  · rw [zero]
    rfl
  · have apart : Int64.ofInt size ≠ 0 := by
      intro same
      rw [same] at exact_eq
      exact zero exact_eq.symm
    rw [if_neg zero, if_neg apart, exact_eq]

theorem decoded_range (offer : Option Value) (read : Int) (reads : decoded asInt 0 offer = some read) :
    minInt ≤ read ∧ read ≤ maxInt := by
  cases offer with
  | none =>
      cases reads
      decide
  | some value =>
      rw [decoded, Option.map_eq_some_iff] at reads
      obtain ⟨found, decodes, read_eq⟩ := reads
      cases found with
      | none =>
          cases read_eq
          decide
      | some number =>
          cases read_eq
          exact int_range value number decodes

theorem nested_reads {α : Type} (decode : Value → Option (Option α)) (zero found : α) (entries : Entries) (outer key : String)
    (read : nested decode zero entries outer key = some found) :
    decoded decode zero ((Value.map entries).setting outer key) = some found := by
  rw [← nested_decoded decode zero entries outer key (nested_shape decode zero found entries outer key read), read]

-- What LoadConfig returns for the struct that Unmarshal filled.
def FileConfig.defaulted (raw : FileConfig) : FileConfig := { raw with toConfig := withDefaults raw.toConfig }

theorem loaded_mapping (printed : Rat → String) (config : Value) (raw : FileConfig) (reads : unmarshal printed config = some raw)
    (named : raw.domains ≠ []) : ∃ entries, config = .map entries ∧ Unmarshalled printed entries raw := by
  obtain ⟨entries, mapping, read⟩ := (unmarshal_iff printed config raw).mp reads
  cases config with
  | map inner =>
      cases mapping
      exact ⟨_, rfl, read⟩
  | null =>
      cases mapping
      have empty : raw.domains = [] := (Option.some.inj read.domains).symm
      exact absurd empty named
  | _ => cases mapping

theorem same_values_iff (printed : Rat → String) (config : Value) (old settings : Settings) (raw : FileConfig)
    (reads : unmarshal printed config = some raw) (named : raw.domains ≠ [])
    (applied : Config.apply config old = (.ok (), settings)) :
    SameValues settings raw.defaulted ↔ Agreed config := by
  have shaped : Config.wellShaped config Config.assignments :=
    (Config.apply_outcome config old).answer.mp (by rw [← Config.apply, applied])
  obtain ⟨entries, rfl, read⟩ := loaded_mapping printed config raw reads named
  have loaded := Config.setting_loaded (.map entries) old
  have listed : (Config.apply (.map entries) old).2 .domains = ((Value.map entries).top "domains").getD (.list []) :=
    Config.assigned_value (.map entries) _ old 0 (.top .domains "domains" (.list [])) rfl rfl shaped rfl
  rw [applied] at loaded listed
  obtain ⟨size, sizeRead, size_eq⟩ := read.maxMsgSizeMB
  have sizeReads := nested_reads _ _ _ _ _ _ sizeRead
  have range := decoded_range _ _ sizeReads
  have domains := words_same printed ((Value.map entries).top "domains") raw.domains named read.domains
  have maxSize := whole_same _ 10 size (by decide) (by decide) (by decide) sizeReads
  have cap := whole_same _ 100 _ (by decide) (by decide) (by decide) (nested_reads _ _ _ _ _ _ read.maxEmailsPerAddress)
  have hostname := hostname_same printed _ "mail.tempmail.local" _ (by decide) (nested_reads _ _ _ _ _ _ read.hostname)
  have style := format_same printed _ "random" _ (by decide) (nested_reads _ _ _ _ _ _ read.addressFormat)
  have dkim := check_same _ _ (nested_reads _ _ _ _ _ _ read.checkDKIM)
  have spf := check_same _ _ (nested_reads _ _ _ _ _ _ read.checkSPF)
  have dmarc := check_same _ _ (nested_reads _ _ _ _ _ _ read.checkDMARC)
  have store := check_same _ _ (nested_reads _ _ _ _ _ _ read.storeResults)
  have tls := tls_same _ _ (nested_reads _ _ _ _ _ _ read.enabled)
  rw [← listed] at domains
  rw [← loaded 9 .maxMessageSizeMb _ _ _ rfl rfl shaped, ← size_kept size range.1 range.2, ← size_eq] at maxSize
  rw [← loaded 13 .maxEmailsPerAddress _ _ _ rfl rfl shaped] at cap
  rw [← loaded 10 .hostname _ _ _ rfl rfl shaped] at hostname
  rw [← loaded 15 .addressFormat _ _ _ rfl rfl shaped] at style
  rw [← loaded 21 .checkDkim _ _ _ rfl rfl shaped] at dkim
  rw [← loaded 22 .checkSpf _ _ _ rfl rfl shaped] at spf
  rw [← loaded 23 .checkDmarc _ _ _ rfl rfl shaped] at dmarc
  rw [← loaded 24 .storeValidationResults _ _ _ rfl rfl shaped] at store
  rw [← loaded 25 .tlsEnabled _ _ _ rfl rfl shaped] at tls
  constructor
  · intro same
    exact ⟨domains.mp same.domains, maxSize.mp same.maxMessageSizeMb, hostname.mp same.hostname, cap.mp same.maxEmailsPerAddress,
      style.mp same.addressFormat, dkim.mp same.checkDkim, spf.mp same.checkSpf, dmarc.mp same.checkDmarc,
        store.mp same.storeResults,
      tls.mp same.tlsEnabled⟩
  · intro agreed
    exact ⟨domains.mpr agreed.domains, maxSize.mpr agreed.maxMessageSizeMb, hostname.mpr agreed.hostname,
      cap.mpr agreed.maxEmailsPerAddress, style.mpr agreed.addressFormat, dkim.mpr agreed.checkDkim, spf.mpr agreed.checkSpf,
      dmarc.mpr agreed.checkDmarc, store.mpr agreed.storeResults, tls.mpr agreed.tlsEnabled⟩

end Shared

end Tempmail.Mx
