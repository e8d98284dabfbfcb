import Tempmail.Config.Body
import Tempmail.Mx.Readable

set_option autoImplicit false

namespace Tempmail.Mx

open Tempmail.Config (Key Value Settings words AdminRequest Patching normalizeEntry checkEntry allowedPatchSections
  intKeys boolKeys positiveIntKeys)
open Tempmail.Api (Python strip)

def patchedInts : List (String × String) :=
  [("server", "max_message_size_mb"), ("tempmail", "address_lifetime_hours"), ("tempmail", "max_emails_per_address"),
    ("tempmail", "cleanup_interval_hours"), ("database", "pool_size")]

-- What a patch may offer where apply_patch checks less than the Go types do.
structure Loadable (offers : Config.Offers) : Prop where
  style : ∀ value, offers "tempmail" "address_format" = some value → ∃ text, value = .str text
  ints : ∀ key ∈ patchedInts, ∀ number, offers key.1 key.2 = some (.int number) → number ≤ maxInt

def LoadableRequest : AdminRequest → Prop
  | .updateConfig patch => Loadable patch.offers
  | _ => True

def patchable (outer key : String) : Bool := (allowedPatchSections.lookup outer).any (fun allowed => key ∈ allowed)

def confined : String × String × Kind → Bool
  | (outer, key, .int) => patchedInts.contains (outer, key) && intKeys.contains (outer, key)
  | (outer, key, .flag) => boolKeys.contains (outer, key)
  | (outer, key, .text) => [("server", "hostname"), ("tempmail", "address_format")].contains (outer, key)

theorem fields_confined : fields.all (fun spot => !patchable spot.1 spot.2.1 || confined spot) = true := by decide

theorem ints_fields (key : String × String) (member : key ∈ patchedInts) : (key.1, key.2, Kind.int) ∈ fields := by
  have listed : patchedInts.all (fun key => decide ((key.1, key.2, Kind.int) ∈ fields)) = true := by decide
  exact of_decide_eq_true (List.all_eq_true.mp listed key member)

theorem checked_positive (held : Value) (outer key : String) (number : Int) (member : (outer, key) ∈ positiveIntKeys)
    (checked : checkEntry held outer key (.int number) = .ok ()) : 1 ≤ number := by
  have whole : ∀ pair ∈ positiveIntKeys, pair ∈ intKeys := by decide
  have checked := Config.checked_shape held (.int number) outer key checked
  rw [Config.checkShape] at checked
  simp only [whole _ member, if_true] at checked
  obtain ⟨_, -, checked⟩ := Config.bind_ok _ _ _ checked
  obtain ⟨_, passed, -⟩ := Config.bind_ok _ _ _ checked
  have large := Config.refuse_ok _ _ passed
  simp only [member, decide_true, Bool.true_and, Value.smaller, decide_eq_false_iff_not] at large
  omega

theorem normalized_text (python : Python) (outer key : String) (value : Value) (text : String)
    (same : normalizeEntry python outer key value = .str text) : ∃ given, value = .str given := by
  cases value with
  | str given => exact ⟨given, rfl⟩
  | _ => cases same

section Patch

variable (printed : Rat → String) (python : Python) (entries after : Entries) (offers : Config.Offers) (changed : Config.Changes)
  (patching : Patching python (.map entries) offers (.map after, changed))

include patching

theorem patched_group (outer : String) (shaped : (group entries outer).isSome = true) : (group after outer).isSome = true := by
  rcases patching.sections outer with same | ⟨-, inner, present⟩
  · have same : after.lookup (.str outer) = entries.lookup (.str outer) := same
    rw [group, same]
    exact shaped
  · have present : after.lookup (.str outer) = some (.map inner) := present
    rw [group, present]
    rfl

inductive Left (outer key : String) : Prop where
  | kept (same : (Value.map after).setting outer key = (Value.map entries).setting outer key)
  | given (value held : Value) (offered : offers outer key = some value) (known : patchable outer key = true)
      (checked : checkEntry held outer key value = .ok ())
      (now : (Value.map after).setting outer key = some (normalizeEntry python outer key value))

theorem patched_setting (outer key : String) : Left python entries after offers outer key := by
  have settings := patching.settings outer key
  cases offer : offers outer key with
  | none =>
      rw [offer, Option.map_none, Option.none_or] at settings
      exact .kept settings
  | some value =>
      rw [offer, Option.map_some, Option.some_or] at settings
      obtain ⟨⟨allowed, known, member⟩, held, checked⟩ := patching.offered outer key value offer
      exact .given value held offer (by rw [patchable, known]; simpa using member) checked settings

-- A field of the MX takes whatever a loadable patch leaves in its key.
theorem patched_reads (loadable : Loadable offers) (spot : String × String × Kind) (member : spot ∈ fields)
    (reads : spot.2.2.reads printed entries spot.1 spot.2.1 = true) : spot.2.2.reads printed after spot.1 spot.2.1 = true := by
  obtain ⟨outer, key, kind⟩ := spot
  dsimp only at reads ⊢
  obtain ⟨shaped, taken⟩ := (reads_iff printed entries outer key kind).mp reads
  refine (reads_iff printed after outer key kind).mpr
    ⟨patched_group python entries after offers changed patching outer shaped, ?_⟩
  cases patched_setting python entries after offers changed patching outer key with
  | kept same =>
      rw [same]
      exact taken
  | given value held offered known checked now =>
      have confines := List.all_eq_true.mp fields_confined _ member
      simp only [known, Bool.not_true, Bool.false_or] at confines
      rw [now]
      intro left same
      rw [← Option.some.inj same]
      cases kind with
      | int =>
          simp only [confined, Bool.and_eq_true, List.contains_iff_mem] at confines
          obtain ⟨number, rfl⟩ := Config.checked_int held value outer key confines.2 checked
          have bounded := loadable.ints (outer, key) confines.1 number offered
          simp [normalizeEntry, Kind.takes, asInt, Int.not_lt.mpr bounded]
      | flag =>
          simp only [confined, List.contains_iff_mem] at confines
          obtain ⟨flag, rfl⟩ := Config.checked_bool held value outer key confines checked
          rfl
      | text =>
          simp only [confined, List.contains_iff_mem, List.mem_cons, List.not_mem_nil, or_false, Prod.mk.injEq] at confines
          have worded : ∃ text, value = .str text := by
            rcases confines with ⟨rfl, rfl⟩ | ⟨rfl, rfl⟩
            · obtain ⟨text, rfl, -⟩ := Config.checked_hostname held value checked
              exact ⟨text, rfl⟩
            · exact loadable.style value offered
          obtain ⟨text, rfl⟩ := worded
          simp only [normalizeEntry]
          split <;> rfl

theorem patched_whole (loadable : Loadable offers) (outer key : String) (member : (outer, key) ∈ patchedInts)
    (positive : (outer, key) ∈ positiveIntKeys) (whole : Whole ((Value.map entries).setting outer key)) :
    Whole ((Value.map after).setting outer key) := by
  cases patched_setting python entries after offers changed patching outer key with
  | kept same =>
      rw [same]
      exact whole
  | given value held offered known checked now =>
      have ints : ∀ pair ∈ positiveIntKeys, pair ∈ intKeys := by decide
      obtain ⟨number, rfl⟩ := Config.checked_int held value outer key (ints _ positive) checked
      have least := checked_positive held outer key number positive checked
      have bounded := loadable.ints (outer, key) member number offered
      rw [now]
      intro left same
      cases same
      exact ⟨number, rfl, by omega, by rw [minInt]; omega, bounded⟩

theorem patched_flagged (outer key : String) (flags : (outer, key) ∈ boolKeys)
    (flagged : Flagged ((Value.map entries).setting outer key)) :
    Flagged ((Value.map after).setting outer key) := by
  cases patched_setting python entries after offers changed patching outer key with
  | kept same =>
      rw [same]
      exact flagged
  | given value held offered known checked now =>
      obtain ⟨flag, rfl⟩ := Config.checked_bool held value outer key flags checked
      exact ⟨flag, now⟩

theorem patched_agreed (loadable : Loadable offers) (agreed : Agreed (.map entries)) : Agreed (.map after) := by
  have left := patched_setting python entries after offers changed patching
  have flags := patched_flagged python entries after offers changed patching "validation"
  have wholes := patched_whole python entries after offers changed patching loadable
  constructor
  · rcases patching.sections "domains" with same | ⟨known, -⟩
    · rw [same]
      exact agreed.domains
    · exact absurd known (by decide)
  · exact wholes _ _ (by decide) (by decide) agreed.maxMessageSizeMb
  · cases left "server" "hostname" with
    | kept same =>
        rw [same]
        exact agreed.hostname
    | given value held offered known checked now =>
        obtain ⟨text, rfl, valid⟩ := Config.checked_hostname held value checked
        rw [now]
        intro found same
        exact ⟨python.lower (strip text), (Option.some.inj same).symm, Config.hostname_named python text valid⟩
  · exact wholes _ _ (by decide) (by decide) agreed.maxEmailsPerAddress
  · cases left "tempmail" "address_format" with
    | kept same =>
        rw [same]
        exact agreed.addressFormat
    | given value held offered known checked now =>
        obtain ⟨text, rfl⟩ := loadable.style value offered
        exact ⟨text, now⟩
  · exact flags _ (by decide) agreed.checkDkim
  · exact flags _ (by decide) agreed.checkSpf
  · exact flags _ (by decide) agreed.checkDmarc
  · exact flags _ (by decide) agreed.storeResults
  · cases left "tls" "enabled" with
    | kept same =>
        rw [same]
        exact agreed.tlsEnabled
    | given value held offered known checked now =>
        obtain ⟨flag, rfl⟩ := Config.checked_bool held value "tls" "enabled" (by decide) checked
        rw [now]
        intro found same
        exact ⟨flag, (Option.some.inj same).symm⟩

theorem loadable_of_patched (readable : Readable printed after) (agreed : Agreed (.map after)) : Loadable offers := by
  constructor
  · intro value offered
    have settings := patching.settings "tempmail" "address_format"
    obtain ⟨text, held⟩ := agreed.addressFormat
    rw [offered, Option.map_some, Option.some_or, held, Option.some.injEq] at settings
    exact normalized_text python _ _ value text settings.symm
  · intro key member number offered
    have settings := patching.settings key.1 key.2
    rw [offered, Option.map_some, Option.some_or] at settings
    have taken := ((reads_iff printed after key.1 key.2 .int).mp (readable.taken _ (ints_fields key member))).2 _ settings
    by_contra large
    simp [normalizeEntry, Kind.takes, asInt, Int.not_le.mp large] at taken

end Patch

section Edits

variable (printed : Rat → String) (python : Python)

def sections : List String := ["database", "server", "tls", "tempmail", "validation", "logging"]

theorem loads_readable (entries : Entries) (loads : Loads printed (.map entries)) : Readable printed entries := by
  obtain ⟨raw, reads, -⟩ := loads
  obtain ⟨_, ⟨⟩, readable⟩ := (unmarshal_readable printed (.map entries)).mp (by rw [reads]; rfl)
  exact readable

theorem loads_kept (entries after : Entries) (texts : List String) (loads : Loads printed (.map entries))
    (readable : Readable printed after)
    (url : (Value.map after).setting "database" "url" = (Value.map entries).setting "database" "url")
    (listed : (Value.map after).top "domains" = some (words texts)) (named : texts ≠ []) : Loads printed (.map after) := by
  obtain ⟨raw, reads, reached, -⟩ := loads
  obtain ⟨file, readsAfter⟩ := Option.isSome_iff_exists.mp ((unmarshal_readable printed (.map after)).mpr ⟨after, rfl, readable⟩)
  obtain ⟨_, ⟨⟩, was⟩ := (unmarshal_iff printed (.map entries) raw).mp reads
  obtain ⟨_, ⟨⟩, is⟩ := (unmarshal_iff printed (.map after) file).mp readsAfter
  have before := nested_reads _ _ _ _ _ _ was.url
  have now := nested_reads _ _ _ _ _ _ is.url
  rw [url, before, Option.some.injEq] at now
  have domains := is.domains
  have listed : after.lookup (.str "domains") = some (words texts) := listed
  rw [field, listed, decoded, words_decoded] at domains
  have same : texts = file.domains := Option.some.inj domains
  exact ⟨file, readsAfter, now ▸ reached, same ▸ named⟩

-- An edit of domains or of a section that is not the MX's.
theorem frame_accepts (entries after : Entries) (texts : List String)
    (same : ∀ outer ∈ sections, (Value.map after).top outer = (Value.map entries).top outer)
    (listed : (Value.map after).top "domains" = some (words texts)) (named : texts ≠ []) (loads : Loads printed (.map entries))
    (agreed : Agreed (.map entries)) : Loads printed (.map after) ∧ Agreed (.map after) := by
  have settings : ∀ outer ∈ sections, ∀ key, (Value.map after).setting outer key = (Value.map entries).setting outer key := by
    intro outer member key
    rw [Value.setting, same outer member, Value.setting]
  have readable : Readable printed after := by
    have readable := loads_readable printed entries loads
    constructor
    · have listed : after.lookup (.str "domains") = some (words texts) := listed
      rw [field, listed, decoded, words_decoded]
      rfl
    · intro spot member
      have within : ∀ spot ∈ fields, spot.1 ∈ sections := by decide
      have lookups : after.lookup (.str spot.1) = entries.lookup (.str spot.1) := same spot.1 (within spot member)
      obtain ⟨shaped, taken⟩ := (reads_iff printed entries _ _ _).mp (readable.taken spot member)
      refine (reads_iff printed after _ _ _).mpr ⟨?_, ?_⟩
      · rw [group, lookups]
        exact shaped
      · rw [settings spot.1 (within spot member)]
        exact taken
  refine ⟨loads_kept printed entries after texts loads readable (settings _ (by decide) _) listed named,
    ⟨⟨texts, listed⟩, ?_, ?_, ?_, ?_,
    ?_, ?_, ?_, ?_, ?_⟩⟩
  · rw [settings _ (by decide)]
    exact agreed.maxMessageSizeMb
  · rw [settings _ (by decide)]
    exact agreed.hostname
  · rw [settings _ (by decide)]
    exact agreed.maxEmailsPerAddress
  · rw [settings _ (by decide)]
    exact agreed.addressFormat
  · rw [settings _ (by decide)]
    exact agreed.checkDkim
  · rw [settings _ (by decide)]
    exact agreed.checkSpf
  · rw [settings _ (by decide)]
    exact agreed.checkDmarc
  · rw [settings _ (by decide)]
    exact agreed.storeResults
  · rw [settings _ (by decide)]
    exact agreed.tlsEnabled

theorem configured_words (config : Value) (texts : List String) (listed : config.top "domains" = some (words texts)) :
    Config.configuredDomains config = .ok (texts.map .str) := by
  cases config with
  | map entries =>
      have listed : entries.lookup (.str "domains") = some (words texts) := listed
      simp only [Config.configuredDomains, Value.get, listed, Option.getD_some, bind, Except.bind]
      cases texts with
      | nil => rfl
      | cons text rest => rfl
  | _ => cases listed

theorem reloadable_named (config : Value) (texts : List String) (takes : Config.reloadable config = .ok ())
    (listed : config.top "domains" = some (words texts)) : texts ≠ [] := by
  cases config with
  | map entries =>
      have listed : entries.lookup (.str "domains") = some (words texts) := listed
      intro empty
      rw [Config.reloadable, listed, empty] at takes
      cases takes
  | _ => cases listed

theorem domains_accepts (entries : Entries) (edited : Value) (texts : List String)
    (stored : (Value.map entries).setItem "domains" (words texts) = .ok edited) (takes : Config.reloadable edited = .ok ())
    (loads : Loads printed (.map entries)) (agreed : Agreed (.map entries)) : Loads printed edited ∧ Agreed edited := by
  have tops := fun other => Config.set_item_top (.map entries) edited (words texts) "domains" other stored
  have listed : edited.top "domains" = some (words texts) := by rw [tops, if_pos rfl]
  have named := reloadable_named edited texts takes listed
  cases stored
  refine frame_accepts printed entries _ texts ?_ listed named loads agreed
  intro outer member
  have apart : ∀ outer ∈ sections, outer ≠ "domains" := by decide
  rw [tops, if_neg (apart outer member)]

theorem uncaught_ok {α : Type} (result : Except Config.Raised α) (value : α) (done : Config.uncaught result = .ok value) :
    result = .ok value := by
  cases result with
  | ok found =>
      cases done
      rfl
  | error raised => cases done

theorem words_append (texts : List String) (domain : String) :
    .list (texts.map .str ++ [.str domain]) = words (texts ++ [domain]) := by
  simp [words]

theorem words_without (texts : List String) (domain : String) :
    .list ((texts.map .str).filter (fun d => !d.same (.str domain))) = words (texts.filter (fun text => text != domain)) := by
  rw [words, List.filter_map]
  rfl

theorem add_accepts (entries : Entries) (edited : Value) (domain : String) (loads : Loads printed (.map entries))
    (agreed : Agreed (.map entries)) (edits : (AdminRequest.addDomain domain).edit python (.map entries) = .ok edited)
    (takes : Config.reloadable edited = .ok ()) : Loads printed edited ∧ Agreed edited := by
  obtain ⟨texts, listed⟩ := agreed.domains
  rw [AdminRequest.edit, configured_words (.map entries) texts listed] at edits
  simp only [Config.uncaught, bind, Except.bind] at edits
  split at edits
  · cases edits
  · split at edits
    · cases edits
    · rw [words_append] at edits
      exact domains_accepts printed entries edited _ (uncaught_ok _ _ edits) takes loads agreed

theorem remove_accepts (entries : Entries) (edited : Value) (domain : String) (loads : Loads printed (.map entries))
    (agreed : Agreed (.map entries)) (edits : (AdminRequest.removeDomain domain).edit python (.map entries) = .ok edited)
    (takes : Config.reloadable edited = .ok ()) : Loads printed edited ∧ Agreed edited := by
  obtain ⟨texts, listed⟩ := agreed.domains
  rw [AdminRequest.edit, configured_words (.map entries) texts listed] at edits
  simp only [Config.uncaught, bind, Except.bind] at edits
  split at edits
  · cases edits
  · split at edits
    · cases edits
    · rw [words_without] at edits
      exact domains_accepts printed entries edited _ (uncaught_ok _ _ edits) takes loads agreed

theorem regenerate_accepts (entries : Entries) (edited : Value) (newKey : String) (loads : Loads printed (.map entries))
    (agreed : Agreed (.map entries)) (edits : (AdminRequest.apikeyRegenerate newKey).edit python (.map entries) = .ok edited)
    (takes : Config.reloadable edited = .ok ()) : Loads printed edited ∧ Agreed edited := by
  have stored : (Value.map entries).setNested "integration" "api_key" (.str newKey) = .ok edited := uncaught_ok _ _ edits
  have tops := Config.set_nested_top (.map entries) edited (.str newKey) "integration" "api_key" stored
  have apart : ∀ outer ∈ sections, outer ≠ "integration" := by decide
  obtain ⟨texts, listed⟩ := agreed.domains
  rw [← tops "domains" (by decide)] at listed
  have named := reloadable_named edited texts takes listed
  cases edited with
  | map after =>
    exact frame_accepts printed entries after texts
      (fun outer member => tops outer (apart outer member)) listed named loads agreed
  | _ => cases listed

theorem patch_accepts_iff (entries : Entries) (patch edited : Value) (changed : Config.Changes)
    (loads : Loads printed (.map entries))
    (agreed : Agreed (.map entries)) (accepted : Config.applyPatch python (.map entries) patch = .ok (edited, changed))
    (takes : Config.reloadable edited = .ok ()) : (Loads printed edited ∧ Agreed edited) ↔ Loadable patch.offers := by
  obtain ⟨patching, after, rfl⟩ := Config.patch_applied python (.map entries) patch _ accepted
  constructor
  · intro ⟨loadsAfter, agreedAfter⟩
    have readable := loads_readable printed after loadsAfter
    exact loadable_of_patched printed python entries after patch.offers changed patching readable agreedAfter
  · intro loadable
    have was := loads_readable printed entries loads
    have agreedAfter := patched_agreed python entries after patch.offers changed patching loadable agreed
    obtain ⟨texts, listed⟩ := agreedAfter.domains
    have readable : Readable printed after := by
      have lookups : after.lookup (.str "domains") = some (words texts) := listed
      constructor
      · rw [field, lookups, decoded, words_decoded]
        rfl
      · intro spot member
        exact patched_reads printed python entries after patch.offers changed patching loadable spot member
          (was.taken spot member)
    have url : (Value.map after).setting "database" "url" = (Value.map entries).setting "database" "url" := by
      cases patched_setting python entries after patch.offers changed patching "database" "url" with
      | kept same => exact same
      | given value held offered known checked now => exact absurd known (by decide)
    exact ⟨loads_kept printed entries after texts loads readable url listed (reloadable_named _ texts takes listed), agreedAfter⟩

-- One edit that reload_settings takes, of a file the two loaders agree on.
theorem change_accepts_iff (request : AdminRequest) (entries : Entries) (edited : Value) (loads : Loads printed (.map entries))
    (agreed : Agreed (.map entries)) (change : request.change python (.map entries) = .ok edited)
    (takes : Config.reloadable edited = .ok ()) : (Loads printed edited ∧ Agreed edited) ↔ LoadableRequest request := by
  obtain ⟨prepared, prepares, edits⟩ := Config.bind_ok _ _ _ change
  cases request with
  | addDomain domain =>
      rw [AdminRequest.prepare] at prepares
      cases valid : Config.validateDomainFormat python domain with
      | error refusal =>
          rw [valid] at prepares
          cases prepares
      | ok lowered =>
          rw [valid] at prepares
          cases prepares
          exact iff_of_true (add_accepts printed python entries edited lowered loads agreed edits takes) trivial
  | removeDomain domain =>
      cases prepares
      exact iff_of_true (remove_accepts printed python entries edited _ loads agreed edits takes) trivial
  | updateConfig patch =>
      cases prepares
      rw [AdminRequest.edit] at edits
      cases patched : Config.applyPatch python (.map entries) patch with
      | ok result =>
          rw [patched] at edits
          cases edits
          exact patch_accepts_iff printed python entries patch _ _ loads agreed patched takes
      | error raised =>
          rw [patched] at edits
          cases raised <;> cases edits
  | apikeyRegenerate newKey =>
      cases prepares
      exact iff_of_true (regenerate_accepts printed python entries edited newKey loads agreed edits takes) trivial

end Edits

section Run

variable (yaml : Config.Yaml) (python : Python) (printed : Rat → String) (decode : Bytes → Option FileConfig)

structure ReadAlike (content : Bytes) (config : Value) : Prop where
  safeLoad : yaml.safeLoad content = .ok config
  unmarshal : decode content = unmarshal printed config

def MxAgrees (held : Config.Held) : Prop := ∃ file, loadFile decode held.1.main = .ok file ∧ SameValues held.2 file

structure Stands (held : Config.Held) (config : Value) : Prop where
  file : ∃ content, held.1.main = some content ∧ ReadAlike yaml printed decode content config
  loaded : ∃ old, Config.apply config old = (.ok (), held.2)

def DumpsAlike (held : Config.Held) (arrival : Config.Arrival) : Prop :=
  ∀ config edited, Config.readConfig yaml held.1 = .ok config → arrival.request.change python config = .ok edited →
    ReadAlike yaml printed decode (yaml.safeDump edited) edited

theorem load_file_ok (content : Bytes) (file : FileConfig) :
    loadFile decode (some content) = .ok file ↔
      ∃ raw, decode content = some raw ∧ raw.database.url ≠ "" ∧ raw.domains ≠ [] ∧ file = raw.defaulted := by
  rw [loadFile]
  cases decode content with
  | none => simp
  | some raw =>
      simp only [Option.some.injEq, List.length_eq_zero_iff]
      by_cases url : raw.database.url = ""
      · simp [url]
      · by_cases empty : raw.domains = []
        · simp [url, empty]
        · simp [url, empty, FileConfig.defaulted, eq_comm]

theorem load_unread (content : Bytes) (unread : decode content = none) : loadFile decode (some content) = .error .unparsable := by
  rw [loadFile, unread]

theorem stands_agrees_iff (held : Config.Held) (config : Value) (stands : Stands yaml printed decode held config) :
    MxAgrees decode held ↔ Loads printed config ∧ Agreed config := by
  obtain ⟨content, main, alike⟩ := stands.file
  obtain ⟨old, applied⟩ := stands.loaded
  rw [MxAgrees, main]
  simp only [load_file_ok, alike.unmarshal]
  constructor
  · intro ⟨file, ⟨raw, reads, url, named, file_eq⟩, same⟩
    rw [file_eq] at same
    exact ⟨⟨raw, reads, url, named⟩, (same_values_iff printed config old held.2 raw reads named applied).mp same⟩
  · intro ⟨⟨raw, reads, url, named⟩, agreed⟩
    exact ⟨raw.defaulted, ⟨raw, reads, url, named, rfl⟩,
      (same_values_iff printed config old held.2 raw reads named applied).mpr agreed⟩

theorem loads_usable (config : Value) (loads : Loads printed config) :
    ∃ entries, config = .map entries ∧ config.usable = true := by
  obtain ⟨raw, reads, -, named⟩ := loads
  obtain ⟨entries, rfl, read⟩ := loaded_mapping printed config raw reads named
  cases entries with
  | nil =>
      have empty : raw.domains = [] := (Option.some.inj read.domains).symm
      exact absurd empty named
  | cons entry rest => exact ⟨entry :: rest, rfl, rfl⟩

-- A request answered success keeps the two processes together exactly if it is
-- loadable.
theorem served_stands (held : Config.Held) (config : Value) (arrival : Config.Arrival)
    (stands : Stands yaml printed decode held config)
    (agrees : MxAgrees decode held) (faithful : DumpsAlike yaml python printed decode held arrival)
    (ok : ((Config.admin yaml python).step held arrival).2 = .ok ()) :
    (∃ edited, Stands yaml printed decode ((Config.admin yaml python).step held arrival).1 edited) ∧
      (MxAgrees decode ((Config.admin yaml python).step held arrival).1 ↔ LoadableRequest arrival.request) := by
  obtain ⟨loads, agreed⟩ := (stands_agrees_iff yaml printed decode held config stands).mp agrees
  obtain ⟨entries, rfl, usable⟩ := loads_usable printed config loads
  obtain ⟨content, main, alike⟩ := stands.file
  have parsed : Config.opened yaml held.1.main = .ok (.map entries) := by
    rw [main]
    exact alike.safeLoad
  have reads := Config.read_usable yaml held.1 (.map entries) parsed usable
  obtain ⟨found, edited, served⟩ := Config.serve_ok yaml python arrival.request arrival.first arrival.second held ok
  have found_eq : found = .map entries := Except.ok.inj (served.read.symm.trans reads)
  have change := served.change
  rw [found_eq] at change
  have dumped := faithful (.map entries) edited reads change
  have written : Config.opened yaml ((Config.admin yaml python).step held arrival).1.1.main = .ok edited := by
    rw [show ((Config.admin yaml python).step held arrival).1.1.main = some (yaml.safeDump edited) from served.main]
    exact dumped.safeLoad
  obtain ⟨taken, mapped, takes, -⟩ := (Config.reload_takes_iff yaml _ held.2).mp (by rw [served.reloaded])
  have taken_eq : taken = edited :=
    Except.ok.inj ((Config.load_parsed yaml _ taken (Config.reloadable_usable taken takes) mapped).symm.trans written)
  rw [taken_eq] at takes
  have applied := Config.reload_parsed yaml _ held.2 edited written (Config.reloadable_usable edited takes) takes
  have next : Stands yaml printed decode ((Config.admin yaml python).step held arrival).1 edited :=
    ⟨⟨yaml.safeDump edited, served.main, dumped⟩, held.2, applied.symm.trans served.reloaded⟩
  refine ⟨⟨edited, next⟩, ?_⟩
  rw [stands_agrees_iff yaml printed decode _ edited next]
  exact change_accepts_iff printed python arrival.request entries edited loads agreed change takes

-- What a request left: the files and settings, or a config.yaml with a lone surrogate.
-- The settings loaded from the latter are no Values; it is only asked to load.
inductive Standing where
  | plain (held : Config.Held)
  | lone (content : Bytes)

def Standing.agrees : Standing → Prop
  | .plain held => MxAgrees decode held
  | .lone content => ∃ file, loadFile decode (some content) = .ok file

variable (dump : Value → Config.Body → Bytes)

-- Requests that are all answered success, and what each of them left. What follows an
-- update with a lone surrogate is left open: the MX has lost the file by then.
inductive Run : Config.Held → List Config.Call → List Standing → Prop where
  | nil (held : Config.Held) : Run held [] []
  | plain (held : Config.Held) (call : Config.Call) (rest : List Config.Call) (lefts : List Standing)
      (whole : call.asked.lone = false)
      (faithful : DumpsAlike yaml python printed decode held call.arrival)
      (ok : ((Config.admin yaml python).step held call.arrival).2 = .ok ())
      (later : Run ((Config.admin yaml python).step held call.arrival).1 rest lefts) :
      Run held (call :: rest) (.plain ((Config.admin yaml python).step held call.arrival).1 :: lefts)
  | lone (held : Config.Held) (call : Config.Call) (body : Config.Body) (content : Bytes) (rest : List Config.Call)
      (lefts : List Standing) (asked : call.asked = .updateConfig body) (stray : body.lone = true)
      (ok : Config.putLone yaml python dump body call.first held = .ok content) : Run held (call :: rest) (.lone content :: lefts)

-- The request offers no lone surrogate, and nothing else the MX cannot take.
def LoadableCall (call : Config.Call) : Prop := call.asked.lone = false ∧ LoadableRequest call.asked.request

-- PyYAML writes a lone surrogate as an escape, which yaml.v3 takes for an error.
def RefusesSurrogates : Prop := ∀ config body, body.lone = true → decode (dump config body) = none

theorem put_lone_content (body : Config.Body) (disk : Config.Disk) (held : Config.Held) (content : Bytes)
    (ok : Config.putLone yaml python dump body disk held = .ok content) : ∃ config, content = dump config body := by
  obtain ⟨config, -, ok⟩ := Config.bind_ok _ _ _ ok
  obtain ⟨patched, -, ok⟩ := Config.bind_ok _ _ _ ok
  refine ⟨config, ?_⟩
  split at ok
  · cases ok
  · split at ok
    · obtain ⟨_, -, ok⟩ := Config.bind_ok _ _ _ ok
      split at ok
      · cases ok
      · exact (Except.ok.inj ok).symm
    · cases ok

theorem run_agrees_iff (surrogates : RefusesSurrogates decode dump) (held : Config.Held)
    (calls : List Config.Call) (lefts : List Standing)
    (run : Run yaml python printed decode dump held calls lefts) (config : Value)
    (stands : Stands yaml printed decode held config)
    (agrees : MxAgrees decode held) : (∀ left ∈ lefts, left.agrees decode) ↔ ∀ call ∈ calls, LoadableCall call := by
  induction run generalizing config with
  | nil held => exact iff_of_true (by simp) (by simp)
  | plain held call rest lefts whole faithful ok later ih =>
      obtain ⟨⟨edited, next⟩, loadable⟩ :=
        served_stands yaml python printed decode held config call.arrival stands agrees faithful ok
      rw [List.forall_mem_cons, List.forall_mem_cons, LoadableCall, iff_true_intro whole, true_and]
      constructor
      · intro ⟨now, rest⟩
        exact ⟨loadable.mp now, (ih edited next now).mp rest⟩
      · intro ⟨now, rest⟩
        have agrees := loadable.mpr now
        exact ⟨agrees, (ih edited next agrees).mpr rest⟩
  | lone held call body content rest lefts asked stray ok =>
      rw [List.forall_mem_cons, List.forall_mem_cons]
      refine iff_of_false (fun both => ?_) (fun both => ?_)
      · obtain ⟨before, rfl⟩ := put_lone_content yaml python dump body call.first held content ok
        obtain ⟨file, loads⟩ := both.1
        rw [load_unread decode _ (surrogates before body stray)] at loads
        cases loads
      · have none := both.1.1
        rw [asked, Config.Asked.lone, stray] at none
        cases none

-- The API has started from the file, and every request since was answered
-- success: the MX keeps up with it exactly if the two loaders agreed on that
-- file and every request was loadable.
theorem mx_keeps_up_iff (files : Config.ConfigFiles) (relative : Option Bytes) (settings : Settings) (content : Bytes)
    (config : Value) (file : FileConfig) (calls : List Config.Call) (lefts : List Standing) (main : files.main = some content)
    (alike : ReadAlike yaml printed decode content config) (loads : loadFile decode files.main = .ok file)
    (started : Config.loadConfig yaml files relative = .ok settings) (surrogates : RefusesSurrogates decode dump)
    (run : Run yaml python printed decode dump (files, settings) calls lefts) :
    (MxAgrees decode (files, settings) ∧ ∀ left ∈ lefts, left.agrees decode) ↔ Agreed config ∧
    ∀ call ∈ calls, LoadableCall call := by
  have fileLoads : Loads printed config := by
    rw [main, load_file_ok, alike.unmarshal] at loads
    obtain ⟨raw, reads, url, named, -⟩ := loads
    exact ⟨raw, reads, url, named⟩
  obtain ⟨entries, rfl, usable⟩ := loads_usable printed config fileLoads
  have applied := (Config.load_config_iff yaml files relative content
    (.map entries) settings main alike.safeLoad usable).mp started
  have stands : Stands yaml printed decode (files, settings) (.map entries) := ⟨⟨content, main, alike⟩, Config.blank, applied⟩
  have starts : MxAgrees decode (files, settings) ↔ Agreed (.map entries) :=
    (stands_agrees_iff yaml printed decode (files, settings) (.map entries) stands).trans (and_iff_right fileLoads)
  rw [← starts]
  exact and_congr_right fun agrees =>
    run_agrees_iff yaml python printed decode dump surrogates (files, settings) calls lefts run (.map entries) stands agrees

end Run

section Example

def decodeWith (yaml : Config.Yaml) (content : Bytes) : Option FileConfig :=
  match yaml.safeLoad content with
  | .ok config => unmarshal (fun _ => "") config
  | .error _ => none

theorem decode_alike (yaml : Config.Yaml) (config : Value) (reads : yaml.Reads config) :
    ReadAlike yaml (fun _ => "") (decodeWith yaml) (yaml.safeDump config) config := by
  rw [Config.Yaml.Reads] at reads
  exact ⟨reads, by rw [decodeWith, reads]⟩

def sharedConfig (domains : List String) (style : Value) : Value :=
  .map [(.str "domains", words domains), (.str "database", .map [(.str "url", .str "db")]),
    (.str "tempmail", .map [(.str "address_format", style)]),
    (.str "validation", .map [(.str "check_dkim", .bool true), (.str "check_spf", .bool true), (.str "check_dmarc", .bool true),
      (.str "store_results", .bool true)])]

def sharedStart : Value := sharedConfig ["a.org"] (.str "random")
def sharedAdded : Value := sharedConfig ["a.org", "b.org"] (.str "random")
def sharedBroken : Value := sharedConfig ["a.org"] (.map [])

def sharedFile : FileConfig where
  domains := ["a.org"]
  database := { url := "db" }
  validation := ⟨true, true, true⟩
  addressFormat := "random"
  storeResults := true

def additionOf (domain : String) : Config.Call := ⟨.addDomain domain, .fine, .fine⟩
def stylePatch : Value := .map [(.str "tempmail", .map [(.str "address_format", .map [])])]
def styleArrival : Config.Arrival := ⟨.updateConfig stylePatch, .fine, .fine⟩

theorem added_apart : Config.blockDump sharedStart ≠ Config.blockDump sharedAdded :=
  Config.block_dump_apart [] _ (.str "domains", words ["a.org"]) (.str "domains", words ["a.org", "b.org"]) (by decide +kernel)

theorem broken_apart : Config.blockDump sharedStart ≠ Config.blockDump sharedBroken :=
  Config.block_dump_apart [(.str "domains", words ["a.org"]), (.str "database", .map [(.str "url", .str "db")])] _
    (.str "tempmail", .map [(.str "address_format", .str "random")]) (.str "tempmail", .map [(.str "address_format", .map [])])
    (by decide +kernel)

theorem shared_unmarshal : unmarshal (fun _ => "") sharedStart = some sharedFile := by
  refine (unmarshal_iff (fun _ => "") sharedStart _).mpr ⟨_, rfl, ?_⟩
  refine ⟨?_, ?_, ?_, ?_, ⟨0, ?_, rfl⟩, ?_, ?_, ?_, ?_, ?_, ?_, ?_, ?_, ?_, ?_, ?_, ?_, ?_, ?_, ?_, ?_, ?_, ?_⟩ <;> rfl

def sharedYaml (other : Value) : Config.Yaml := Config.documentYaml [sharedStart, other]

def sharedFiles (other : Value) : Config.ConfigFiles := ⟨some ((sharedYaml other).safeDump sharedStart), none⟩

def sharedHeld (other : Value) : Config.Held := (sharedFiles other, Config.settingsOf sharedStart)

section Other

variable (other : Value) (apart : Config.blockDump sharedStart ≠ Config.blockDump other)

include apart

theorem shared_alike (config : Value) (known : config ∈ [sharedStart, other]) :
    ReadAlike (sharedYaml other) (fun _ => "") (decodeWith (sharedYaml other)) ((sharedYaml other).safeDump config) config := by
  have distinct : [sharedStart, other].Pairwise (fun left right => Config.blockDump left ≠ Config.blockDump right) := by
    rw [List.pairwise_pair]
    exact apart
  exact decode_alike (sharedYaml other) config (Config.document_reads [sharedStart, other] distinct config known)

theorem shared_start :
    ReadAlike (sharedYaml other) (fun _ => "") (decodeWith (sharedYaml other)) ((sharedYaml other).safeDump sharedStart)
    sharedStart := shared_alike other apart sharedStart List.mem_cons_self

theorem shared_loads : loadFile (decodeWith (sharedYaml other)) (sharedFiles other).main = .ok sharedFile.defaulted := by
  rw [sharedFiles, load_file_ok, (shared_start other apart).unmarshal, shared_unmarshal]
  exact ⟨sharedFile, rfl, by decide, by decide, rfl⟩

theorem shared_parsed : Config.opened (sharedYaml other) (sharedFiles other).main = .ok sharedStart := by
  rw [sharedFiles, Config.opened]
  exact (shared_start other apart).safeLoad

theorem shared_read : Config.readConfig (sharedYaml other) (sharedFiles other) = .ok sharedStart :=
  Config.read_usable (sharedYaml other) (sharedFiles other) sharedStart (shared_parsed other apart) rfl

theorem shared_started : Config.loadConfig (sharedYaml other) (sharedFiles other) none = .ok (Config.settingsOf sharedStart) := by
  have whole : Config.apply sharedStart Config.blank = (.ok (), Config.settingsOf sharedStart) := rfl
  exact (Config.load_config_iff (sharedYaml other) (sharedFiles other) none _ sharedStart _ rfl
    (shared_start other apart).safeLoad rfl).mpr
    whole

theorem shared_served (request : AdminRequest) (change : request.change Api.asciiPython sharedStart = .ok other)
    (takes : Config.accepted other) :
    (Config.admin (sharedYaml other) Api.asciiPython).step (sharedHeld other) ⟨request, .fine, .fine⟩ =
      ((⟨some ((sharedYaml other).safeDump other), Config.copyBackup .fine (sharedHeld other).1⟩,
          Config.settingsOf other), .ok ()) :=
  Config.serve_accepted (sharedYaml other) Api.asciiPython request (sharedHeld other) sharedStart other
    (shared_read other apart) change
    (shared_alike other apart other (by simp)).safeLoad takes

theorem shared_dumps (request : AdminRequest) (change : request.change Api.asciiPython sharedStart = .ok other) :
    DumpsAlike (sharedYaml other) Api.asciiPython (fun _ => "") (decodeWith (sharedYaml other)) (sharedHeld other)
      ⟨request, .fine, .fine⟩ := by
  intro config edited read edits
  have config_eq : config = sharedStart := Except.ok.inj (read.symm.trans (shared_read other apart))
  rw [config_eq] at edits
  have edited_eq : edited = other := Except.ok.inj (edits.symm.trans change)
  rw [edited_eq]
  exact shared_alike other apart other (by simp)

end Other

theorem addition_changes : (AdminRequest.addDomain "b.org").change Api.asciiPython sharedStart = .ok sharedAdded := rfl

theorem style_changes : (AdminRequest.updateConfig stylePatch).change Api.asciiPython sharedStart = .ok sharedBroken := rfl

def addedHeld : Config.Held :=
  ((Config.admin (sharedYaml sharedAdded) Api.asciiPython).step (sharedHeld sharedAdded) (additionOf "b.org").arrival).1

def escaped (_ : Value) (_ : Config.Body) : Bytes := []

theorem escaped_refused : RefusesSurrogates (decodeWith (sharedYaml sharedAdded)) escaped := by
  intro config body _
  have unknown : [sharedStart, sharedAdded].find? (fun document => Config.blockDump document == []) = none := by
    rw [List.find?_eq_none, List.forall_mem_cons, List.forall_mem_singleton]
    exact ⟨by decide +kernel, by decide +kernel⟩
  simp only [decodeWith, escaped, sharedYaml, Config.documentYaml, unknown]

theorem addition_run : Run (sharedYaml sharedAdded) Api.asciiPython (fun _ => "") (decodeWith (sharedYaml sharedAdded)) escaped
    (sharedHeld sharedAdded) [additionOf "b.org"] [.plain addedHeld] := by
  have served := shared_served sharedAdded added_apart (.addDomain "b.org") addition_changes ⟨rfl, rfl⟩
  exact .plain _ _ _ _ rfl (shared_dumps sharedAdded added_apart (.addDomain "b.org") addition_changes)
    (congrArg Prod.snd served) (.nil _)

-- A domain added to a file that states every shared key.
theorem addition_keeps_up :
    (MxAgrees (decodeWith (sharedYaml sharedAdded)) (sharedHeld sharedAdded) ∧
      ∀ left ∈ [Standing.plain addedHeld], left.agrees (decodeWith (sharedYaml sharedAdded))) ↔
      Agreed sharedStart ∧ ∀ call ∈ [additionOf "b.org"], LoadableCall call :=
  mx_keeps_up_iff (sharedYaml sharedAdded) Api.asciiPython (fun _ => "") (decodeWith (sharedYaml sharedAdded)) escaped
    (sharedFiles sharedAdded) none (Config.settingsOf sharedStart) _ sharedStart sharedFile.defaulted [additionOf "b.org"]
    [.plain addedHeld] rfl (shared_start sharedAdded added_apart) (shared_loads sharedAdded added_apart)
    (shared_started sharedAdded added_apart) escaped_refused addition_run

-- A token that begins with a lone surrogate is taken, and hidden from the answer.
def loneToken : Config.Body :=
  .map [("admin".toList.map .char, .map [("token".toList.map .char, .str (.surrogate 0 :: "secret-token".toList.map .char))])]

example : loneToken.lone = true ∧
    Config.putLone (sharedYaml sharedAdded) Api.asciiPython escaped loneToken .fine (sharedHeld sharedAdded) = .ok [] := by
  refine ⟨by decide, ?_⟩
  rw [Config.putLone, sharedHeld, shared_read sharedAdded added_apart]
  rfl

-- tempmail.address_format takes any JSON value in the API and a string in Go.
theorem format_patch_unloadable :
    loadFile (decodeWith (sharedYaml sharedBroken)) (sharedFiles sharedBroken).main = .ok sharedFile.defaulted ∧
      Config.loadConfig (sharedYaml sharedBroken) (sharedFiles sharedBroken) none = .ok (Config.settingsOf sharedStart) ∧
      (Config.admin (sharedYaml sharedBroken) Api.asciiPython).answers (sharedHeld sharedBroken) [styleArrival] = [.ok ()] ∧
      loadFile (decodeWith (sharedYaml sharedBroken))
          ((Config.admin (sharedYaml sharedBroken) Api.asciiPython).final (sharedHeld sharedBroken) [styleArrival]).1.main =
        .error .unparsable := by
  have served := shared_served sharedBroken broken_apart (.updateConfig stylePatch) style_changes ⟨rfl, rfl⟩
  have unread : unmarshal (fun _ => "") sharedBroken = none := by rfl
  refine ⟨shared_loads sharedBroken broken_apart, shared_started sharedBroken broken_apart, ?_, ?_⟩
  · rw [Machine.answers_one, styleArrival, served]
  · rw [Machine.final_cons, Machine.final_nil, styleArrival, served]
    exact load_unread _ _ ((shared_alike sharedBroken broken_apart sharedBroken (by simp)).unmarshal.trans unread)

end Example

end Tempmail.Mx
