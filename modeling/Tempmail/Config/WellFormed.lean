import Tempmail.Api.Atomicity
import Tempmail.Config.Edits

set_option autoImplicit false

namespace Tempmail.Config

open Api (Python strip)

def leastInt (outer key : String) : Int := if positiveIntKeys.contains (outer, key) then 1 else 0

structure LowerHostname (text : String) : Prop where
  name : hostnamePattern text.toList = true
  lower : ∀ c ∈ text.toList, c.isUpper = false

-- A username bound; the API reads 3 and 64 where there is none.
def Value.minLength (config : Value) : Value := (config.setting "tempmail" "min_username_length").getD (.int 3)

def Value.maxLength (config : Value) : Value := (config.setting "tempmail" "max_username_length").getD (.int 64)

def minSpot : String × String := ("tempmail", "min_username_length")

def maxSpot : String × String := ("tempmail", "max_username_length")

structure Bounded (config : Value) (least most : Int) : Prop where
  low : config.minLength = .int least
  high : config.maxLength = .int most
  ordered : least ≤ most

def PanelNamed (config : Value) : Prop :=
  config.setting "web" "allow_ip_access" = some (.bool false) →
    ∃ text, config.setting "web" "hostname" = some (.str text) ∧ strip text ≠ ""

structure WellFormed (config : Value) : Prop where
  ints : ∀ outer key value, (outer, key) ∈ intKeys → config.setting outer key = some value →
    ∃ number, value = .int number ∧ leastInt outer key ≤ number
  bools : ∀ outer key value, (outer, key) ∈ boolKeys → config.setting outer key = some value → ∃ flag, value = .bool flag
  lists : ∀ outer key value, (outer, key) ∈ listKeys → config.setting outer key = some value →
    ∃ texts : List String, value = .list (texts.map Value.str)
  bounds : ∃ least most, Bounded config least most
  server : ∀ value, config.setting "server" "hostname" = some value → ∃ text, value = .str text ∧ LowerHostname text
  web : ∀ value, config.setting "web" "hostname" = some value → value.truthy = true → ∃ text, value =
    .str text ∧ LowerHostname text
  panel : PanelNamed config

structure OnlyAt (spots : String → String → Prop) (before after : Value) : Prop where
  mappings : isMapping before ∧ isMapping after
  tops : ∀ top : Key, (∀ outer key, top = .str outer → ¬ spots outer key) → after.find top = before.find top
  shapes : ∀ top : Key, after.find top = before.find top ∨
    (∃ entries, after.find top = some (.map entries)) ∧ ∀ nested, before.find top = some nested → isMapping nested
  inners : ∀ top inner : Key, (∀ outer key, top = .str outer → inner = .str key → ¬ spots outer key) →
    after.inner top inner = before.inner top inner

def differs (before after : Option Value) : Bool := !(before.getD .null).same (after.getD .null)

section Hostnames

theorem lower_alpha (c : Char) : c.toLower.isAlpha = c.isAlpha := by
  by_cases upper : c.isUpper = true
  · rw [Text.lower_letter c upper, Text.alpha_cases, upper, Bool.true_or]
  · rw [Text.lower_same c upper]

theorem lower_fixed (plain : Char) (other : plain.isAlpha = false) (c : Char) : c.toLower = plain ↔ c = plain := by
  by_cases upper : c.isUpper = true
  · constructor
    · intro same
      rw [← same, Text.lower_letter c upper] at other
      cases other
    · intro same
      rw [← same, Text.alpha_cases, upper] at other
      cases other
  · rw [Text.lower_same c upper]

theorem lower_digit (c : Char) : c.toLower.isDigit = c.isDigit := by
  by_cases upper : c.isUpper = true
  · have bounds := (Text.upper_iff c).mp upper
    have code := Text.lower_code c upper
    rw [Bool.eq_iff_iff, Text.digit_iff, Text.digit_iff]
    omega
  · rw [Text.lower_same c upper]

theorem lower_alnum (c : Char) : Api.isAlnum c.toLower = Api.isAlnum c := by
  rw [Api.isAlnum, lower_alpha, lower_digit, Api.isAlnum]

theorem lower_label (label : List Char) : Api.domainLabel (label.map Char.toLower) = Api.domainLabel label := by
  have hyphen (c : Char) : (c.toLower == '-') = (c == '-') := by
    rw [Bool.eq_iff_iff, beq_iff_eq, beq_iff_eq]
    exact lower_fixed '-' (by decide) c
  simp only [Api.domainLabel, List.length_map, List.all_map, Function.comp_def, lower_alnum, hyphen, List.head?_map,
    List.getLast?_map, Option.any_map]

theorem lower_hostname (chars : List Char) : hostnamePattern (chars.map Char.toLower) = hostnamePattern chars := by
  have top (label : List Char) : topLevelLabel (label.map Char.toLower) = topLevelLabel label := by
    simp only [topLevelLabel, List.length_map, List.all_map, Function.comp_def, lower_alpha]
  rw [hostnamePattern, Text.split_map '.' Char.toLower (lower_fixed '.' (by decide)), hostnamePattern]
  simp only [List.length_map, ← List.map_dropLast, List.all_map, Function.comp_def, lower_label,
    List.getLast?_map, Option.any_map, top]

theorem lower_empty (python : Python) : python.lower "" = "" := by
  rw [python.ascii "" fun c member => by cases member]
  rfl

theorem stored_hostname (python : Python) (text : String) (valid : isHostname (strip text) = true) :
    LowerHostname (python.lower (strip text)) := by
  have whole := valid
  rw [isHostname, Api.match_line_solid hostnamePattern _ (Api.strip_last text)] at whole
  have ascii := python.ascii (strip text) fun c member => (Api.username_char_plain c ((hostname_chars text valid).2 c member)).1
  constructor
  · rw [ascii, Text.map_chars_list, lower_hostname, whole]
  · exact python.noUpper (strip text)

theorem host_stored (python : Python) (outer text : String)
    (member : (outer, "hostname") ∈ [("server", "hostname"), ("web", "hostname")]) :
    normalizeEntry python outer "hostname" (.str text) = .str (python.lower (strip text)) := if_pos member

end Hostnames

section Checks

theorem writable_get (config : Value) (outer : String) (writable : config.writable outer) :
    ∃ nested, config.get outer (.map []) = .ok nested ∧
      ∀ key fallback, nested.get key fallback = .ok ((config.setting outer key).getD fallback) := by
  obtain ⟨entries, rfl, mapping⟩ := writable
  obtain ⟨inner, shape⟩ : isMapping ((entries.lookup (.str outer)).getD (.map [])) := by
    cases found : entries.lookup (.str outer) with
    | none => exact ⟨[], rfl⟩
    | some nested => exact mapping nested found
  refine ⟨.map inner, congrArg Except.ok shape, fun key fallback => congrArg Except.ok ?_⟩
  exact nested_get (.map entries) outer key (.map inner) _ fallback (congrArg Except.ok shape) rfl

theorem ok_next {α β ε : Type} (value : α) (next : α → Except ε β) : (Except.ok value >>= next) = next value := rfl

theorem less_refused (order : Except Raised Bool) (message : String) :
    (order >>= fun found => refuse found message) = .ok () ↔ order = .ok false := by
  cases order with
  | error failure => exact ⟨fun done => (by cases done), fun done => (by cases done)⟩
  | ok found =>
      cases found with
      | true => exact ⟨fun done => (by cases done), fun done => (by cases done)⟩
      | false => exact ⟨fun _ => rfl, fun _ => rfl⟩

variable (config value : Value) (writable : config.writable "tempmail")

include writable

theorem min_bound_iff : checkBounds config "tempmail" "min_username_length" value = .ok () ↔
    config.maxLength.lessThan value = .ok false := by
  obtain ⟨nested, present, found⟩ := writable_get config "tempmail" writable
  have other : (("tempmail", "min_username_length") == ("tempmail", "max_username_length")) = false := by decide
  simp only [checkBounds, beq_self_eq_true, if_true, other, Bool.false_eq_true, if_false, present, ok_next, found,
    bind_pure_unit]
  exact less_refused _ _

theorem max_bound_iff : checkBounds config "tempmail" "max_username_length" value = .ok () ↔
    value.lessThan config.minLength = .ok false := by
  obtain ⟨nested, present, found⟩ := writable_get config "tempmail" writable
  have other : (("tempmail", "max_username_length") == ("tempmail", "min_username_length")) = false := by decide
  simp only [checkBounds, beq_self_eq_true, if_true, other, Bool.false_eq_true, if_false, present, ok_next, found]
  exact less_refused _ _

omit writable

theorem named_iff (nested : Value) (held : Option Value) (message : String)
    (found : nested.get "hostname" .null = .ok (held.getD .null)) :
    (webHostname nested >>= fun hostname => refuse (hostname == "") message) = .ok () ↔
      ∃ text, held = some (.str text) ∧ strip text ≠ "" := by
  have silent (value : Value) (other : ∀ text, value ≠ .str text) :
      ¬ ∃ text, some value = some (Value.str text) ∧ strip text ≠ "" := by
    rintro ⟨text, same, -⟩
    exact other text (Option.some.inj same)
  rw [webHostname, found, ok_next]
  cases held with
  | none => exact ⟨fun done => (by cases done), fun named => (by obtain ⟨text, same, -⟩ := named; cases same)⟩
  | some value =>
      cases value with
      | str text => simp [refuse, ok_next]
      | _ =>
          refine ⟨fun done => ?_, fun named => absurd named (silent _ (by intro text same; cases same))⟩
          obtain ⟨hostname, read, named⟩ := bind_ok _ _ _ done
          have named := refuse_ok _ _ named
          simp only [Option.getD_some] at read
          split at read
          · cases read
          · cases read
            cases named

theorem check_panel_iff (config : Value) : checkPanel config = .ok () ↔ config.writable "web" ∧ PanelNamed config := by
  have reads (writable : config.writable "web") : checkPanel config = .ok () ↔ PanelNamed config := by
    obtain ⟨nested, present, found⟩ := writable_get config "web" writable
    simp only [checkPanel, present, ok_next, found, PanelNamed]
    cases allow : config.setting "web" "allow_ip_access" with
    | none => simp
    | some access =>
        cases access with
        | bool flag =>
            cases flag with
            | true => simp
            | false =>
                simp only [Option.getD_some, true_implies]
                exact named_iff nested _ _ (found "hostname" .null)
        | _ => simp
  constructor
  · intro passed
    obtain ⟨web, present, rest⟩ := bind_ok _ _ _ passed
    obtain ⟨allow, held, -⟩ := bind_ok _ _ _ rest
    have writable : config.writable "web" := by
      cases config with
      | map entries =>
          refine ⟨entries, rfl, fun nested found => ?_⟩
          have same := Except.ok.inj present
          rw [found, Option.getD_some] at same
          cases web with
          | map inner => exact ⟨inner, same⟩
          | _ => cases held
      | _ => cases present
    exact ⟨writable, (reads writable).mp passed⟩
  · rintro ⟨writable, named⟩
    exact (reads writable).mpr named

theorem checked_least (held value : Value) (outer key : String) (member : (outer, key) ∈ intKeys)
    (checked : checkEntry held outer key value = .ok ()) : ∃ number, value = .int number ∧ leastInt outer key ≤ number := by
  have free : ∀ pair ∈ intKeys, pair ∉ positiveIntKeys → pair.1 = "rate_limits" ∨ pair =
    ("tempmail", "max_storage_mb") := by decide
  obtain ⟨number, rfl⟩ := checked_int held value outer key member checked
  refine ⟨number, rfl, ?_⟩
  have checked := checked_shape held (.int number) outer key checked
  rw [checkShape] at checked
  simp only [member, if_true] at checked
  obtain ⟨_, -, checked⟩ := bind_ok _ _ _ checked
  obtain ⟨_, positive, checked⟩ := bind_ok _ _ _ checked
  obtain ⟨_, rate, checked⟩ := bind_ok _ _ _ checked
  obtain ⟨_, storage, -⟩ := bind_ok _ _ _ checked
  have positive := refuse_ok _ _ positive
  have rate := refuse_ok _ _ rate
  have storage := refuse_ok _ _ storage
  simp only [Value.smaller, Bool.and_eq_false_imp, decide_eq_true_eq, decide_eq_false_iff_not, Int.not_lt,
    beq_iff_eq] at positive rate storage
  rw [leastInt, List.contains_eq_mem]
  split
  · exact positive (of_decide_eq_true ‹_›)
  · rcases free _ member (mt decide_eq_true ‹_›) with limit | stored
    · exact rate limit
    · exact storage stored

theorem words_texts (items : List Value) (words : ∀ item ∈ items, item.isStr = true) :
    ∃ texts : List String, items = texts.map Value.str := by
  induction items with
  | nil => exact ⟨[], rfl⟩
  | cons item rest ih =>
      obtain ⟨texts, rfl⟩ := ih fun other member => words other (List.mem_cons_of_mem _ member)
      have shaped := words item List.mem_cons_self
      cases item with
      | str text => exact ⟨text :: texts, rfl⟩
      | _ => cases shaped

theorem checked_words (held value : Value) (outer key : String) (member : (outer, key) ∈ listKeys)
    (checked : checkEntry held outer key value = .ok ()) : ∃ texts : List String, value = .list (texts.map Value.str) := by
  have apart : ∀ pair ∈ listKeys, pair ∉ intKeys := by decide
  have checked := checked_shape held value outer key checked
  rw [checkShape] at checked
  simp only [apart _ member, if_false] at checked
  obtain ⟨_, -, checked⟩ := bind_ok _ _ _ checked
  obtain ⟨_, passed, -⟩ := bind_ok _ _ _ checked
  have shaped := refuse_ok _ _ passed
  cases value with
  | list items =>
      simp only [member, decide_true, Bool.true_and, Value.isWords, Bool.not_eq_false', List.all_eq_true] at shaped
      obtain ⟨texts, rfl⟩ := words_texts items shaped
      exact ⟨texts, rfl⟩
  | _ => simp [member, Value.isWords] at shaped

theorem checked_web_hostname (held value : Value) (checked : checkEntry held "web" "hostname" value = .ok ()) :
    ∃ text, value = .str text ∧ (strip text = "" ∨ isHostname (strip text) = true) := by
  have checked := checked_shape held value "web" "hostname" checked
  obtain ⟨_, -, checked⟩ := bind_ok _ _ _ checked
  obtain ⟨_, -, checked⟩ := bind_ok _ _ _ checked
  obtain ⟨_, -, checked⟩ := bind_ok _ _ _ checked
  obtain ⟨_, passed, -⟩ := bind_ok _ _ _ checked
  have shaped := refuse_ok _ _ passed
  cases value with
  | str text => exact ⟨text, rfl, or_iff_not_imp_left.mpr (by simpa [Value.strMeets] using shaped)⟩
  | _ => simp [Value.strMeets] at shaped

end Checks

section Runs

variable (python : Python)

theorem applied_checked (edits : List Edit) (state last : Value × Changes) (run : Applied python edits state last) (edit : Edit)
    (member : edit ∈ edits) : ∃ held, checkEntry held edit.outer edit.key edit.value = .ok () := by
  induction run with
  | none state => cases member
  | next first rest state middle last step later ih =>
      rcases List.mem_cons.mp member with rfl | member
      · exact ⟨state.1, step.checked⟩
      · exact ih member

theorem int_less (left right : Int) : (Value.int left).lessThan (.int right) = .ok false ↔ right ≤ left := by
  simp only [Value.lessThan, Value.number, Except.ok.injEq, decide_eq_false_iff_not, Rat.not_lt, Rat.intCast_le_intCast]

section Steps

variable (edit : Edit) (state next : Value × Changes) (step : Turned python edit state next)

include step

theorem turned_getD (spot : String × String) (fallback : Value) : (next.1.setting spot.1 spot.2).getD fallback =
    if edit.spot = spot then edit.stored python else (state.1.setting spot.1 spot.2).getD fallback := by
  rw [set_nested_setting state.1 next.1 _ edit.outer edit.key step.stored]
  by_cases here : edit.spot = spot
  · rw [if_pos here, if_pos ⟨congrArg Prod.fst here.symm, congrArg Prod.snd here.symm⟩, Option.getD_some]
  · rw [if_neg here, if_neg fun both => here (Prod.ext both.1.symm both.2.symm)]

theorem turned_min : next.1.minLength = if edit.spot = minSpot then edit.stored python else state.1.minLength :=
  turned_getD python edit state next step minSpot (.int 3)

theorem turned_max : next.1.maxLength = if edit.spot = maxSpot then edit.stored python else state.1.maxLength :=
  turned_getD python edit state next step maxSpot (.int 64)

theorem turned_bounded (bounded : ∃ least most, Bounded state.1 least most) : ∃ least most, Bounded next.1 least most := by
  obtain ⟨least, most, low, high, ordered⟩ := bounded
  have afterMin := turned_min python edit state next step
  have afterMax := turned_max python edit state next step
  have writable := set_nested_was_writable state.1 next.1 _ edit.outer edit.key step.stored
  have bounds := ((check_entry_iff state.1 edit.outer edit.key edit.value).mp step.checked).2
  have checked := step.checked
  obtain ⟨outer, key, value⟩ := edit
  by_cases minimum : Edit.spot ⟨outer, key, value⟩ = minSpot
  · cases minimum
    obtain ⟨number, rfl⟩ := checked_int state.1 value minSpot.1 minSpot.2 (by decide) checked
    have above := (min_bound_iff state.1 (.int number) writable).mp bounds
    rw [high, int_less] at above
    exact ⟨number, most, afterMin, afterMax.trans high, above⟩
  · by_cases maximum : Edit.spot ⟨outer, key, value⟩ = maxSpot
    · cases maximum
      obtain ⟨number, rfl⟩ := checked_int state.1 value maxSpot.1 maxSpot.2 (by decide) checked
      have under := (max_bound_iff state.1 (.int number) writable).mp bounds
      rw [low, int_less] at under
      exact ⟨least, number, afterMin.trans low, afterMax, under⟩
    · rw [if_neg minimum] at afterMin
      rw [if_neg maximum] at afterMax
      exact ⟨least, most, afterMin.trans low, afterMax.trans high, ordered⟩

end Steps

theorem applied_bounded (edits : List Edit) (state last : Value × Changes) (run : Applied python edits state last)
    (bounded : ∃ least most, Bounded state.1 least most) : ∃ least most, Bounded last.1 least most := by
  induction run with
  | none state => exact bounded
  | next edit rest state middle last step later ih => exact ih (turned_bounded python edit state middle step bounded)

theorem merged_setting (edits : List Edit) (config after : Value) (merged : Merged python edits config after)
    (outer key : String) :
    (∃ edit ∈ edits, edit.spot = (outer, key) ∧ after.setting outer key = some (edit.stored python)) ∨
      after.setting outer key = config.setting outer key := by
  by_cases named : ∃ edit ∈ edits, edit.spot = (outer, key)
  · obtain ⟨edit, member, spot⟩ := named
    have given := merged.given edit member
    cases spot
    exact Or.inl ⟨edit, member, rfl, given⟩
  · refine Or.inr (merged.kept (.str outer) (.str key) fun edit member same => named ⟨edit, member, ?_⟩)
    exact Prod.ext (Key.str.inj same.1).symm (Key.str.inj same.2).symm

theorem run_fits (edits : List Edit) (state last : Value × Changes) (run : Applied python edits state last)
    (distinct : (edits.map Edit.spot).Nodup) (fits : Value → Prop) (outer key : String)
    (checked : ∀ held value, checkEntry held outer key value = .ok () → fits (normalizeEntry python outer key value))
    (before : ∀ value, state.1.setting outer key = some value → fits value) :
    ∀ value, last.1.setting outer key = some value → fits value := by
  intro value held
  rcases merged_setting python edits state.1 last.1 (applied_merged python edits state last run distinct) outer key with
    ⟨edit, present, spot, now⟩ | kept
  · obtain ⟨middle, passed⟩ := applied_checked python edits state last run edit present
    cases spot
    rw [held] at now
    rw [Option.some.inj now]
    exact checked middle edit.value passed
  · exact before value (kept ▸ held)

theorem run_well_formed (edits : List Edit) (config : Value) (last : Value × Changes)
    (run : Applied python edits (config, []) last)
    (distinct : (edits.map Edit.spot).Nodup) (panel : checkPanel last.1 = .ok ()) (formed : WellFormed config) :
    WellFormed last.1 := by
  have fitting := run_fits python edits (config, []) last run distinct
  constructor
  · intro outer key value member held
    refine fitting (fun value => ∃ number, value = .int number ∧ leastInt outer key ≤ number) outer key
      (fun before given passed => ?_)
      (fun old => formed.ints outer key old member) value held
    obtain ⟨number, rfl, least⟩ := checked_least before given outer key member passed
    exact ⟨number, rfl, least⟩
  · intro outer key value member held
    refine fitting (fun value => ∃ flag, value = .bool flag) outer key (fun before given passed => ?_)
      (fun old => formed.bools outer key old member) value held
    obtain ⟨flag, rfl⟩ := checked_bool before given outer key member passed
    exact ⟨flag, rfl⟩
  · intro outer key value member held
    refine fitting (fun value => ∃ texts : List String, value = .list (texts.map Value.str)) outer key
      (fun before given passed => ?_)
      (fun old => formed.lists outer key old member) value held
    obtain ⟨texts, rfl⟩ := checked_words before given outer key member passed
    exact ⟨texts, rfl⟩
  · exact applied_bounded python edits (config, []) last run formed.bounds
  · refine fitting (fun value => ∃ text, value = .str text ∧ LowerHostname text) "server" "hostname"
      (fun before given passed => ?_)
      formed.server
    obtain ⟨text, rfl, valid⟩ := checked_hostname before given passed
    exact ⟨_, host_stored python "server" text (by decide), stored_hostname python text valid⟩
  · refine fitting (fun value => value.truthy = true → ∃ text, value = .str text ∧ LowerHostname text) "web" "hostname"
      (fun before given passed named => ?_) formed.web
    obtain ⟨text, rfl, blank | valid⟩ := checked_web_hostname before given passed
    · rw [host_stored python "web" text (by decide), blank, lower_empty] at named
      cases named
    · exact ⟨_, host_stored python "web" text (by decide), stored_hostname python text valid⟩
  · exact ((check_panel_iff last.1).mp panel).2

end Runs

section Exact

theorem same_bool (left right : Bool) : (Value.bool left).same (.bool right) = true ↔ left = right := by
  cases left <;> cases right <;> decide

theorem same_text (left : Value) (text : String) : left.same (.str text) = true ↔ left = .str text := by
  cases left with
  | str other => simp [Value.same]
  | _ => simp [Value.same, Value.number]

theorem same_words (left right : List String) :
    (Value.list (left.map Value.str)).same (.list (right.map Value.str)) = true ↔ left = right := by
  rw [Value.same]
  induction left generalizing right with
  | nil => cases right <;> simp [Value.sameItems]
  | cons text rest ih =>
      cases right with
      | nil => simp [Value.sameItems]
      | cons other others =>
        simp only [List.map_cons, Value.sameItems, Bool.and_eq_true, ih, Value.same, beq_iff_eq, List.cons.injEq]

theorem checked_token (held value : Value) (checked : checkEntry held "admin" "token" value = .ok ()) :
    ∃ text, value = .str text := by
  have checked := checked_shape held value "admin" "token" checked
  obtain ⟨_, -, checked⟩ := bind_ok _ _ _ checked
  obtain ⟨_, -, checked⟩ := bind_ok _ _ _ checked
  obtain ⟨_, -, checked⟩ := bind_ok _ _ _ checked
  obtain ⟨_, -, checked⟩ := bind_ok _ _ _ checked
  have shaped := refuse_ok _ _ checked
  cases value with
  | str text => exact ⟨text, rfl⟩
  | _ => simp [Value.strMeets] at shaped

def addressFormat : String × String := ("tempmail", "address_format")

theorem whitelisted_kinds (outer key : String) (listed : whitelisted outer key = true) (other : (outer, key) ≠ addressFormat) :
    (outer, key) ∈ intKeys ∨ (outer, key) ∈ boolKeys ∨ (outer, key) ∈ listKeys ∨
      (outer, key) ∈ [("server", "hostname"), ("web", "hostname"), ("admin", "token")] := by
  have kinds : ∀ part ∈ allowedPatchSections, ∀ name ∈ part.2, (part.1, name) ≠ addressFormat →
      (part.1, name) ∈ intKeys ∨ (part.1, name) ∈ boolKeys ∨ (part.1, name) ∈ listKeys ∨
        (part.1, name) ∈ [("server", "hostname"), ("web", "hostname"), ("admin", "token")] := by decide
  rw [whitelisted] at listed
  cases known : allowedPatchSections.lookup outer with
  | none =>
      rw [known] at listed
      cases listed
  | some allowed =>
      rw [known, Option.any_some, List.contains_iff_mem] at listed
      obtain ⟨front, back, whole, -⟩ := List.lookup_eq_some_iff.mp known
      exact kinds (outer, allowed) (whole ▸ List.mem_append_right front List.mem_cons_self) key listed other

theorem same_held (old : Option Value) (stored : Value) (named : Value.null.same stored = false)
    (same : ∀ held, old = some held → (held.same stored = true ↔ held = stored)) :
    (old.getD .null).same stored = true ↔ old = some stored := by
  cases old with
  | none => simp [named]
  | some held => simpa using same held rfl

theorem text_stored (python : Python) (outer key text : String) :
    ∃ stored, normalizeEntry python outer key (.str text) = .str stored := by
  rw [normalizeEntry]
  split
  · exact ⟨_, rfl⟩
  · exact ⟨text, rfl⟩

-- Where the key has a type, Python's == tells stored values apart exactly.
theorem stored_exact (python : Python) (config : Value) (formed : WellFormed config) (edit : Edit)
    (listed : whitelisted edit.outer edit.key = true) (other : edit.spot ≠ addressFormat)
    (checked : ∃ held, checkEntry held edit.outer edit.key edit.value = .ok ()) :
    ((config.setting edit.outer edit.key).getD .null).same (edit.stored python) = true ↔
      config.setting edit.outer edit.key = some (edit.stored python) := by
  obtain ⟨held, checked⟩ := checked
  obtain ⟨outer, key, value⟩ := edit
  rw [Edit.stored]
  dsimp only at listed checked ⊢
  rcases whitelisted_kinds outer key listed other with int | bool | list | text
  · obtain ⟨number, rfl⟩ := checked_int held value outer key int checked
    refine same_held _ _ rfl fun old before => ?_
    obtain ⟨last, rfl, -⟩ := formed.ints outer key old int before
    exact (same_int last number).trans (iff_of_eq (Value.int.injEq last number)).symm
  · obtain ⟨flag, rfl⟩ := checked_bool held value outer key bool checked
    refine same_held _ _ rfl fun old before => ?_
    obtain ⟨last, rfl⟩ := formed.bools outer key old bool before
    exact (same_bool last flag).trans (iff_of_eq (Value.bool.injEq last flag)).symm
  · obtain ⟨texts, rfl⟩ := checked_words held value outer key list checked
    refine same_held _ _ rfl fun old before => ?_
    obtain ⟨last, rfl⟩ := formed.lists outer key old list before
    have apart : Value.list (last.map Value.str) = .list (texts.map Value.str) ↔ last = texts := by
      rw [Value.list.injEq, List.map_inj_right fun _ _ same => Value.str.inj same]
    exact (same_words last texts).trans apart.symm
  · have given : ∃ text, value = .str text := by
      simp only [List.mem_cons, List.not_mem_nil, or_false, Prod.mk.injEq] at text
      rcases text with ⟨rfl, rfl⟩ | ⟨rfl, rfl⟩ | ⟨rfl, rfl⟩
      · obtain ⟨text, same, -⟩ := checked_hostname held value checked
        exact ⟨text, same⟩
      · obtain ⟨text, same, -⟩ := checked_web_hostname held value checked
        exact ⟨text, same⟩
      · exact checked_token held value checked
    obtain ⟨text, rfl⟩ := given
    obtain ⟨stored, stored_eq⟩ := text_stored python outer key text
    rw [stored_eq]
    exact same_held _ _ rfl fun old _ => same_text old stored

end Exact

def Offered (patch : Value) (outer key : String) : Prop := ∃ value, Named patch outer key value

theorem run_only (python : Python) (patch : Value) (edits : List Edit) (named : patch.edits = some edits) (config : Value)
    (last : Value × Changes) (run : Applied python edits (config, []) last) (distinct : (edits.map Edit.spot).Nodup)
    (panel : checkPanel last.1 = .ok ()) :
    OnlyAt (fun outer key => whitelisted outer key = true ∧ Offered patch outer key) config last.1 := by
  have merged := applied_merged python edits (config, []) last run distinct
  have spots (edit : Edit) (member : edit ∈ edits) : whitelisted edit.outer edit.key = true ∧ Offered patch edit.outer edit.key :=
    ⟨edit_whitelisted patch edits named edit member, edit.value, (edits_named patch edits named edit).mp member⟩
  obtain ⟨entries, whole, -⟩ := ((check_panel_iff last.1).mp panel).1
  have mapping : isMapping config := by
    cases run with
    | none state => exact ⟨entries, whole⟩
    | next edit rest state middle last step later =>
        obtain ⟨before, same, -⟩ := set_nested_was_writable config middle.1 _ edit.outer edit.key step.stored
        exact ⟨before, same⟩
  constructor
  · exact ⟨mapping, entries, whole⟩
  · intro top silent
    exact merged.tops top fun edit member same => silent edit.outer edit.key same (spots edit member)
  · intro top
    by_cases touched : ∃ edit ∈ edits, top = .str edit.outer
    · obtain ⟨edit, member, rfl⟩ := touched
      obtain ⟨before, rfl, held⟩ := applied_writable python edits (config, []) last run edit member
      exact Or.inr ⟨merged.sections edit member, held⟩
    · exact Or.inl (merged.tops top fun edit member same => touched ⟨edit, member, same⟩)
  · intro top inner silent
    exact merged.kept top inner fun edit member same => silent edit.outer edit.key same.1 same.2 (spots edit member)

-- Of the whitelisted keys only address_format takes values of any type: there
-- the changed set goes by Python's ==.
theorem patch_well_formed (python : Python) (config patch after : Value) (changed : Changes) (dicts : Dicts patch)
    (formed : WellFormed config) (accepted : applyPatch python config patch = .ok (after, changed)) :
    WellFormed after ∧
      OnlyAt (fun outer key => whitelisted outer key = true ∧ Offered patch outer key) config after ∧
      (∀ outer key, (outer, key) ∈ changed ↔
        Offered patch outer key ∧ differs (config.setting outer key) (after.setting outer key) = true) ∧
      ∀ outer key, (outer, key) ≠ addressFormat →
        ((outer, key) ∈ changed ↔ Offered patch outer key ∧ config.setting outer key ≠ after.setting outer key) := by
  obtain ⟨edits, named, run, panel⟩ := (apply_patch_iff python config patch (after, changed)).mp accepted
  have distinct := edits_distinct patch edits named dicts
  have merged := applied_merged python edits _ _ run distinct
  have checked := applied_checked python edits _ _ run
  have noted (outer key : String) : (outer, key) ∈ changed ↔ ∃ edit ∈ edits, edit.spot = (outer, key) ∧
      ((config.setting edit.outer edit.key).getD .null).same (edit.stored python) = false := by
    simpa using applied_noted python edits (config, []) (after, changed) run distinct (outer, key)
  have judged (outer key : String) (moved : Prop) (agrees : ∀ edit ∈ edits, edit.spot = (outer, key) →
      (((config.setting edit.outer edit.key).getD .null).same (edit.stored python) = false ↔ moved)) :
      (outer, key) ∈ changed ↔ Offered patch outer key ∧ moved := by
    rw [noted]
    constructor
    · rintro ⟨edit, member, spot, apart⟩
      have given := (edits_named patch edits named edit).mp member
      cases spot
      exact ⟨⟨edit.value, given⟩, (agrees edit member rfl).mp apart⟩
    · rintro ⟨⟨value, given⟩, apart⟩
      have member := (edits_named patch edits named ⟨outer, key, value⟩).mpr given
      exact ⟨_, member, rfl, (agrees _ member rfl).mpr apart⟩
  refine ⟨run_well_formed python edits config (after, changed) run distinct panel formed,
    run_only python patch edits named config (after, changed) run distinct panel, fun outer key => ?_, fun outer key typed => ?_⟩
  · refine judged outer key _ fun edit member spot => ?_
    have given := merged.given edit member
    cases spot
    rw [differs, given, Option.getD_some, Bool.not_eq_true']
  · refine judged outer key _ fun edit member spot => ?_
    have given := merged.given edit member
    have exactly := stored_exact python config formed edit (edit_whitelisted patch edits named edit member) (spot ▸ typed)
      (checked edit member)
    cases spot
    rw [given, ne_eq, ← exactly, Bool.not_eq_true]

def panelConfig (web : List (Key × Value)) (lengths : List (Key × Value)) : Value :=
  .map [(.str "server", .map [(.str "hostname", .str "mx.example.com")]), (.str "tempmail", .map lengths), (.str "web", .map web)]

def openPanel : Value := panelConfig [(.str "hostname", .str "")] [(.str "min_username_length", .int 5)]

def closePanel : Value := .map
  [(.str "web", .map [(.str "allow_ip_access", .bool false), (.str "hostname", .str " Panel.example.com ")]),
    (.str "tempmail", .map [(.str "max_username_length", .int 20), (.str "min_username_length", .int 5)])]

def closedPanel : Value := panelConfig [(.str "hostname", .str "panel.example.com"), (.str "allow_ip_access", .bool false)]
  [(.str "min_username_length", .int 5), (.str "max_username_length", .int 20)]

theorem close_panel_dicts : Dicts closePanel := by
  constructor
  · simp [closePanel, Value.keyed]
  · intro outer values found
    obtain ⟨front, back, whole, -⟩ := List.lookup_eq_some_iff.mp found
    have member : (outer, values) ∈ front ++ (outer, values) :: back := List.mem_append_right front List.mem_cons_self
    rw [← whole] at member
    simp only [List.mem_cons, List.not_mem_nil, or_false, Prod.mk.injEq] at member
    rcases member with ⟨-, rfl⟩ | ⟨-, rfl⟩ <;> simp [Value.keyed]

theorem open_panel_settings (outer key : String) (value : Value) (held : openPanel.setting outer key = some value) :
    ((outer, key) = ("server", "hostname") ∧ value = .str "mx.example.com") ∨ ((outer, key) = minSpot ∧ value = .int 5) ∨
      ((outer, key) = ("web", "hostname") ∧ value = .str "") := by
  obtain ⟨nested, found, inside⟩ := Option.bind_eq_some_iff.mp held
  obtain ⟨front, back, whole, -⟩ := List.lookup_eq_some_iff.mp found
  have member : (Key.str outer, nested) ∈ front ++ (Key.str outer, nested) :: back :=
    List.mem_append_right front List.mem_cons_self
  rw [← whole] at member
  simp only [List.mem_cons, List.not_mem_nil, or_false, Prod.mk.injEq, Key.str.injEq] at member
  rcases member with ⟨rfl, rfl⟩ | ⟨rfl, rfl⟩ | ⟨rfl, rfl⟩
  all_goals
    simp only [Value.top, List.lookup_cons, List.lookup_nil] at inside
    split at inside
    · rename_i same
      cases inside
      simpa [minSpot] using same
    · cases inside

theorem open_panel_formed : WellFormed openPanel := by
  constructor
  · intro outer key value member held
    rcases open_panel_settings outer key value held with ⟨spot, rfl⟩ | ⟨spot, rfl⟩ | ⟨spot, rfl⟩
    · exact absurd (spot ▸ member) (by decide)
    · cases spot
      exact ⟨5, rfl, by decide⟩
    · exact absurd (spot ▸ member) (by decide)
  · intro outer key value member held
    rcases open_panel_settings outer key value held with ⟨spot, rfl⟩ | ⟨spot, rfl⟩ | ⟨spot, rfl⟩
    all_goals exact absurd (spot ▸ member) (by decide)
  · intro outer key value member held
    rcases open_panel_settings outer key value held with ⟨spot, rfl⟩ | ⟨spot, rfl⟩ | ⟨spot, rfl⟩
    all_goals exact absurd (spot ▸ member) (by decide)
  · exact ⟨5, 64, rfl, rfl, by decide⟩
  · intro value held
    cases held
    have lower : "mx.example.com".toList.all (fun c => !c.isUpper) = true := by decide +kernel
    exact ⟨_, rfl, by decide +kernel, fun c member => by simpa using List.all_eq_true.mp lower c member⟩
  · intro value held named
    cases held
    cases named
  · intro closed
    cases closed

theorem panel_closed :
    applyPatch Api.asciiPython openPanel closePanel =
      .ok (closedPanel, [("web", "allow_ip_access"), ("web", "hostname"), ("tempmail", "max_username_length")]) ∧
      WellFormed openPanel ∧ WellFormed closedPanel :=
  ⟨rfl, open_panel_formed,
    (patch_well_formed Api.asciiPython openPanel closePanel closedPanel _ close_panel_dicts open_panel_formed rfl).1⟩

end Tempmail.Config
