import Tempmail.Web.SavedConfig

set_option autoImplicit false

namespace Tempmail.Web.Panel

open Api (Python)
open Mailbox (trim)
open Config (Value Key maskConfig maskSecrets)

section Untouched

variable (shown : Value → String) (number : String → Option Int) (python : Python)

-- Whole numbers JavaScript reads back as it shows them, which it does up to 2^53,
-- names without blanks about them and one origin a line.
structure Plain (config : Value) : Prop where
  ints : ∀ field ∈ intFields, ∀ value, config.setting field.outer field.key = some value →
    ∃ whole : Int, value = .int whole ∧ number (shown (.int whole)) = some whole
  names : ∀ outer ∈ ["server", "web"], ∀ text, config.setting outer "hostname" = some (.str text) → trim text = text
  origins : ∀ items, config.setting "cors" "allow_origins" = some (.list items) →
    ∃ lines : List String, items = lines.map Value.str ∧ ∀ line ∈ lines, line ≠ "" ∧ trim line = line ∧ '\n' ∉ line.toList

theorem lines_joined (lines : List String) (single : ∀ line ∈ lines, '\n' ∉ line.toList) (filled : lines ≠ []) :
    jsLines (jsJoin lines) = lines := by
  have whole : (['\n'].intercalate (lines.map String.toList)).splitOn '\n' = lines.map String.toList := by
    refine List.splitOn_intercalate '\n' (fun chars member => ?_) (by simpa using filled)
    obtain ⟨line, inside, rfl⟩ := List.mem_map.mp member
    exact single line inside
  have separator : "\n".toList = ['\n'] := by decide
  rw [jsLines, jsJoin, String.toList_intercalate, separator, whole, List.map_map]
  exact (List.map_congr_left fun line _ => String.ofList_toList).trans (List.map_id lines)

theorem origins_kept (lines : List String) (plain : ∀ line ∈ lines, line ≠ "" ∧ trim line = line ∧ '\n' ∉ line.toList) :
    ((jsLines (jsJoin lines)).map trim).filter (fun line => line != "") = lines := by
  by_cases filled : lines = []
  · rw [filled]
    decide +kernel
  · rw [lines_joined lines (fun line member => (plain line member).2.2) filled,
      (List.map_congr_left fun line member => (plain line member).2.1).trans (List.map_id lines)]
    exact List.filter_eq_self.mpr fun line member => bne_iff_ne.mpr (plain line member).1

theorem fetched_origins (config : Value) (plain : Plain shown number config) (texts : ∀ text, shown (.str text) = text)
    (origins token current : String)
    (loaded : shownOrigins shown config = some current) :
    jsJoin (ConfigPage.fetched shown origins token config).origins = current := by
  have typed : (ConfigPage.fetched shown origins token config).corsOrigins = current := by
    show (shownOrigins shown config).getD origins = current
    rw [loaded, Option.getD_some]
  have blank : current = "" → jsJoin (ConfigPage.fetched shown origins token config).origins = current := fun same => by
    rw [ConfigPage.origins, typed, same]
    decide +kernel
  have whole := loaded
  rw [shownOrigins] at loaded
  cases held : config.setting "cors" "allow_origins" with
  | none =>
      rw [held] at loaded
      exact blank (Option.some.inj loaded).symm
  | some value =>
      rw [held] at loaded
      dsimp only at loaded
      split at loaded
      · cases value with
        | list items =>
            obtain ⟨lines, rfl, each⟩ := plain.origins items held
            rw [shown_texts shown config texts lines held, Option.some.injEq] at whole
            rw [ConfigPage.origins, typed, ← whole, origins_kept lines each]
        | _ => cases loaded
      · exact blank (Option.some.inj loaded).symm

theorem plain_view (config view : Value) (plain : Plain shown number config) (loaded : maskConfig config = .ok view) :
    Plain shown number view := by
  have held : ∀ spot value, Readable spot → view.setting spot.1 spot.2 = some value →
      ∃ own, config.setting spot.1 spot.2 = some own ∧ maskSecrets own = value := fun spot value readable given => by
    rw [masked_setting config view loaded spot readable] at given
    exact Option.map_eq_some_iff.mp given
  refine ⟨fun field member value given => ?_, fun outer member text given => ?_, fun items given => ?_⟩
  · obtain ⟨own, there, rfl⟩ := held field.spot value (ints_readable field member) given
    obtain ⟨whole, rfl, again⟩ := plain.ints field member own there
    exact ⟨whole, rfl, again⟩
  · have readable : ∀ outer ∈ ["server", "web"], Readable (outer, "hostname") := by decide +kernel
    obtain ⟨own, there, same⟩ := held (outer, "hostname") _ (readable outer member) given
    cases own with
    | str _ =>
        cases same
        exact plain.names outer member text there
    | _ => simp [maskSecrets] at same
  · obtain ⟨own, there, same⟩ := held ("cors", "allow_origins") _ (texts_readable _ (by decide)) given
    cases own with
    | list own =>
        obtain ⟨lines, rfl, each⟩ := plain.origins own there
        rw [maskSecrets, mask_texts, Value.list.injEq] at same
        exact ⟨lines, same.symm, each⟩
    | _ => simp [maskSecrets] at same

theorem fetched_on (config : Value) (spot : String × String) (on : (ConfigPage.fetched shown "" "" config).switches spot = true) :
    config.setting spot.1 spot.2 = some (.bool true) := by
  simp only [ConfigPage.fetched, getValue] at on
  cases held : config.setting spot.1 spot.2 with
  | none => simp [held] at on
  | some value =>
      rw [held, Option.getD_some] at on
      split at on
      · rfl
      · cases on

theorem fetched_name (config : Value) (plain : Plain shown number config) (outer : String) (member : outer ∈ ["server", "web"]) :
    trim (stringOr (getValue config outer "hostname")) = stringOr (getValue config outer "hostname") := by
  by_cases blank : stringOr (getValue config outer "hostname") = ""
  · rw [blank]
    decide +kernel
  · exact plain.names outer member _ ((string_or_get config outer "hostname" _ blank).mp rfl)

theorem untouched_number (view : Value) (plain : Plain shown number view) (field : IntField) (member : field ∈ intFields)
    (filled : (ConfigPage.fetched shown "" "" view).ints field.spot ≠ "") :
    ∃ whole, view.setting field.outer field.key = some (.int whole) ∧
      number ((ConfigPage.fetched shown "" "" view).ints field.spot) = some whole := by
  cases held : view.setting field.outer field.key with
  | none =>
      refine absurd ?_ filled
      have absent : view.setting field.spot.1 field.spot.2 = none := held
      simp only [ConfigPage.fetched, getValue, absent]
      rfl
  | some value =>
      obtain ⟨whole, rfl, again⟩ := plain.ints field member value held
      rw [fetched_int shown "" "" view field.spot whole held]
      exact ⟨whole, rfl, again⟩

theorem mask_int (value : Value) (whole : Int) (same : maskSecrets value = .int whole) : value = .int whole := by
  cases value with
  | int own => exact same
  | _ => simp [maskSecrets] at same

theorem untouched_int (config view changed : Value) (plain : Plain shown number view) (loaded : maskConfig config = .ok view)
    (written : SavedOver shown number python (ConfigPage.fetched shown "" "" view) config changed) (field : IntField)
    (member : field ∈ intFields) : changed.setting field.outer field.key = config.setting field.outer field.key := by
  have now := written.ints field member
  by_cases blank : (ConfigPage.fetched shown "" "" view).ints field.spot = ""
  · rw [now, if_pos blank]
  · obtain ⟨whole, held, typed⟩ := untouched_number shown number view plain field member blank
    rw [if_neg blank, typed] at now
    have seen := masked_setting config view loaded field.spot (ints_readable field member)
    obtain ⟨value, there, same⟩ := Option.map_eq_some_iff.mp (seen.symm.trans held)
    rw [now, show config.setting field.outer field.key = some value from there, mask_int value whole same]
    rfl

theorem untouched_text (texts : ∀ text, shown (.str text) = text) (config view changed : Value)
    (plain : Plain shown number view) (current : String)
    (loaded : shownOrigins shown view = some current)
    (written : SavedOver shown number python (ConfigPage.fetched shown "" "" view) config changed) (spot : String × String)
    (member : spot ∈ textSpots) : changed.setting spot.1 spot.2 = config.setting spot.1 spot.2 := by
  simp only [textSpots, List.mem_cons, List.not_mem_nil, or_false] at member
  rcases member with rfl | rfl | rfl | rfl
  · have same : trim (ConfigPage.fetched shown "" "" view).hostname = stringOr (getValue view "server" "hostname") :=
      fetched_name shown number view plain "server" (by decide)
    refine written.unnamed ?_
    rw [same]
    by_cases blank : stringOr (getValue view "server" "hostname") = ""
    · exact Or.inl blank
    · exact Or.inr ((string_or_get view "server" "hostname" _ blank).mp rfl)
  · exact written.webHostname.trans (if_pos (fetched_name shown number view plain "web" (by decide)))
  · have blank : trim "" = "" := by decide +kernel
    exact written.token.trans (if_pos blank)
  · have same : shownOrigins shown view = some (jsJoin (ConfigPage.fetched shown "" "" view).origins) := by
      rw [fetched_origins shown number view plain texts "" "" current loaded, loaded]
    exact written.origins.trans (if_pos same)

-- What a save of a page nobody typed into leaves: every switch that was missing is
-- off, and nothing else is changed.
structure Unchanged (config changed : Value) : Prop where
  switched : ∀ spot ∈ boolFields, (∀ flag, config.setting spot.1 spot.2 ≠ some (.bool flag)) →
    changed.setting spot.1 spot.2 = some (.bool false)
  kept : ∀ outer inner : Key, (∀ spot ∈ boolFields, outer = .str spot.1 → inner = .str spot.2 →
    ∃ flag, config.setting spot.1 spot.2 = some (.bool flag)) → changed.inner outer inner = config.inner outer inner
  tops : ∀ outer : Key, changed.find outer = config.find outer ∨ (∃ spot ∈ pageSpots, outer = .str spot.1) ∧
    (∃ entries, changed.find outer = some (.map entries)) ∧ ∀ held, config.find outer = some held → Config.isMapping held

theorem untouched_spot (texts : ∀ text, shown (.str text) = text) (config view changed : Value)
    (plain : Plain shown number config) (loaded : maskConfig config = .ok view)
    (done : saved shown number python (ConfigPage.fetched shown "" "" view) config = some changed) (spot : String × String)
    (listed : spot ∈ pageSpots) (held : spot ∈ boolFields → ∃ flag, config.setting spot.1 spot.2 = some (.bool flag)) :
    changed.setting spot.1 spot.2 = config.setting spot.1 spot.2 := by
  have written := saved_over shown number python _ config changed done
  have fits := plain_view shown number config view plain loaded
  rcases List.mem_append.mp listed with fields | names
  · rcases List.mem_append.mp fields with ints | switches
    · obtain ⟨field, member, rfl⟩ := List.mem_map.mp ints
      exact untouched_int shown number python config view changed fits loaded written field member
    · obtain ⟨flag, there⟩ := held switches
      have seen := masked_setting config view loaded _ (switches_readable _ switches)
      rw [there] at seen
      have same := fetched_switch shown "" "" view spot flag seen
      exact written.left spot switches (same ▸ seen)
  · obtain ⟨_, current, gathered, -⟩ := saved_settled shown number python _ config changed done
    exact untouched_text shown number python texts config view changed fits current gathered.loaded written spot names

theorem untouched_saved (texts : ∀ text, shown (.str text) = text) (config view changed : Value)
    (plain : Plain shown number config) (loaded : maskConfig config = .ok view)
    (done : saved shown number python (ConfigPage.fetched shown "" "" view) config = some changed) :
    Unchanged config changed := by
  have written := saved_over shown number python _ config changed done
  have turned := saved_switches shown number python _ config changed loaded written
  refine ⟨fun spot member missing => ?_, fun outer inner held => ?_, fun outer => ?_⟩
  · have off : (ConfigPage.fetched shown "" "" view).switches spot = false := by
      rw [← Bool.not_eq_true]
      intro on
      have held := fetched_on shown view spot on
      rw [masked_setting config view loaded _ (switches_readable _ member)] at held
      obtain ⟨value, there, same⟩ := Option.map_eq_some_iff.mp held
      exact missing true (mask_bool value true same ▸ there)
    have now := turned spot member
    rw [off] at now
    exact now
  · by_cases listed : ∃ spot ∈ pageSpots, outer = .str spot.1 ∧ inner = .str spot.2
    · obtain ⟨spot, member, rfl, rfl⟩ := listed
      exact untouched_spot shown number python texts config view changed plain loaded done spot member
        fun switch => held spot switch rfl rfl
    · exact written.others outer inner fun spot member same => listed ⟨spot, member, same⟩
  · by_cases listed : ∃ spot ∈ pageSpots, outer = .str spot.1
    · exact (written.shapes outer).imp_right fun mapping => ⟨listed, mapping⟩
    · exact Or.inl (written.tops outer fun spot member same => listed ⟨spot, member, same⟩)

end Untouched

theorem plain_config_ints : ∀ field ∈ intFields, field.spot = ("tempmail", "address_lifetime_hours") ∨
    (plainConfig.setting field.outer field.key).isNone = true := by
  decide +kernel

theorem plain_config_plain : Plain plainShown plainNumber plainConfig := by
  refine ⟨fun field member value held => ?_, fun outer member text held => ?_, fun items held => ?_⟩
  · rcases plain_config_ints field member with same | absent
    · obtain ⟨outer, key, least⟩ := field
      cases same
      cases held
      exact ⟨24, rfl, by decide +kernel⟩
    · rw [held] at absent
      cases absent
  · simp only [List.mem_cons, List.not_mem_nil, or_false] at member
    rcases member with rfl | rfl
    · cases held
    · cases held
      decide +kernel
  · cases held
    exact ⟨["https://a.example"], rfl, by decide +kernel⟩

theorem plain_page_untouched : Unchanged plainConfig (savedPlain plainPage) :=
  untouched_saved plainShown plainNumber Api.asciiPython (fun _ => rfl) plainConfig plainConfig
    (savedPlain plainPage) plain_config_plain
    (by rfl) (saved_plain plainPage (by decide +kernel))

end Tempmail.Web.Panel
