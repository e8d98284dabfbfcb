import Tempmail.Web.ConfigPage

set_option autoImplicit false

namespace Tempmail.Web.Panel

open Api (Python strip)
open Mailbox (trim)
open Config (Value Key Edit Changes Named Dicts Applied applyPatch normalizeEntry maskConfig maskSecrets maskEntries)

section Parts

theorem map_pairs {α β ε : Type} {Tag : Type} (read : α → Except ε β) (tag : α → Tag) (items : List α) (pairs : List (Tag × β))
    (done : items.mapM (fun item => (read item).map (fun value => (tag item, value))) = .ok pairs) :
    pairs.map Prod.fst = items.map tag ∧ ∀ item ∈ items, ∃ value, read item = .ok value ∧ (tag item, value) ∈ pairs := by
  induction items generalizing pairs with
  | nil =>
      cases done
      exact ⟨rfl, by simp⟩
  | cons item items ih =>
      rw [List.mapM_cons] at done
      obtain ⟨pair, here, later⟩ := Config.bind_ok _ _ _ done
      obtain ⟨others, there, same⟩ := Config.bind_ok _ _ _ later
      cases same
      cases own : read item with
      | error stopped =>
          rw [own] at here
          cases here
      | ok value =>
          rw [own] at here
          cases here
          obtain ⟨names, values⟩ := ih others there
          refine ⟨by rw [List.map_cons, List.map_cons, names],
            List.forall_mem_cons.mpr ⟨⟨value, own, List.mem_cons_self⟩, fun other member => ?_⟩⟩
          obtain ⟨found, held, inside⟩ := values other member
          exact ⟨found, held, List.mem_cons_of_mem _ inside⟩

variable (parts : List ((String × String) × Option Value))

theorem part_edits_spots : ((parts.filterMap partEdit).map Edit.spot).Sublist (parts.map Prod.fst) := by
  induction parts with
  | nil => exact .slnil
  | cons part parts ih =>
      obtain ⟨spot, value⟩ := part
      cases value with
      | none => exact ih.cons _
      | some value => exact ih.cons_cons _

theorem part_edit_member (edit : Edit) : edit ∈ parts.filterMap partEdit ↔ (edit.spot, some edit.value) ∈ parts := by
  rw [List.mem_filterMap]
  constructor
  · rintro ⟨⟨spot, value⟩, member, same⟩
    cases value with
    | none => cases same
    | some value =>
        cases same
        exact member
  · intro member
    exact ⟨_, member, rfl⟩

end Parts

structure Settled (python : Python) (parts : List ((String × String) × Option Value)) (config after : Value) : Prop where
  tops : ∀ outer : Key, (∀ spot ∈ pageSpots, outer ≠ .str spot.1) → after.find outer = config.find outer
  shapes : ∀ outer : Key, after.find outer = config.find outer ∨
    (∃ entries, after.find outer = some (.map entries)) ∧ ∀ held, config.find outer = some held → Config.isMapping held
  given : ∀ spot value, (spot, value) ∈ parts →
    after.setting spot.1 spot.2 = (value.map (normalizeEntry python spot.1 spot.2)).or (config.setting spot.1 spot.2)
  checked : ∀ spot value, (spot, some value) ∈ parts → ∃ held, Config.checkEntry held spot.1 spot.2 value = .ok ()
  others : ∀ outer inner : Key, (∀ spot ∈ pageSpots, ¬ (outer = .str spot.1 ∧ inner = .str spot.2)) →
    after.inner outer inner = config.inner outer inner

theorem page_spots_distinct : pageSpots.Nodup := by decide

section Accepted

variable (python : Python) (parts : List ((String × String) × Option Value)) (spots : parts.map Prod.fst = pageSpots)
    (config : Value) (next : Value × Changes)

include spots

theorem part_edits_distinct : ((parts.filterMap partEdit).map Edit.spot).Nodup :=
  page_spots_distinct.sublist (spots ▸ part_edits_spots parts)

theorem accepted_edits (accepted : applyPatch python config (.map ((parts.filterMap partEdit).foldl assign [])) = .ok next) :
    ∃ edits, (∀ edit, edit ∈ edits ↔ (edit.spot, some edit.value) ∈ parts) ∧ Applied python edits (config, []) next ∧
      (edits.map Edit.spot).Nodup := by
  obtain ⟨edits, named, run, -⟩ := (Config.apply_patch_iff python config _ next).mp accepted
  refine ⟨edits, fun edit => ?_, run, Config.edits_distinct _ edits named (assembled_dicts _)⟩
  rw [Config.edits_named _ edits named, assembled_named _ (part_edits_distinct parts spots)]
  exact part_edit_member parts edit

theorem accepted_settled (accepted : applyPatch python config (.map ((parts.filterMap partEdit).foldl assign [])) = .ok next) :
    Settled python parts config next.1 := by
  obtain ⟨edits, asked, run, distinct⟩ := accepted_edits python parts spots config next accepted
  have merged := Config.applied_merged python edits (config, []) next run distinct
  have listed : ∀ edit ∈ edits, edit.spot ∈ pageSpots := fun edit member => by
    rw [← spots]
    exact List.mem_map.mpr ⟨_, (asked edit).mp member, rfl⟩
  have unique : (parts.map Prod.fst).Nodup := spots ▸ page_spots_distinct
  refine ⟨fun outer apart => ?_, fun outer => ?_, fun spot value member => ?_, fun spot value member => ?_,
    fun outer inner apart => ?_⟩
  · exact merged.tops outer fun edit inside => apart edit.spot (listed edit inside)
  · by_cases edited : ∃ edit ∈ edits, outer = .str edit.outer
    · obtain ⟨edit, inside, rfl⟩ := edited
      obtain ⟨entries, rfl, mapping⟩ := Config.applied_writable python edits (config, []) next run edit inside
      exact Or.inr ⟨merged.sections edit inside, mapping⟩
    · exact Or.inl (merged.tops outer fun edit inside same => edited ⟨edit, inside, same⟩)
  · cases value with
    | some value => exact merged.given ⟨spot.1, spot.2, value⟩ ((asked _).mpr member)
    | none =>
        refine merged.kept (.str spot.1) (.str spot.2) fun edit inside same => ?_
        have here : edit.spot = spot := Prod.ext (Key.str.inj same.1).symm (Key.str.inj same.2).symm
        have both := List.inj_on_of_nodup_map unique ((asked edit).mp inside) member here
        cases both
  · exact Config.applied_checked python edits (config, []) next run ⟨spot.1, spot.2, value⟩ ((asked _).mpr member)
  · exact merged.kept outer inner fun edit inside => apart edit.spot (listed edit inside)

end Accepted

section Saving

variable (shown : Value → String) (number : String → Option Int) (python : Python) (page : ConfigPage)

structure Gathered (parts : List ((String × String) × Option Value)) (current : String) : Prop where
  spots : parts.map Prod.fst = pageSpots
  ints : ∀ field ∈ intFields, ∃ value, page.intValue number field = .ok value ∧ (field.spot, value) ∈ parts
  switches : ∀ spot ∈ boolFields, (spot, page.boolValue spot) ∈ parts
  hostname : (("server", "hostname"), page.hostnameValue) ∈ parts
  webHostname : (("web", "hostname"), page.webHostnameValue) ∈ parts
  token : (("admin", "token"), page.tokenValue) ∈ parts
  origins : (("cors", "allow_origins"), page.originsValue current) ∈ parts
  loaded : shownOrigins shown page.config = some current

theorem parts_gathered (parts : List ((String × String) × Option Value)) (done : page.parts shown number = .ok parts) :
    ∃ current, Gathered shown number page parts current := by
  obtain ⟨ints, read, rest⟩ := Config.bind_ok _ _ _ done
  obtain ⟨names, values⟩ := map_pairs (page.intValue number) IntField.spot intFields ints read
  cases loaded : shownOrigins shown page.config with
  | none =>
      rw [loaded] at rest
      cases rest
  | some current =>
      rw [loaded] at rest
      cases rest
      refine ⟨current, ?_, fun field member => ?_, fun spot member => ?_, ?_, ?_, ?_, ?_, loaded⟩
      · rw [List.map_append, List.map_append, names, List.map_map]
        rfl
      · obtain ⟨value, own, inside⟩ := values field member
        exact ⟨value, own, List.mem_append_left _ (List.mem_append_left _ inside)⟩
      · exact List.mem_append_left _ (List.mem_append_right _ (List.mem_map_of_mem member))
      all_goals exact List.mem_append_right _ (by simp)

def saved (config : Value) : Option Value :=
  match page.handleSave shown number with
  | .put patch => match applyPatch python config patch with
      | .ok next => some next.1
      | .error _ => none
  | .nothing => some config
  | _ => none

theorem assigned_filled (edits : List Edit) (patch : List (Key × Value)) (filled : patch.isEmpty = false) :
    (edits.foldl assign patch).isEmpty = false := by
  induction edits generalizing patch with
  | nil => exact filled
  | cons edit edits ih => exact ih _ (Value.put_usable _ _ _)

theorem assigned_none (edits : List Edit) (blank : (edits.foldl assign []).isEmpty = true) : edits = [] := by
  cases edits with
  | nil => rfl
  | cons edit edits =>
      rw [List.foldl_cons, assigned_filled edits (assign [] edit) (Value.put_usable _ _ _)] at blank
      cases blank

theorem saved_settled (config after : Value) (done : saved shown number python page config = some after) :
    ∃ parts current, Gathered shown number page parts current ∧ Settled python parts config after := by
  rw [saved, ConfigPage.handleSave] at done
  cases read : page.parts shown number with
  | error reason =>
      rw [read] at done
      cases done
  | ok parts =>
      obtain ⟨current, gathered⟩ := parts_gathered shown number page parts read
      refine ⟨parts, current, gathered, ?_⟩
      rw [read] at done
      dsimp only at done
      cases blank : ((parts.filterMap partEdit).foldl assign []).isEmpty with
      | true =>
          rw [blank, if_pos rfl] at done
          cases done
          have silent : ∀ (spot : String × String) value, (spot, some value) ∉ parts := fun spot value member => by
            have asked := (part_edit_member parts ⟨spot.1, spot.2, value⟩).mpr member
            rw [assigned_none _ blank] at asked
            cases asked
          refine ⟨fun _ _ => rfl, fun _ => Or.inl rfl, fun spot value member => ?_, fun spot value member => absurd member
            (silent spot value), fun _ _ _ => rfl⟩
          cases value with
          | none => rfl
          | some value => exact absurd member (silent spot value)
      | false =>
          rw [blank, if_neg Bool.false_ne_true] at done
          dsimp only at done
          cases applied : applyPatch python config (.map ((parts.filterMap partEdit).foldl assign [])) with
          | error failure =>
              rw [applied] at done
              cases done
          | ok next =>
              rw [applied] at done
              cases done
              exact accepted_settled python parts gathered.spots config next applied

-- What a save over a configuration leaves, whoever changed it since the page was
-- loaded.
structure SavedOver (config after : Value) : Prop where
  ints : ∀ field ∈ intFields, after.setting field.outer field.key =
    if page.ints field.spot = "" then config.setting field.outer field.key else (number (page.ints field.spot)).map Value.int
  switched : ∀ spot ∈ boolFields, page.config.setting spot.1 spot.2 ≠ some (.bool (page.switches spot)) →
    after.setting spot.1 spot.2 = some (.bool (page.switches spot))
  left : ∀ spot ∈ boolFields, page.config.setting spot.1 spot.2 = some (.bool (page.switches spot)) →
    after.setting spot.1 spot.2 = config.setting spot.1 spot.2
  named : trim page.hostname ≠ "" → page.config.setting "server" "hostname" ≠ some (.str (trim page.hostname)) →
    after.setting "server" "hostname" = some (.str (python.lower (strip (trim page.hostname))))
  unnamed : trim page.hostname = "" ∨ page.config.setting "server" "hostname" = some (.str (trim page.hostname)) →
    after.setting "server" "hostname" = config.setting "server" "hostname"
  webHostname : after.setting "web" "hostname" =
    if trim page.webHostname = stringOr (getValue page.config "web" "hostname") then config.setting "web" "hostname"
      else some (.str (python.lower (strip (trim page.webHostname))))
  token : after.setting "admin" "token" =
    if trim page.adminTokenInput = "" then config.setting "admin" "token" else some (.str (trim page.adminTokenInput))
  origins : after.setting "cors" "allow_origins" =
    if shownOrigins shown page.config = some (jsJoin page.origins) then config.setting "cors" "allow_origins"
      else some (.list (page.origins.map Value.str))
  others : ∀ outer inner : Key, (∀ spot ∈ pageSpots, ¬ (outer = .str spot.1 ∧ inner = .str spot.2)) →
    after.inner outer inner = config.inner outer inner
  tops : ∀ outer : Key, (∀ spot ∈ pageSpots, outer ≠ .str spot.1) → after.find outer = config.find outer
  shapes : ∀ outer : Key, after.find outer = config.find outer ∨
    (∃ entries, after.find outer = some (.map entries)) ∧ ∀ held, config.find outer = some held → Config.isMapping held

theorem int_fields_listed : ∀ field ∈ intFields, field.spot ∈ Config.intKeys := by decide

theorem json_whole (held : Value) (field : IntField) (member : field ∈ intFields) (whole : Int)
    (checked : Config.checkEntry held field.outer field.key (jsonNumber whole) = .ok ()) : jsonNumber whole = .int whole := by
  obtain ⟨number, same⟩ := Config.checked_int held _ field.outer field.key (int_fields_listed field member) checked
  rw [jsonNumber] at same ⊢
  split
  · rfl
  · rename_i large
    rw [if_neg large] at same
    cases same

theorem int_value_ok (field : IntField) (value : Option Value) (read : page.intValue number field = .ok value) :
    (page.ints field.spot = "" ∧ value = none) ∨
      page.ints field.spot ≠ "" ∧ ∃ whole, number (page.ints field.spot) = some whole ∧ value = some (jsonNumber whole) := by
  rw [ConfigPage.intValue] at read
  by_cases blank : page.ints field.spot = ""
  · rw [if_pos blank] at read
    cases read
    exact Or.inl ⟨blank, rfl⟩
  · rw [if_neg blank] at read
    refine Or.inr ⟨blank, ?_⟩
    cases typed : number (page.ints field.spot) with
    | none =>
        rw [typed] at read
        cases read
    | some whole =>
        rw [typed] at read
        dsimp only at read
        split at read
        · cases read
        · cases read
          exact ⟨whole, rfl, rfl⟩

theorem bool_value_left (spot : String × String) (same : page.config.setting spot.1 spot.2 = some (.bool (page.switches spot))) :
    page.boolValue spot = none := by
  simp only [ConfigPage.boolValue, getValue, same, Option.getD_some, if_true]

theorem bool_value_switched (spot : String × String)
    (changed : page.config.setting spot.1 spot.2 ≠ some (.bool (page.switches spot))) :
    page.boolValue spot = some (.bool (page.switches spot)) := by
  rw [ConfigPage.boolValue]
  split
  · rename_i current held
    refine if_neg fun same => changed ?_
    rw [getValue] at held
    cases found : page.config.setting spot.1 spot.2 with
    | none =>
        rw [found] at held
        cases held
    | some value =>
        rw [found, Option.getD_some] at held
        rw [held, same]
  · rfl

theorem get_text (config : Value) (outer key text : String) (filled : text ≠ "") :
    getValue config outer key = .str text ↔ config.setting outer key = some (.str text) := by
  rw [getValue]
  cases config.setting outer key with
  | none =>
      rw [Option.getD_none]
      exact ⟨fun same => absurd (Value.str.inj same).symm filled, fun same => by cases same⟩
  | some value => rw [Option.getD_some, Option.some.injEq]

theorem hostname_value_kept
    (same : trim page.hostname = "" ∨ page.config.setting "server" "hostname" = some (.str (trim page.hostname))) :
    page.hostnameValue = none := by
  rw [ConfigPage.hostnameValue]
  rcases same with blank | same
  · split
    · exact if_pos (Or.inl blank)
    · exact if_pos blank
  · simp only [getValue, same, Option.getD_some, or_true, if_true]

theorem hostname_value_named (filled : trim page.hostname ≠ "")
    (changed : page.config.setting "server" "hostname" ≠ some (.str (trim page.hostname))) :
    page.hostnameValue = some (.str (trim page.hostname)) := by
  rw [ConfigPage.hostnameValue]
  split
  · rename_i current held
    refine if_neg fun either => ?_
    rcases either with blank | same
    · exact filled blank
    · rw [← same] at held
      exact changed ((get_text page.config "server" "hostname" _ filled).mp held)
  · exact if_neg filled

theorem saved_over (config after : Value) (done : saved shown number python page config = some after) :
    SavedOver shown number python page config after := by
  obtain ⟨parts, current, gathered, settled⟩ := saved_settled shown number python page config after done
  refine ⟨fun field member => ?_, fun spot member changed => ?_, fun spot member same => ?_, fun filled changed => ?_,
    fun same => ?_, ?_, ?_, ?_,
    settled.others, settled.tops, settled.shapes⟩
  · obtain ⟨value, read, inside⟩ := gathered.ints field member
    have now := settled.given _ value inside
    rcases int_value_ok number page field value read with ⟨blank, rfl⟩ | ⟨filled, whole, typed, rfl⟩
    · rw [if_pos blank]
      exact now
    · obtain ⟨held, checked⟩ := settled.checked _ _ inside
      rw [json_whole held field member whole checked] at now
      rw [if_neg filled, typed]
      exact now
  · rw [settled.given _ _ (gathered.switches spot member), bool_value_switched page spot changed]
    rfl
  · rw [settled.given _ _ (gathered.switches spot member), bool_value_left page spot same]
    rfl
  · rw [settled.given ("server", "hostname") _ gathered.hostname, hostname_value_named page filled changed, Option.map_some,
      Config.host_stored python "server" _ (by decide)]
    rfl
  · rw [settled.given ("server", "hostname") _ gathered.hostname, hostname_value_kept page same]
    rfl
  · rw [settled.given ("web", "hostname") _ gathered.webHostname, ConfigPage.webHostnameValue]
    split
    · rfl
    · rw [Option.map_some, Config.host_stored python "web" _ (by decide)]
      rfl
  · rw [settled.given ("admin", "token") _ gathered.token, ConfigPage.tokenValue]
    split
    · rfl
    · rfl
  · rw [settled.given ("cors", "allow_origins") _ gathered.origins, ConfigPage.originsValue, gathered.loaded]
    by_cases same : jsJoin page.origins = current
    · rw [if_pos same, if_pos (congrArg some same.symm)]
      rfl
    · rw [if_neg same, if_neg fun other => same (Option.some.inj other).symm]
      rfl

def ConfigPage.gives (spot : String × String) : Option Value :=
  if (intFields.map IntField.spot).contains spot then
    if page.ints spot = "" then none else (number (page.ints spot)).map Value.int
  else if boolFields.contains spot then page.boolValue spot
  else if spot = ("server", "hostname") then page.hostnameValue.map (normalizeEntry python "server" "hostname")
  else if spot = ("web", "hostname") then page.webHostnameValue.map (normalizeEntry python "web" "hostname")
  else if spot = ("admin", "token") then page.tokenValue
  else if spot = ("cors", "allow_origins") then
    if shownOrigins shown page.config = some (jsJoin page.origins) then none else some (.list (page.origins.map Value.str))
  else none

def saves (pages : List ConfigPage) (config : Value) : Option Value :=
  pages.foldlM (fun config page => saved shown number python page config) config

theorem switches_apart : ∀ spot ∈ intFields.map IntField.spot, spot ∉ boolFields := by decide

theorem saved_gives (config after : Value) (done : saved shown number python page config = some after) (spot : String × String)
    (listed : spot ∈ pageSpots) :
    after.setting spot.1 spot.2 = (page.gives shown number python spot).or (config.setting spot.1 spot.2) := by
  obtain ⟨parts, current, gathered, settled⟩ := saved_settled shown number python page config after done
  have written := saved_over shown number python page config after done
  rcases List.mem_append.mp listed with fields | texts
  · rcases List.mem_append.mp fields with int | switch
    · obtain ⟨field, member, rfl⟩ := List.mem_map.mp int
      have now := written.ints field member
      rw [ConfigPage.gives, if_pos (List.contains_iff_mem.mpr int)]
      by_cases blank : page.ints field.spot = ""
      · rw [if_pos blank] at now ⊢
        exact now
      · rw [if_neg blank] at now ⊢
        obtain ⟨value, read, -⟩ := gathered.ints field member
        rcases int_value_ok number page field value read with ⟨same, -⟩ | ⟨-, whole, typed, -⟩
        · exact absurd same blank
        · rw [typed] at now ⊢
          exact now
    · have apart : spot ∉ intFields.map IntField.spot := fun int => switches_apart spot int switch
      rw [ConfigPage.gives, if_neg (fun held => apart (List.contains_iff_mem.mp held)), if_pos (List.contains_iff_mem.mpr switch),
        settled.given spot _ (gathered.switches spot switch)]
      by_cases same : page.config.setting spot.1 spot.2 = some (.bool (page.switches spot))
      · rw [bool_value_left page spot same]
        rfl
      · rw [bool_value_switched page spot same]
        rfl
  · simp only [textSpots, List.mem_cons, List.not_mem_nil, or_false] at texts
    rcases texts with rfl | rfl | rfl | rfl
    · rw [settled.given ("server", "hostname") _ gathered.hostname]
      rfl
    · rw [settled.given ("web", "hostname") _ gathered.webHostname]
      rfl
    · have given : page.gives shown number python ("admin", "token") = page.tokenValue := rfl
      rw [written.token, given, ConfigPage.tokenValue]
      split <;> rfl
    · have given : page.gives shown number python ("cors", "allow_origins") =
          if shownOrigins shown page.config = some (jsJoin page.origins) then none else some
            (.list (page.origins.map Value.str)) := rfl
      rw [written.origins, given]
      split <;> rfl

-- Of each setting what the last page gave that gave something, as it was where none
-- did, and nothing else is touched.
structure InTurn (pages : List ConfigPage) (config after : Value) : Prop where
  given : ∀ spot ∈ pageSpots, after.setting spot.1 spot.2 =
    (pages.reverse.findSome? (fun page => page.gives shown number python spot)).or (config.setting spot.1 spot.2)
  others : ∀ outer inner : Key, (∀ spot ∈ pageSpots, ¬ (outer = .str spot.1 ∧ inner = .str spot.2)) →
    after.inner outer inner = config.inner outer inner
  tops : ∀ outer : Key, (∀ spot ∈ pageSpots, outer ≠ .str spot.1) → after.find outer = config.find outer

theorem saves_in_turn (pages : List ConfigPage) (config after : Value)
    (done : saves shown number python pages config = some after) :
    InTurn shown number python pages config after := by
  induction pages generalizing config with
  | nil =>
      cases done
      exact ⟨fun _ _ => rfl, fun _ _ _ => rfl, fun _ _ => rfl⟩
  | cons page pages ih =>
      rw [saves, List.foldlM_cons] at done
      obtain ⟨next, first, later⟩ := Option.bind_eq_some_iff.mp done
      have written := saved_over shown number python page config next first
      have rest := ih next later
      refine ⟨fun spot listed => ?_, fun outer inner apart => ?_, fun outer apart => ?_⟩
      · rw [rest.given spot listed, saved_gives shown number python page config next first spot listed, List.reverse_cons,
          List.findSome?_append, List.findSome?_singleton, Option.or_assoc]
      · exact (rest.others outer inner apart).trans (written.others outer inner apart)
      · exact (rest.tops outer apart).trans (written.tops outer apart)

end Saving

-- A setting the panel is shown as it is.
def Readable (spot : String × String) : Prop :=
  Config.secretKey (.str spot.1) = false ∧ Config.secretKey (.str spot.2) = false ∧ ¬ (spot.1 = "database" ∧ spot.2 = "url")

instance (spot : String × String) : Decidable (Readable spot) := inferInstanceAs (Decidable (_ ∧ _ ∧ _))

theorem ints_readable : ∀ field ∈ intFields, Readable field.spot := by decide +kernel

theorem switches_readable : ∀ spot ∈ boolFields, Readable spot := by decide +kernel

theorem texts_readable : ∀ spot ∈ [("server", "hostname"), ("web", "hostname"), ("cors", "allow_origins")], Readable spot := by
  decide +kernel

section Masked

theorem mask_entries_lookup (key : Key) (open_ : Config.secretKey key = false) (entries : List (Key × Value)) :
    (maskEntries entries).lookup key = (entries.lookup key).map maskSecrets := by
  induction entries with
  | nil => rfl
  | cons entry entries ih =>
      obtain ⟨name, value⟩ := entry
      rw [maskEntries, List.lookup_cons, List.lookup_cons, ih]
      cases same : key == name with
      | false => rfl
      | true =>
          rw [← eq_of_beq same, open_]
          rfl

theorem mask_secrets_top (config : Value) (key : String) (open_ : Config.secretKey (.str key) = false) :
    (maskSecrets config).top key = (config.top key).map maskSecrets := by
  cases config with
  | map entries => exact mask_entries_lookup (.str key) open_ entries
  | _ => rfl

theorem mask_secrets_setting (config : Value) (outer key : String) (outerOpen : Config.secretKey (.str outer) = false)
    (keyOpen : Config.secretKey (.str key) = false) :
    (maskSecrets config).setting outer key = (config.setting outer key).map maskSecrets := by
  rw [Value.setting, Value.setting, mask_secrets_top config outer outerOpen]
  cases config.top outer with
  | none => rfl
  | some nested => exact mask_secrets_top nested key keyOpen

theorem masked_setting (config view : Value) (masked : maskConfig config = .ok view) (spot : String × String)
    (readable : Readable spot) : view.setting spot.1 spot.2 = (config.setting spot.1 spot.2).map maskSecrets := by
  obtain ⟨outerOpen, keyOpen, apart⟩ := readable
  obtain ⟨database, -, rest⟩ := Config.bind_ok _ _ _ masked
  obtain ⟨url, -, done⟩ := Config.bind_ok _ _ _ rest
  cases url with
  | str text =>
      obtain ⟨hidden, set, same⟩ := Config.bind_ok _ _ _ done
      cases same
      rw [mask_secrets_setting hidden _ _ outerOpen keyOpen, Config.set_nested_setting config hidden _ "database" "url" set,
        if_neg apart]
  | _ =>
      cases done
      exact mask_secrets_setting config _ _ outerOpen keyOpen

end Masked

section Reloading

variable (shown : Value → String) (number : String → Option Int) (python : Python) (page : ConfigPage)

-- What the page shows after a save against what it showed before: the numbers as
-- JavaScript writes them, names in lower case, blank lines gone, and every switch
-- where it was put.
structure ShownAgain (loaded reloaded : ConfigPage) : Prop where
  ints : ∀ field ∈ intFields, reloaded.ints field.spot = if page.ints field.spot = "" then loaded.ints field.spot
    else ((number (page.ints field.spot)).map (fun whole => shown (.int whole))).getD ""
  switches : ∀ spot ∈ boolFields, reloaded.switches spot = page.switches spot
  hostname : reloaded.hostname = if trim page.hostname = "" ∨ trim page.hostname = loaded.hostname then loaded.hostname
    else python.lower (strip (trim page.hostname))
  webHostname : reloaded.webHostname = if trim page.webHostname = loaded.webHostname then loaded.webHostname
    else python.lower (strip (trim page.webHostname))
  corsOrigins : reloaded.corsOrigins = jsJoin page.origins

variable (origins token : String) (before after : Value)

theorem fetched_ints (spot : String × String) (same : after.setting spot.1 spot.2 = before.setting spot.1 spot.2) :
    (ConfigPage.fetched shown origins token after).ints spot = (ConfigPage.fetched shown origins token before).ints spot := by
  simp only [ConfigPage.fetched, getValue, same]

theorem fetched_int (spot : String × String) (whole : Int) (held : after.setting spot.1 spot.2 = some (.int whole)) :
    (ConfigPage.fetched shown origins token after).ints spot = shown (.int whole) := by
  simp only [ConfigPage.fetched, getValue, held, Option.getD_some]

theorem fetched_switch (spot : String × String) (value : Bool) (held : after.setting spot.1 spot.2 = some (.bool value)) :
    (ConfigPage.fetched shown origins token after).switches spot = value := by
  simp only [ConfigPage.fetched, getValue, held, Option.getD_some]
  cases value with
  | true => rfl
  | false => rfl

theorem shown_texts (texts : ∀ text, shown (.str text) = text) (lines : List String)
    (held : after.setting "cors" "allow_origins" = some (.list (lines.map Value.str))) :
    shownOrigins shown after = some (jsJoin lines) := by
  have items : (lines.map Value.str).map (itemText shown) = lines := by
    rw [List.map_map]
    exact (List.map_congr_left fun line _ => texts line).trans (List.map_id lines)
  simp only [shownOrigins, held, jsTruthy, if_true, items]

theorem mask_texts (lines : List String) : Config.maskItems (lines.map Value.str) = lines.map Value.str := by
  induction lines with
  | nil => rfl
  | cons line lines ih => simp only [List.map_cons, Config.maskItems, ih, maskSecrets]

theorem mask_bool (value : Value) (flag : Bool) (same : maskSecrets value = .bool flag) : value = .bool flag := by
  cases value with
  | bool own => exact same
  | _ => simp [maskSecrets] at same

theorem string_or_get (config : Value) (outer key text : String) (filled : text ≠ "") :
    stringOr (getValue config outer key) = text ↔ config.setting outer key = some (.str text) := by
  rw [← get_text config outer key text filled]
  cases getValue config outer key with
  | str own => simp [stringOr]
  | _ => exact ⟨fun same => absurd same.symm filled, fun same => by cases same⟩

theorem readable_kept (config changed : Value) (loaded : maskConfig config = .ok before)
    (reloaded : maskConfig changed = .ok after)
    (spot : String × String) (readable : Readable spot) (same : changed.setting spot.1 spot.2 = config.setting spot.1 spot.2) :
    after.setting spot.1 spot.2 = before.setting spot.1 spot.2 := by
  rw [masked_setting changed after reloaded spot readable, same, masked_setting config before loaded spot readable]

theorem readable_text (changed : Value) (reloaded : maskConfig changed = .ok after) (outer key text : String)
    (readable : Readable (outer, key)) (held : changed.setting outer key = some (.str text)) :
    stringOr (getValue after outer key) = text := by
  have now := masked_setting changed after reloaded (outer, key) readable
  rw [held] at now
  rw [getValue, now]
  rfl

theorem saved_switches (config changed : Value) (loaded : maskConfig config = .ok page.config)
    (written : SavedOver shown number python page config changed) :
    ∀ spot ∈ boolFields, changed.setting spot.1 spot.2 = some (.bool (page.switches spot)) := by
  intro spot member
  by_cases same : page.config.setting spot.1 spot.2 = some (.bool (page.switches spot))
  · have held := masked_setting config page.config loaded spot (switches_readable spot member)
    rw [same] at held
    obtain ⟨value, there, shape⟩ := Option.map_eq_some_iff.mp held.symm
    rw [written.left spot member same, there, mask_bool value _ shape]
  · exact written.switched spot member same

section Again

variable (config changed : Value) (loaded : maskConfig config = .ok page.config) (reloaded : maskConfig changed = .ok after)
  (written : SavedOver shown number python page config changed)

include loaded reloaded written

theorem int_again (field : IntField) (member : field ∈ intFields) :
    (ConfigPage.fetched shown origins token after).ints field.spot =
      if page.ints field.spot = "" then (ConfigPage.fetched shown origins token page.config).ints field.spot
        else ((number (page.ints field.spot)).map (fun whole => shown (.int whole))).getD "" := by
  have now := written.ints field member
  have readable := ints_readable field member
  by_cases blank : page.ints field.spot = ""
  · rw [if_pos blank] at now ⊢
    exact fetched_ints shown origins token page.config after field.spot
      (readable_kept page.config after config changed loaded reloaded field.spot readable now)
  · rw [if_neg blank] at now ⊢
    have held : after.setting field.spot.1 field.spot.2 = ((number (page.ints field.spot)).map Value.int).map maskSecrets :=
      (masked_setting changed after reloaded field.spot readable).trans (congrArg (Option.map maskSecrets) now)
    cases typed : number (page.ints field.spot) with
    | none =>
        rw [typed] at held
        simp only [ConfigPage.fetched, getValue, held]
        rfl
    | some whole =>
        rw [typed] at held
        exact fetched_int shown origins token after field.spot whole held

theorem hostname_again : stringOr (getValue after "server" "hostname") =
    if trim page.hostname = "" ∨ trim page.hostname = stringOr (getValue page.config "server" "hostname")
      then stringOr (getValue page.config "server" "hostname") else python.lower (strip (trim page.hostname)) := by
  have readable := texts_readable ("server", "hostname") (by decide)
  have kept := readable_kept page.config after config changed loaded reloaded ("server", "hostname") readable
  by_cases blank : trim page.hostname = ""
  · rw [if_pos (Or.inl blank), getValue, kept (written.unnamed (Or.inl blank)), ← getValue]
  · have held := string_or_get page.config "server" "hostname" _ blank
    by_cases same : trim page.hostname = stringOr (getValue page.config "server" "hostname")
    · rw [if_pos (Or.inr same), getValue, kept (written.unnamed (Or.inr (held.mp same.symm))), ← getValue]
    · rw [if_neg (not_or.mpr ⟨blank, same⟩)]
      exact readable_text after changed reloaded "server" "hostname" _ readable
        (written.named blank fun given => same (held.mpr given).symm)

theorem web_hostname_again : stringOr (getValue after "web" "hostname") =
    if trim page.webHostname = stringOr (getValue page.config "web" "hostname")
      then stringOr (getValue page.config "web" "hostname") else python.lower (strip (trim page.webHostname)) := by
  have readable := texts_readable ("web", "hostname") (by decide)
  have now := written.webHostname
  by_cases same : trim page.webHostname = stringOr (getValue page.config "web" "hostname")
  · rw [if_pos same] at now ⊢
    rw [getValue, readable_kept page.config after config changed loaded reloaded ("web", "hostname") readable now, ← getValue]
  · rw [if_neg same] at now ⊢
    exact readable_text after changed reloaded "web" "hostname" _ readable now

theorem origins_again (texts : ∀ text, shown (.str text) = text) : shownOrigins shown after = some (jsJoin page.origins) := by
  have readable := texts_readable ("cors", "allow_origins") (by decide)
  have now := written.origins
  split at now
  · rename_i same
    rw [← same, shownOrigins, readable_kept page.config after config changed loaded reloaded
      ("cors", "allow_origins") readable now]
    rfl
  · have held := masked_setting changed after reloaded ("cors", "allow_origins") readable
    rw [now, Option.map_some, maskSecrets, mask_texts] at held
    exact shown_texts shown after texts page.origins held

end Again

-- A page saved over the configuration it was loaded from, and loaded again.
theorem saved_shown (texts : ∀ text, shown (.str text) = text) (config changed : Value)
    (loaded : maskConfig config = .ok page.config)
    (done : saved shown number python page config = some changed) (reloaded : maskConfig changed = .ok after) :
    (∀ spot ∈ boolFields, changed.setting spot.1 spot.2 = some (.bool (page.switches spot))) ∧
      ShownAgain shown number python page (ConfigPage.fetched shown origins token page.config)
        (ConfigPage.fetched shown origins token after) := by
  have written := saved_over shown number python page config changed done
  have turned := saved_switches shown number python page config changed loaded written
  refine ⟨turned, fun field member => ?_, fun spot member => ?_, ?_, ?_, ?_⟩
  · exact int_again shown number python page origins token after config changed loaded reloaded written field member
  · refine fetched_switch shown origins token after spot _ ?_
    rw [masked_setting changed after reloaded spot (switches_readable spot member), turned spot member]
    rfl
  · exact hostname_again shown number python page after config changed loaded reloaded written
  · exact web_hostname_again shown number python page after config changed loaded reloaded written
  · show (shownOrigins shown after).getD origins = jsJoin page.origins
    rw [origins_again shown number python page after config changed loaded reloaded written texts, Option.getD_some]

end Reloading

section Samples

def plainShown : Value → String
  | .str text => text
  | .int whole => toString whole
  | _ => ""

def plainNumber (raw : String) : Option Int := if raw = "24" then some 24 else if raw = "48" then some 48 else none

def plainConfig : Value :=
  .map [(.str "domains", .list [.str "a.org"]), (.str "tempmail", .map [(.str "address_lifetime_hours", .int 24)]),
    (.str "web", .map [(.str "hostname", .str "panel.example.com")]),
    (.str "cors", .map [(.str "allow_origins", .list [.str "https://a.example"])])]

def plainPage : ConfigPage := ConfigPage.fetched plainShown "" "" plainConfig

def typedPage : ConfigPage :=
  { plainPage with
    ints := fun spot => if spot = ("tempmail", "address_lifetime_hours") then "48" else ""
    webHostname := " Mail.Example.com" }

def savedPlain (page : ConfigPage) : Value := (saved plainShown plainNumber Api.asciiPython page plainConfig).getD .null

theorem saved_plain (page : ConfigPage) (saves : (saved plainShown plainNumber Api.asciiPython page plainConfig).isSome = true) :
    saved plainShown plainNumber Api.asciiPython page plainConfig = some (savedPlain page) := by
  rw [savedPlain, ← Option.get_eq_getD (h := saves)]
  exact (Option.some_get saves).symm

def bothSaved : Value := (saves plainShown plainNumber Api.asciiPython [typedPage, plainPage] plainConfig).getD .null

theorem both_saved_in_turn : InTurn plainShown plainNumber Api.asciiPython [typedPage, plainPage] plainConfig bothSaved := by
  have accepted : (saves plainShown plainNumber Api.asciiPython [typedPage, plainPage] plainConfig).isSome =
    true := by decide +kernel
  refine saves_in_turn plainShown plainNumber Api.asciiPython [typedPage, plainPage] plainConfig bothSaved ?_
  rw [bothSaved, ← Option.get_eq_getD (h := accepted)]
  exact (Option.some_get accepted).symm

def typedView : Value :=
  match maskConfig (savedPlain typedPage) with
  | .ok view => view
  | .error _ => .null

theorem typed_view_served : maskConfig (savedPlain typedPage) = .ok typedView := by
  have served : (maskConfig (savedPlain typedPage)).isOk = true := by decide +kernel
  rw [typedView]
  cases masked : maskConfig (savedPlain typedPage) with
  | ok view => rfl
  | error failure =>
      rw [masked] at served
      cases served

theorem typed_page_shown :
    (∀ spot ∈ boolFields, (savedPlain typedPage).setting spot.1 spot.2 = some (.bool (typedPage.switches spot))) ∧
      ShownAgain plainShown plainNumber Api.asciiPython typedPage (ConfigPage.fetched plainShown "" "" plainConfig)
        (ConfigPage.fetched plainShown "" "" typedView) :=
  saved_shown plainShown plainNumber Api.asciiPython typedPage "" "" typedView (fun _ => rfl) plainConfig
    (savedPlain typedPage) (by rfl)
    (saved_plain typedPage (by decide +kernel)) typed_view_served

end Samples

end Tempmail.Web.Panel
