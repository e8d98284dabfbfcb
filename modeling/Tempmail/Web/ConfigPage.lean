import Tempmail.Config.Undo
import Tempmail.Web.MailboxPage

set_option autoImplicit false

namespace Tempmail.Web.Panel

open Api (Python strip)
open Mailbox (trim)
open Config (Value Key Raised Edit Changes Named Dicts Applied applyPatch)

structure IntField where
  outer : String
  key : String
  least : Int
deriving DecidableEq

def IntField.spot (field : IntField) : String × String := (field.outer, field.key)

def intFields : List IntField :=
  [⟨"server", "max_message_size_mb", 1⟩, ⟨"tempmail", "address_lifetime_hours", 1⟩, ⟨"tempmail", "max_emails_per_address", 1⟩,
    ⟨"tempmail", "max_storage_mb", 0⟩, ⟨"tempmail", "cleanup_interval_hours", 1⟩, ⟨"tempmail", "min_username_length", 1⟩,
    ⟨"tempmail", "max_username_length", 1⟩, ⟨"database", "pool_size", 1⟩, ⟨"database", "max_overflow", 1⟩,
    ⟨"rate_limits", "address_create_per_minute", 0⟩, ⟨"rate_limits", "permanent_create_per_minute", 0⟩,
    ⟨"rate_limits", "api_create_per_minute", 0⟩, ⟨"rate_limits", "setup_per_minute", 0⟩, ⟨"rate_limits", "admin_per_minute", 0⟩,
    ⟨"rate_limits", "email_read_per_minute", 0⟩]

def boolFields : List (String × String) :=
  [("server", "docs_enabled"), ("tempmail", "allow_custom_usernames"), ("validation", "check_dkim"), ("validation", "check_spf"),
    ("validation", "check_dmarc"), ("validation", "store_results"), ("tls", "enabled"), ("web", "allow_ip_access")]

def textSpots : List (String × String) :=
  [("server", "hostname"), ("web", "hostname"), ("admin", "token"), ("cors", "allow_origins")]

-- What handleSave may name in a patch, in its order.
def pageSpots : List (String × String) := intFields.map IntField.spot ++ boolFields ++ textSpots

-- The page once it has loaded a configuration; its button is disabled before.
structure ConfigPage where
  config : Value
  ints : String × String → String
  switches : String × String → Bool
  hostname : String
  webHostname : String
  corsOrigins : String
  adminTokenInput : String

inductive Stopped where
  | belowLeast (least : Int)
  | failed
deriving DecidableEq

inductive Saving where
  | stopped (reason : Stopped)
  | nothing
  | put (patch : Value)

def getValue (config : Value) (outer key : String) : Value := (config.setting outer key).getD (.str "")

def stringOr (value : Value) : String :=
  match value with
  | .str text => text
  | _ => ""

def jsTruthy : Value → Bool
  | .null => false
  | .bool value => value
  | .int value => value != 0
  | .float value => value != 0
  | .str text => text != ""
  | _ => true

def jsLines (text : String) : List String := (text.toList.splitOn '\n').map String.ofList

def jsJoin (lines : List String) : String := "\n".intercalate lines

-- JSON.stringify writes an exponent from 10^21 on, which json.loads reads as a float.
def jsonNumber (whole : Int) : Value := if whole.natAbs < 1000000000000000000000 then .int whole else .float whole

section Page

-- String(v), and Number(raw) where it is an integer.
variable (shown : Value → String) (number : String → Option Int)

def itemText (item : Value) : String :=
  match item with
  | .null => ""
  | other => shown other

def shownOrigins (config : Value) : Option String :=
  match config.setting "cors" "allow_origins" with
  | none => some ""
  | some value =>
      if jsTruthy value then
        match value with
        | .list items => some (jsJoin (items.map (itemText shown)))
        | _ => none
      else some ""

-- A reload keeps the origins it had where the new ones do not load.
def ConfigPage.fetched (origins token : String) (config : Value) : ConfigPage where
  config
  ints spot := match getValue config spot.1 spot.2 with
    | .str "" => ""
    | value => shown value
  switches spot := match getValue config spot.1 spot.2 with
    | .bool true => true
    | _ => false
  hostname := stringOr (getValue config "server" "hostname")
  webHostname := stringOr (getValue config "web" "hostname")
  corsOrigins := (shownOrigins shown config).getD origins
  adminTokenInput := token

namespace ConfigPage

variable (page : ConfigPage)

-- What the patch gets for a number field, where it gets something.
def intValue (field : IntField) : Except Stopped (Option Value) :=
  let raw := page.ints field.spot
  if raw = "" then .ok none
  else match number raw with
    | some whole => if whole < field.least then .error (.belowLeast field.least) else .ok (some (jsonNumber whole))
    | none => .error (.belowLeast field.least)

def boolValue (spot : String × String) : Option Value :=
  let next := page.switches spot
  match getValue page.config spot.1 spot.2 with
  | .bool current => if current = next then none else some (.bool next)
  | _ => some (.bool next)

def hostnameValue : Option Value :=
  let hostname := trim page.hostname
  match getValue page.config "server" "hostname" with
  | .str current => if hostname = "" ∨ hostname = current then none else some (.str hostname)
  | _ => if hostname = "" then none else some (.str hostname)

def webHostnameValue : Option Value :=
  let webHostname := trim page.webHostname
  if webHostname = stringOr (getValue page.config "web" "hostname") then none else some (.str webHostname)

def tokenValue : Option Value :=
  let token := trim page.adminTokenInput
  if token = "" then none else some (.str token)

def origins : List String := ((jsLines page.corsOrigins).map trim).filter (fun line => line != "")

def originsValue (current : String) : Option Value :=
  if jsJoin page.origins = current then none else some (.list (page.origins.map Value.str))

def parts : Except Stopped (List ((String × String) × Option Value)) := do
  let ints ← intFields.mapM (fun field => (page.intValue number field).map (fun value => (field.spot, value)))
  match shownOrigins shown page.config with
  | none => .error .failed
  | some current => .ok (ints ++ boolFields.map (fun spot => (spot, page.boolValue spot)) ++
      [(("server", "hostname"), page.hostnameValue), (("web", "hostname"), page.webHostnameValue),
        (("admin", "token"), page.tokenValue), (("cors", "allow_origins"), page.originsValue current)])

end ConfigPage

def partEdit (part : (String × String) × Option Value) : Option Edit := part.2.map (fun value => ⟨part.1.1, part.1.2, value⟩)

def inside (patch : List (Key × Value)) (outer : String) : List (Key × Value) :=
  match patch.lookup (.str outer) with
  | some (.map entries) => entries
  | _ => []

def assign (patch : List (Key × Value)) (edit : Edit) : List (Key × Value) :=
  Value.put edit.outer (.map (Value.put edit.key edit.value (inside patch edit.outer))) patch

def ConfigPage.handleSave (page : ConfigPage) : Saving :=
  match page.parts shown number with
  | .error reason => .stopped reason
  | .ok parts =>
      let patch := (parts.filterMap partEdit).foldl assign []
      if patch.isEmpty then .nothing else .put (.map patch)

end Page

section Patches

theorem put_keyed (key : String) (item : Value) (entries : List (Key × Value)) (unique : (entries.map Prod.fst).Nodup) :
    ((Value.put key item entries).map Prod.fst).Nodup := by
  rw [Value.put]
  split
  · have names : (entries.map (fun entry => if entry.1 == .str key then (entry.1, item) else entry)).map Prod.fst =
        entries.map Prod.fst := by
      rw [List.map_map]
      refine List.map_congr_left fun entry _ => ?_
      rw [Function.comp_apply]
      split <;> rfl
    rw [names]
    exact unique
  · rename_i absent
    rw [List.map_append, List.nodup_append]
    refine ⟨unique, List.nodup_singleton _, fun name there other here => ?_⟩
    rintro rfl
    obtain ⟨entry, member, rfl⟩ := List.mem_map.mp there
    refine absent (List.any_eq_true.mpr ⟨entry, member, ?_⟩)
    rw [List.mem_singleton.mp here]
    exact beq_self_eq_true _

structure Objects (patch : List (Key × Value)) : Prop where
  keyed : (patch.map Prod.fst).Nodup
  sections : ∀ outer values, patch.lookup outer = some values → ∃ entries, values = .map entries ∧ (entries.map Prod.fst).Nodup

variable (patch : List (Key × Value)) (objects : Objects patch)

include objects

theorem assign_nested (edit : Edit) :
    (Value.map patch).setNested edit.outer edit.key edit.value = .ok (.map (assign patch edit)) := by
  cases found : patch.lookup (.str edit.outer) with
  | none =>
      simp only [Value.setNested, Value.get, Value.setItem, found, Option.getD_none, assign, inside]
      rfl
  | some values =>
      obtain ⟨entries, rfl, -⟩ := objects.sections _ _ found
      simp only [Value.setNested, Value.get, Value.setItem, found, Option.getD_some, assign, inside]
      rfl

theorem inside_keyed (outer : String) : ((inside patch outer).map Prod.fst).Nodup := by
  rw [inside]
  cases found : patch.lookup (.str outer) with
  | none => exact List.nodup_nil
  | some values =>
      obtain ⟨entries, rfl, unique⟩ := objects.sections _ _ found
      exact unique

theorem assign_objects (edit : Edit) : Objects (assign patch edit) := by
  refine ⟨put_keyed edit.outer _ patch objects.keyed, fun outer values found => ?_⟩
  rw [assign, Config.lookup_put] at found
  split at found
  · cases found
    exact ⟨_, rfl, put_keyed edit.key edit.value _ (inside_keyed patch objects edit.outer)⟩
  · exact objects.sections outer values found

theorem assembled_objects (edits : List Edit) : Objects (edits.foldl assign patch) := by
  induction edits generalizing patch with
  | nil => exact objects
  | cons edit edits ih => exact ih _ (assign_objects patch objects edit)

theorem assembled_setting (edits : List Edit) (distinct : (edits.map Edit.spot).Nodup) (outer key : String) (value : Value) :
    (Value.map (edits.foldl assign patch)).setting outer key = some value ↔ ⟨outer, key, value⟩ ∈ edits ∨
      (∀ edit ∈ edits, edit.spot ≠ (outer, key)) ∧ (Value.map patch).setting outer key = some value := by
  induction edits generalizing patch with
  | nil => simp
  | cons edit edits ih =>
      obtain ⟨fresh, distinct⟩ := List.nodup_cons.mp distinct
      have now := Config.set_nested_setting _ _ _ edit.outer edit.key (assign_nested patch objects edit) outer key
      rw [List.foldl_cons, ih _ (assign_objects patch objects edit) distinct, now, List.mem_cons, List.forall_mem_cons]
      by_cases here : edit.spot = (outer, key)
      · have both : outer = edit.outer ∧ key = edit.key := ⟨(Prod.mk.inj here).1.symm, (Prod.mk.inj here).2.symm⟩
        have silent : ∀ other ∈ edits, other.spot ≠ (outer, key) := fun other member same =>
          fresh (List.mem_map.mpr ⟨other, member, same.trans here.symm⟩)
        rw [if_pos both]
        constructor
        · rintro (member | ⟨-, same⟩)
          · exact absurd rfl (silent _ member)
          · obtain ⟨rfl, rfl⟩ := both
            rw [← Option.some.inj same]
            exact Or.inl (Or.inl rfl)
        · rintro ((same | member) | ⟨⟨apart, -⟩, -⟩)
          · exact Or.inr ⟨silent, by rw [← same]⟩
          · exact absurd rfl (silent _ member)
          · exact absurd here apart
      · have apart : ¬ (outer = edit.outer ∧ key = edit.key) := fun both => here (Prod.ext both.1.symm both.2.symm)
        rw [if_neg apart]
        constructor
        · rintro (member | ⟨silent, held⟩)
          · exact Or.inl (Or.inr member)
          · exact Or.inr ⟨⟨here, silent⟩, held⟩
        · rintro ((same | member) | ⟨⟨-, silent⟩, held⟩)
          · exact absurd (by rw [← same]; rfl) here
          · exact Or.inl member
          · exact Or.inr ⟨silent, held⟩

end Patches

theorem no_objects : Objects [] := ⟨List.nodup_nil, by simp⟩

theorem assembled_dicts (edits : List Edit) : Dicts (.map (edits.foldl assign [])) := by
  have objects := assembled_objects [] no_objects edits
  refine ⟨objects.keyed, fun outer values found => ?_⟩
  obtain ⟨entries, rfl, unique⟩ := objects.sections outer values found
  exact unique

theorem lookup_member_iff (name : Key) (value : Value) (entries : List (Key × Value)) (unique : (entries.map Prod.fst).Nodup) :
    entries.lookup name = some value ↔ (name, value) ∈ entries := by
  constructor
  · intro found
    obtain ⟨front, back, whole, -⟩ := List.lookup_eq_some_iff.mp found
    rw [whole]
    exact List.mem_append_right front List.mem_cons_self
  · exact Config.lookup_member name value entries unique

theorem named_setting (patch : Value) (dicts : Dicts patch) (outer key : String) (value : Value) :
    Named patch outer key value ↔ patch.setting outer key = some value := by
  rw [Value.setting, Option.bind_eq_some_iff]
  constructor
  · rintro ⟨parts, entries, rfl, member, present⟩
    have top : (Value.map parts).top outer = some (.map entries) := (lookup_member_iff _ _ parts dicts.top).mpr member
    have unique : (entries.map Prod.fst).Nodup := dicts.sections (.str outer) (.map entries) top
    exact ⟨.map entries, top, (lookup_member_iff _ _ entries unique).mpr present⟩
  · rintro ⟨nested, top, held⟩
    cases patch with
    | map parts =>
        cases nested with
        | map entries =>
            have unique : (entries.map Prod.fst).Nodup := dicts.sections (.str outer) (.map entries) top
            exact ⟨parts, entries, rfl, (lookup_member_iff _ _ parts dicts.top).mp top,
              (lookup_member_iff _ _ entries unique).mp held⟩
        | _ => cases held
    | _ => cases top

theorem assembled_named (edits : List Edit) (distinct : (edits.map Edit.spot).Nodup) (outer key : String) (value : Value) :
    Named (.map (edits.foldl assign [])) outer key value ↔ ⟨outer, key, value⟩ ∈ edits := by
  rw [named_setting _ (assembled_dicts edits), assembled_setting [] no_objects edits distinct]
  exact or_iff_left fun both => absurd both.2 (by simp [Value.setting, Value.top])

end Tempmail.Web.Panel
