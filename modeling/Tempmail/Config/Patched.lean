import Tempmail.Api.Usernames
import Tempmail.Config.Patch

set_option autoImplicit false

namespace Tempmail.Config

open Api (Python)

def Value.top (config : Value) (key : String) : Option Value :=
  match config with
  | .map entries => entries.lookup (.str key)
  | _ => none

def Value.setting (config : Value) (outer key : String) : Option Value := (config.top outer).bind (fun nested => nested.top key)

abbrev Offers := String → String → Option Value

def offerEntry (outer : String) (offers : Offers) (entry : Key × Value) : Offers :=
  fun asked key => if asked = outer ∧ entry.1 = .str key then some entry.2 else offers asked key

def offerSection (offers : Offers) (part : Key × Value) : Offers :=
  match part with
  | (.str outer, .map entries) => entries.foldl (offerEntry outer) offers
  | _ => offers

-- The value a patch gives each key last.
def Value.offers (patch : Value) : Offers :=
  match patch with
  | .map sections => sections.foldl offerSection (fun _ _ => none)
  | _ => fun _ _ => none

section Nested

variable (config changed item : Value) (outer inner : String)

theorem set_item_top (key other : String) (done : config.setItem key item = .ok changed) :
    changed.top other = if other = key then some item else config.top other := by
  cases config with
  | map entries =>
      cases done
      by_cases same : other = key
      · rw [if_pos same, same]
        exact lookup_put_same key item entries
      · rw [if_neg same]
        exact lookup_put_other key other item entries same
  | _ => cases done

theorem get_top (key : String) (fallback : Value) (found : Value) (done : config.get key fallback = .ok found) :
    found = (config.top key).getD fallback := by
  cases config with
  | map entries => exact (Except.ok.inj done).symm
  | _ => cases done

theorem nested_get (nested old fallback : Value) (present : config.get outer (.map []) = .ok nested)
    (held : nested.get inner fallback = .ok old) : old = (config.setting outer inner).getD fallback := by
  rw [get_top nested inner fallback old held, get_top config outer (.map []) nested present, Value.setting]
  cases config.top outer with
  | none => rfl
  | some found => rfl

theorem set_nested_top (done : config.setNested outer inner item = .ok changed) (other : String) (apart : other ≠ outer) :
    changed.top other = config.top other := by
  obtain ⟨nested, filled, -, -, stored⟩ := set_nested_parts config changed item outer inner done
  rw [set_item_top config changed filled outer other stored, if_neg apart]

theorem set_nested_section (done : config.setNested outer inner item = .ok changed) :
    ∃ entries, changed.top outer = some (.map entries) := by
  obtain ⟨nested, filled, -, set, stored⟩ := set_nested_parts config changed item outer inner done
  rw [set_item_top config changed filled outer outer stored, if_pos rfl]
  cases nested with
  | map entries =>
      cases set
      exact ⟨_, rfl⟩
  | _ => cases set

theorem set_nested_setting (done : config.setNested outer inner item = .ok changed) (other key : String) :
    changed.setting other key = if other = outer ∧ key = inner then some item else config.setting other key := by
  obtain ⟨nested, filled, present, set, stored⟩ := set_nested_parts config changed item outer inner done
  have tops := set_item_top config changed filled outer other stored
  by_cases same : other = outer
  · rw [if_pos same] at tops
    rw [Value.setting, tops, Option.bind_some, set_item_top nested filled item inner key set]
    by_cases key_eq : key = inner
    · rw [if_pos key_eq, if_pos ⟨same, key_eq⟩]
    · rw [if_neg key_eq, if_neg fun both => key_eq both.2, Value.setting, same]
      rw [get_top config outer (.map []) nested present]
      cases config.top outer with
      | none => rfl
      | some found => rfl
  · rw [if_neg same] at tops
    rw [if_neg fun both => same both.1, Value.setting, tops, Value.setting]

end Nested

section Steps

variable (python : Python)

structure EntryApplied (outer : String) (allowed : List String) (state next : Value × Changes) (key : String) (value : Value) :
    Prop where
  allowed : key ∈ allowed
  checked : checkEntry state.1 outer key value = .ok ()
  stored : state.1.setNested outer key (normalizeEntry python outer key value) = .ok next.1
  noted : next.2 =
    if ((state.1.setting outer key).getD .null).same (normalizeEntry python outer key value) ∨ (outer, key) ∈ state.2
    then state.2 else state.2 ++ [(outer, key)]

theorem refuse_ok (condition : Bool) (message : String) (passed : refuse condition message = .ok ()) : condition = false := by
  cases condition with
  | true => cases passed
  | false => rfl

theorem entry_applied (outer : String) (allowed : List String) (state next : Value × Changes) (entry : Key × Value)
    (done : applyEntry python outer allowed state entry = .ok next) :
    ∃ key, entry.1 = .str key ∧ EntryApplied python outer allowed state next key entry.2 := by
  obtain ⟨name, value⟩ := entry
  obtain ⟨config, changed⟩ := state
  obtain ⟨_, known, done⟩ := bind_ok _ _ _ done
  obtain ⟨_, checked, done⟩ := bind_ok _ _ _ done
  obtain ⟨nested, present, done⟩ := bind_ok _ _ _ done
  obtain ⟨old, held, done⟩ := bind_ok _ _ _ done
  obtain ⟨patched, stored, done⟩ := bind_ok _ _ _ done
  cases done
  have known := refuse_ok _ _ known
  cases name with
  | other text => cases known
  | str key =>
      refine ⟨key, rfl, ⟨by simpa using known, checked, stored, ?_⟩⟩
      rw [← nested_get config outer key nested old .null present held]
      exact if_congr (by rw [Bool.or_eq_true, decide_eq_true_eq]; rfl) rfl rfl

structure Patching (config : Value) (offers : Offers) (state : Value × Changes) : Prop where
  settings : ∀ outer key, state.1.setting outer key = ((offers outer key).map (normalizeEntry python outer key)).or
    (config.setting outer key)
  offered : ∀ outer key value, offers outer key = some value →
    (∃ allowed, allowedPatchSections.lookup outer = some allowed ∧ key ∈ allowed) ∧
    ∃ held, checkEntry held outer key value = .ok ()
  sections : ∀ outer, state.1.top outer = config.top outer ∨
    (allowedPatchSections.lookup outer).isSome = true ∧ ∃ entries, state.1.top outer = some (.map entries)
  steady : ∀ outer key, (outer, key) ∈ intKeys → (outer, key) ∉ state.2 → state.1.setting outer key = config.setting outer key ∨
    ∃ old number, config.setting outer key = some old ∧ state.1.setting outer key = some (.int number) ∧
      old.same (.int number) = true
  mapping : ∀ entries, state.1 = .map entries → ∃ before, config = .map before

theorem same_int (left right : Int) : (Value.int left).same (.int right) = true ↔ left = right := by
  simp only [Value.same, Value.number, beq_iff_eq, Option.some.injEq, Rat.intCast_inj]
  exact eq_comm

theorem checked_shape (held value : Value) (outer key : String) (checked : checkEntry held outer key value = .ok ()) :
    checkShape outer key value = .ok () := by
  obtain ⟨_, shaped, -⟩ := bind_ok _ _ _ checked
  exact shaped

theorem checked_int (held value : Value) (outer key : String) (member : (outer, key) ∈ intKeys)
    (checked : checkEntry held outer key value = .ok ()) : ∃ number, value = .int number := by
  have checked := checked_shape held value outer key checked
  rw [checkShape] at checked
  simp only [member, if_true] at checked
  cases value with
  | int number => exact ⟨number, rfl⟩
  | _ => cases checked

theorem checked_bool (held value : Value) (outer key : String) (member : (outer, key) ∈ boolKeys)
    (checked : checkEntry held outer key value = .ok ()) : ∃ flag, value = .bool flag := by
  have apart : ∀ pair ∈ boolKeys, pair ∉ intKeys := by decide
  have checked := checked_shape held value outer key checked
  rw [checkShape] at checked
  simp only [apart _ member, if_false] at checked
  obtain ⟨_, passed, -⟩ := bind_ok _ _ _ checked
  have shaped := refuse_ok _ _ passed
  cases value with
  | bool flag => exact ⟨flag, rfl⟩
  | _ => simp [member, Value.isBool] at shaped

theorem checked_hostname (held value : Value) (checked : checkEntry held "server" "hostname" value = .ok ()) :
    ∃ text, value = .str text ∧ isHostname (Api.strip text) = true := by
  have checked := checked_shape held value "server" "hostname" checked
  obtain ⟨_, -, checked⟩ := bind_ok _ _ _ checked
  obtain ⟨_, -, checked⟩ := bind_ok _ _ _ checked
  obtain ⟨_, passed, -⟩ := bind_ok _ _ _ checked
  have shaped := refuse_ok _ _ passed
  cases value with
  | str text => exact ⟨text, rfl, by simpa [Value.strMeets] using shaped⟩
  | _ => simp [Value.strMeets] at shaped

section Entry

variable (config : Value) (offers : Offers) (outer : String) (allowed : List String) (state next : Value × Changes) (key : String)
  (value : Value) (patching : Patching python config offers state)
  (applied : EntryApplied python outer allowed state next key value)

include patching applied

theorem entry_settings (asked name : String) : next.1.setting asked name =
    ((offerEntry outer offers (.str key, value) asked name).map (normalizeEntry python asked name)).or
    (config.setting asked name) := by
  rw [set_nested_setting state.1 next.1 _ outer key applied.stored, offerEntry]
  by_cases here : asked = outer ∧ name = key
  · obtain ⟨rfl, rfl⟩ := here
    simp
  · have elsewhere : ¬ (asked = outer ∧ Key.str key = Key.str name) := fun both => here ⟨both.1, (Key.str.inj both.2).symm⟩
    rw [if_neg here, if_neg elsewhere]
    exact patching.settings asked name

theorem entry_offered (known : allowedPatchSections.lookup outer = some allowed) (asked name : String) (given : Value)
    (offered : offerEntry outer offers (.str key, value) asked name = some given) :
    (∃ allowed, allowedPatchSections.lookup asked = some allowed ∧ name ∈ allowed) ∧
      ∃ held, checkEntry held asked name given = .ok () := by
  rw [offerEntry] at offered
  split at offered
  · rename_i here
    obtain ⟨rfl, same⟩ := here
    cases same
    cases offered
    exact ⟨⟨allowed, known, applied.allowed⟩, ⟨state.1, applied.checked⟩⟩
  · exact patching.offered asked name given offered

theorem entry_sections (known : allowedPatchSections.lookup outer = some allowed) (asked : String) :
    next.1.top asked = config.top asked ∨
      (allowedPatchSections.lookup asked).isSome = true ∧ ∃ entries, next.1.top asked = some (.map entries) := by
  by_cases here : asked = outer
  · rw [here]
    exact Or.inr ⟨by rw [known]; rfl, set_nested_section state.1 next.1 _ outer key applied.stored⟩
  · rw [set_nested_top state.1 next.1 _ outer key applied.stored asked here]
    exact patching.sections asked

theorem entry_steady_here (member : (outer, key) ∈ intKeys) (silent : (outer, key) ∉ next.2) :
    next.1.setting outer key = config.setting outer key ∨
      ∃ old number, config.setting outer key = some old ∧ next.1.setting outer key = some (.int number) ∧
        old.same (.int number) = true := by
  have now := set_nested_setting state.1 next.1 _ outer key applied.stored outer key
  have noted := applied.noted
  obtain ⟨number, rfl⟩ := checked_int state.1 value outer key member applied.checked
  rw [if_pos ⟨rfl, rfl⟩] at now
  rw [now]
  split at noted
  · rename_i quiet
    rw [noted] at silent
    have same := quiet.resolve_right silent
    rcases patching.steady outer key member silent with kept | ⟨old, before, held, moved, agrees⟩
    · rw [kept] at same
      cases found : config.setting outer key with
      | none =>
          rw [found] at same
          cases same
      | some old =>
          rw [found] at same
          exact Or.inr ⟨old, number, rfl, rfl, same⟩
    · rw [moved] at same
      have same_eq := (same_int before number).mp same
      exact Or.inr ⟨old, number, held, rfl, same_eq ▸ agrees⟩
  · exact absurd (by rw [noted]; simp) silent

theorem entry_steady (asked name : String) (member : (asked, name) ∈ intKeys) (silent : (asked, name) ∉ next.2) :
    next.1.setting asked name = config.setting asked name ∨
      ∃ old number, config.setting asked name = some old ∧ next.1.setting asked name = some (.int number) ∧
        old.same (.int number) = true := by
  by_cases here : asked = outer ∧ name = key
  · obtain ⟨rfl, rfl⟩ := here
    exact entry_steady_here python config offers asked allowed state next name value patching applied member silent
  · rw [set_nested_setting state.1 next.1 _ outer key applied.stored, if_neg here]
    have noted := applied.noted
    have earlier : (asked, name) ∉ state.2 := by
      intro present
      apply silent
      rw [noted]
      split
      · exact present
      · exact List.mem_append_left _ present
    exact patching.steady asked name member earlier

theorem entry_mapping : ∃ before, config = .map before := by
  obtain ⟨nested, filled, present, -, -⟩ := set_nested_parts state.1 next.1 _ outer key applied.stored
  cases before : state.1 with
  | map entries => exact patching.mapping entries before
  | _ =>
      rw [before] at present
      cases present

end Entry

theorem entry_patching (config : Value) (offers : Offers) (outer : String) (allowed : List String) (state next : Value × Changes)
    (entry : Key × Value) (known : allowedPatchSections.lookup outer = some allowed)
    (patching : Patching python config offers state)
    (done : applyEntry python outer allowed state entry = .ok next) :
    Patching python config (offerEntry outer offers entry) next := by
  obtain ⟨key, key_eq, applied⟩ := entry_applied python outer allowed state next entry done
  obtain ⟨name, value⟩ := entry
  subst key_eq
  exact ⟨entry_settings python config offers outer allowed state next key value patching applied,
    entry_offered python config offers outer allowed state next key value patching applied known,
    entry_sections python config offers outer allowed state next key value patching applied known,
    entry_steady python config offers outer allowed state next key value patching applied,
    fun _ _ => entry_mapping python config offers outer allowed state next key value patching applied⟩

theorem entries_patching (config : Value) (outer : String) (allowed : List String)
    (known : allowedPatchSections.lookup outer = some allowed) (entries : List (Key × Value)) (offers : Offers)
    (state next : Value × Changes) (patching : Patching python config offers state)
    (done : entries.foldlM (applyEntry python outer allowed) state = .ok next) :
    Patching python config (entries.foldl (offerEntry outer) offers) next := by
  induction entries generalizing offers state with
  | nil =>
      cases done
      exact patching
  | cons entry rest ih =>
      rw [List.foldlM_cons] at done
      obtain ⟨middle, first, later⟩ := bind_ok _ _ _ done
      exact ih _ middle (entry_patching python config offers outer allowed state middle entry known patching first) later

theorem section_patching (config : Value) (offers : Offers) (state next : Value × Changes) (part : Key × Value)
    (patching : Patching python config offers state) (done : applySection python state part = .ok next) :
    Patching python config (offerSection offers part) next := by
  obtain ⟨name, values⟩ := part
  cases name with
  | other text => cases done
  | str outer =>
      simp only [applySection] at done
      cases known : allowedPatchSections.lookup outer with
      | none =>
          rw [known] at done
          cases done
      | some allowed =>
          rw [known] at done
          cases values with
          | map entries => exact entries_patching python config outer allowed known entries offers state next patching done
          | _ => cases done

theorem sections_patching (config : Value) (parts : List (Key × Value)) (offers : Offers) (state next : Value × Changes)
    (patching : Patching python config offers state) (done : parts.foldlM (applySection python) state = .ok next) :
    Patching python config (parts.foldl offerSection offers) next := by
  induction parts generalizing offers state with
  | nil =>
      cases done
      exact patching
  | cons part rest ih =>
      rw [List.foldlM_cons] at done
      obtain ⟨middle, first, later⟩ := bind_ok _ _ _ done
      exact ih _ middle (section_patching python config offers state middle part patching first) later

-- The summary of an accepted patch: a key it offers holds the offered value,
-- and everything else is as it was.
theorem patch_applied (config patch : Value) (next : Value × Changes) (accepted : applyPatch python config patch = .ok next) :
    Patching python config patch.offers next ∧ ∃ after, next.1 = .map after := by
  cases patch with
  | map parts =>
      obtain ⟨⟨patched, changed⟩, applied, rest⟩ := bind_ok _ _ _ accepted
      obtain ⟨_, panel, done⟩ := bind_ok _ _ _ rest
      cases done
      have fresh : Patching python config (fun _ _ => none) (config, []) := by
        constructor
        · intro outer key
          rfl
        · intro outer key value offered
          cases offered
        · intro outer
          exact Or.inl rfl
        · intro outer key _ _
          exact Or.inl rfl
        · intro entries same
          exact ⟨entries, same⟩
      refine ⟨sections_patching python config parts _ _ _ fresh applied, ?_⟩
      obtain ⟨web, present, -⟩ := bind_ok _ _ _ panel
      cases patched with
      | map entries => exact ⟨entries, rfl⟩
      | _ => cases present
  | _ => cases accepted

end Steps

section Hostname

open Api (isUsernameChar strip)

theorem hostname_chars (text : String) (valid : isHostname (strip text) = true) :
    strip text ≠ "" ∧ ∀ c ∈ (strip text).toList, isUsernameChar c = true := by
  have whole := valid
  rw [isHostname, Api.match_line_solid hostnamePattern _ (Api.strip_last text)] at whole
  simp only [hostnamePattern, Bool.and_eq_true, decide_eq_true_eq] at whole
  obtain ⟨⟨⟨-, several⟩, labels⟩, final⟩ := whole
  constructor
  · intro empty
    rw [empty] at several
    exact absurd several (by decide)
  · intro c member
    rcases Text.split_member '.' c _ member with dot | ⟨label, known, inside⟩
    · rw [dot]
      decide
    · cases parts : (strip text).toList.splitOn '.' with
      | nil => exact absurd parts (List.splitOn_ne_nil '.' _)
      | cons head tail =>
          rw [parts, ← List.dropLast_append_getLast (List.cons_ne_nil head tail), List.mem_append, List.mem_singleton] at known
          rw [parts, List.all_eq_true] at labels
          rw [parts, List.getLast?_eq_some_getLast (List.cons_ne_nil head tail), Option.any_some] at final
          rcases known with front | top
          · have plain := labels label front
            simp only [Api.domainLabel, Bool.and_eq_true, List.all_eq_true, Bool.or_eq_true] at plain
            rcases plain.1.1.2 c inside with letter | hyphen
            · simp only [isUsernameChar, letter, Bool.true_or]
            · simp only [isUsernameChar, hyphen, Bool.or_true]
          · rw [← top] at final
            simp only [topLevelLabel, Bool.and_eq_true, List.all_eq_true] at final
            simp only [isUsernameChar, Api.isAlnum, final.2 c inside, Bool.true_or]

theorem hostname_named (python : Python) (text : String) (valid : isHostname (strip text) = true) :
    python.lower (strip text) ≠ "" := by
  obtain ⟨named, chars⟩ := hostname_chars text valid
  have ascii := python.ascii (strip text) fun c member => (Api.username_char_plain c (chars c member)).1
  intro empty
  rw [ascii] at empty
  have none := congrArg String.toList empty
  rw [Text.map_chars_list] at none
  exact named (Text.chars_ext _ _ (List.map_eq_nil_iff.mp none))

end Hostname

end Tempmail.Config
