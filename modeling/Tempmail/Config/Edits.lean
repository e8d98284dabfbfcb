import Tempmail.Config.Masking

set_option autoImplicit false

namespace Tempmail.Config

open Api (Python strip)

def Value.find (value : Value) (key : Key) : Option Value :=
  match value with
  | .map entries => entries.lookup key
  | _ => none

def Value.inner (config : Value) (outer inner : Key) : Option Value := (config.find outer).bind (fun nested => nested.find inner)

structure Edit where
  outer : String
  key : String
  value : Value

def Edit.spot (edit : Edit) : String × String := (edit.outer, edit.key)

def Edit.stored (python : Python) (edit : Edit) : Value := normalizeEntry python edit.outer edit.key edit.value

def gather {α : Type} (read : α → Option (List Edit)) (items : List α) : Option (List Edit) := (items.mapM read).map List.flatten

def entryEdits (outer : String) (allowed : List String) (entry : Key × Value) : Option (List Edit) :=
  match entry.1 with
  | .str key => if key ∈ allowed then some [⟨outer, key, entry.2⟩] else none
  | .other _ => none

def sectionEdits (part : Key × Value) : Option (List Edit) :=
  match part with
  | (.str outer, .map entries) => (allowedPatchSections.lookup outer).bind
    (fun allowed => gather (entryEdits outer allowed) entries)
  | _ => none

-- What a patch asks for, in its order; none where it names something it may
-- not.
def Value.edits (patch : Value) : Option (List Edit) :=
  match patch with
  | .map parts => gather sectionEdits parts
  | _ => none

theorem bind_ok_iff {α β ε : Type} (first : Except ε α) (next : α → Except ε β) (result : β) :
    first >>= next = .ok result ↔ ∃ value, first = .ok value ∧ next value = .ok result := by
  constructor
  · exact bind_ok first next result
  · rintro ⟨value, done, rest⟩
    rw [done]
    exact rest

theorem check_entry_iff (config : Value) (group key : String) (value : Value) :
    checkEntry config group key value = .ok () ↔ checkShape group key value = .ok () ∧
      checkBounds config group key value = .ok () := by
  rw [checkEntry, bind_ok_iff]
  constructor
  · rintro ⟨_, shape, bounds⟩
    exact ⟨shape, bounds⟩
  · intro both
    exact ⟨(), both.1, both.2⟩

section Lookups

theorem lookup_put (key : String) (other : Key) (item : Value) (entries : List (Key × Value)) :
    (Value.put key item entries).lookup other = if other = .str key then some item else entries.lookup other := by
  by_cases same : other = .str key
  · rw [if_pos same, same]
    exact lookup_put_same key item entries
  · have distinct : (other == Key.str key) = false := by simpa using same
    rw [if_neg same, Value.put]
    split
    · exact lookup_kept (.str key) other item entries same
    · simp [List.lookup_append, List.lookup_cons, distinct]

theorem set_item_find (value changed item : Value) (key : String) (other : Key) (done : value.setItem key item = .ok changed) :
    changed.find other = if other = .str key then some item else value.find other := by
  cases value with
  | map entries =>
      cases done
      exact lookup_put key other item entries
  | _ => cases done

-- Where a section of a configuration can be written: it is a mapping or absent.
def Value.writable (config : Value) (outer : String) : Prop :=
  ∃ entries, config = .map entries ∧ ∀ nested, entries.lookup (.str outer) = some nested → isMapping nested

variable (config changed item : Value) (outer key : String)

theorem set_nested_find (done : config.setNested outer key item = .ok changed) (other : Key) (apart : other ≠ .str outer) :
    changed.find other = config.find other := by
  obtain ⟨nested, filled, -, -, stored⟩ := set_nested_parts config changed item outer key done
  rw [set_item_find config changed filled outer other stored, if_neg apart]

theorem set_nested_inner (done : config.setNested outer key item = .ok changed) (other inner : Key) :
    changed.inner other inner = if other = .str outer ∧ inner = .str key then some item else config.inner other inner := by
  obtain ⟨nested, filled, present, set, stored⟩ := set_nested_parts config changed item outer key done
  by_cases same : other = .str outer
  · rw [Value.inner, set_item_find config changed filled outer other stored, if_pos same, Option.bind_some,
      set_item_find nested filled item key inner set]
    by_cases here : inner = .str key
    · rw [if_pos here, if_pos ⟨same, here⟩]
    · have nested_eq : nested = (config.find (.str outer)).getD (.map []) := get_top config outer (.map []) nested present
      rw [if_neg here, if_neg fun both => here both.2, Value.inner, same, nested_eq]
      cases config.find (.str outer) with
      | none => rfl
      | some found => rfl
  · rw [if_neg fun both => same both.1, Value.inner, set_nested_find config changed item outer key done other same, Value.inner]

theorem set_nested_writable (writable : config.writable outer) : ∃ changed, config.setNested outer key item = .ok changed := by
  obtain ⟨entries, rfl, mapping⟩ := writable
  cases found : entries.lookup (.str outer) with
  | none => exact ⟨_, by simp only [Value.setNested, Value.get, found, Option.getD_none, Value.setItem]; rfl⟩
  | some nested =>
      obtain ⟨inner, rfl⟩ := mapping nested found
      exact ⟨_, by simp only [Value.setNested, Value.get, found, Option.getD_some, Value.setItem]; rfl⟩

theorem set_nested_was_writable (done : config.setNested outer key item = .ok changed) : config.writable outer := by
  obtain ⟨nested, filled, present, set, -⟩ := set_nested_parts config changed item outer key done
  cases config with
  | map entries =>
      refine ⟨entries, rfl, fun found held => ?_⟩
      have same := Except.ok.inj present
      rw [held, Option.getD_some] at same
      cases nested with
      | map inner => exact ⟨inner, same⟩
      | _ => cases set
  | _ => cases present

theorem set_nested_still_writable (done : config.setNested outer key item = .ok changed) (other : String) :
    changed.writable other ↔ config.writable other := by
  obtain ⟨nested, filled, present, set, stored⟩ := set_nested_parts config changed item outer key done
  obtain ⟨entries, rfl, mapping⟩ := set_nested_was_writable config changed item outer key done
  cases stored
  have lookups := lookup_put outer (.str other) filled entries
  by_cases same : other = outer
  · subst same
    refine ⟨fun _ => ⟨entries, rfl, mapping⟩, fun _ => ⟨_, rfl, fun found held => ?_⟩⟩
    rw [lookups, if_pos rfl] at held
    cases held
    cases nested with
    | map inner =>
        cases set
        exact ⟨_, rfl⟩
    | _ => cases set
  · rw [if_neg fun both => same (Key.str.inj both)] at lookups
    constructor
    · rintro ⟨after, whole, found⟩
      cases whole
      rw [lookups] at found
      exact ⟨entries, rfl, found⟩
    · rintro ⟨before, whole, found⟩
      cases whole
      exact ⟨_, rfl, by rw [lookups]; exact found⟩

end Lookups

theorem gather_cons {α : Type} (read : α → Option (List Edit)) (item : α) (rest : List α) (edits : List Edit) :
    gather read (item :: rest) = some edits ↔
      ∃ own others, read item = some own ∧ gather read rest = some others ∧ edits = own ++ others := by
  rw [gather, List.mapM_cons]
  constructor
  · intro named
    obtain ⟨lists, mapped, rfl⟩ := Option.map_eq_some_iff.mp named
    obtain ⟨own, here, mapped⟩ := Option.bind_eq_some_iff.mp mapped
    obtain ⟨others, there, same⟩ := Option.bind_eq_some_iff.mp mapped
    cases same
    exact ⟨own, others.flatten, here, by rw [gather, there]; rfl, rfl⟩
  · rintro ⟨own, _, here, there, rfl⟩
    obtain ⟨others, mapped, rfl⟩ := Option.map_eq_some_iff.mp there
    simp [here, mapped]

section Runs

variable (python : Python)

structure Turned (edit : Edit) (state next : Value × Changes) : Prop where
  checked : checkEntry state.1 edit.outer edit.key edit.value = .ok ()
  stored : state.1.setNested edit.outer edit.key (edit.stored python) = .ok next.1
  noted : next.2 = if ((state.1.setting edit.outer edit.key).getD .null).same (edit.stored python) ∨ edit.spot ∈ state.2
    then state.2 else state.2 ++ [edit.spot]

inductive Applied : List Edit → Value × Changes → Value × Changes → Prop where
  | none (state : Value × Changes) : Applied [] state state
  | next (edit : Edit) (rest : List Edit) (state middle last : Value × Changes) (step : Turned python edit state middle)
      (later : Applied rest middle last) : Applied (edit :: rest) state last

theorem applied_one (edit : Edit) (state next : Value × Changes) :
    Applied python [edit] state next ↔ Turned python edit state next := by
  constructor
  · intro run
    cases run with
    | next edit rest state middle last step later =>
        cases later
        exact step
  · intro step
    exact .next edit [] state next next step (.none next)

theorem applied_append (front back : List Edit) (state last : Value × Changes) :
    Applied python (front ++ back) state last ↔ ∃ middle, Applied python front state middle ∧
      Applied python back middle last := by
  induction front generalizing state with
  | nil =>
      constructor
      · intro run
        exact ⟨state, .none state, run⟩
      · rintro ⟨middle, here, run⟩
        cases here
        exact run
  | cons edit rest ih =>
      constructor
      · intro run
        cases run with
        | next _ _ _ first _ step later =>
            obtain ⟨middle, before, after⟩ := (ih first).mp later
            exact ⟨middle, .next edit rest state first middle step before, after⟩
      · rintro ⟨middle, run, after⟩
        cases run with
        | next _ _ _ first _ step before => exact .next edit _ state first last step ((ih first).mpr ⟨middle, before, after⟩)

theorem gather_applied {α : Type} (turn : Value × Changes → α → Except Raised (Value × Changes)) (read : α → Option (List Edit))
    (turns : ∀ item state next, turn state item = .ok next ↔ ∃ edits, read item = some edits ∧ Applied python edits state next)
    (items : List α) (state last : Value × Changes) :
    items.foldlM turn state = .ok last ↔ ∃ edits, gather read items = some edits ∧ Applied python edits state last := by
  induction items generalizing state with
  | nil =>
      constructor
      · intro done
        cases done
        exact ⟨[], rfl, .none last⟩
      · rintro ⟨edits, named, run⟩
        cases named
        cases run
        rfl
  | cons item rest ih =>
      rw [List.foldlM_cons, bind_ok_iff]
      constructor
      · rintro ⟨middle, first, later⟩
        obtain ⟨own, here, run⟩ := (turns item state middle).mp first
        obtain ⟨others, there, onward⟩ := (ih middle).mp later
        exact ⟨own ++ others, (gather_cons read item rest _).mpr ⟨own, others, here, there, rfl⟩,
          (applied_append python own others state last).mpr ⟨middle, run, onward⟩⟩
      · rintro ⟨edits, named, run⟩
        obtain ⟨own, others, here, there, rfl⟩ := (gather_cons read item rest edits).mp named
        obtain ⟨middle, before, after⟩ := (applied_append python own others state last).mp run
        exact ⟨middle, (turns item state middle).mpr ⟨own, here, before⟩, (ih middle).mpr ⟨others, there, after⟩⟩

theorem apply_entry_iff (outer : String) (allowed : List String) (state next : Value × Changes) (entry : Key × Value) :
    applyEntry python outer allowed state entry = .ok next ↔
      ∃ edits, entryEdits outer allowed entry = some edits ∧ Applied python edits state next := by
  constructor
  · intro done
    obtain ⟨key, key_eq, applied⟩ := entry_applied python outer allowed state next entry done
    refine ⟨[⟨outer, key, entry.2⟩], ?_, .next _ _ _ _ _ ⟨applied.checked, applied.stored, applied.noted⟩ (.none next)⟩
    simp only [entryEdits, key_eq, if_pos applied.allowed]
  · rintro ⟨edits, shaped, run⟩
    obtain ⟨name, value⟩ := entry
    obtain ⟨config, changed⟩ := state
    cases name with
    | other text => cases shaped
    | str key =>
        by_cases known : key ∈ allowed
        · simp only [entryEdits, if_pos known, Option.some.injEq] at shaped
          subst shaped
          have step := (applied_one python _ (config, changed) next).mp run
          obtain ⟨nested, filled, present, set, -⟩ := set_nested_parts config next.1 _ outer key step.stored
          obtain ⟨old, held⟩ : ∃ old, nested.get key .null = .ok old := by
            cases nested with
            | map inner => exact ⟨_, rfl⟩
            | _ => cases set
          have old_eq := nested_get config outer key nested old .null present held
          refine (bind_ok_iff _ _ _).mpr ⟨(), by simp [refuse, known], (bind_ok_iff _ _ _).mpr ⟨(), step.checked, ?_⟩⟩
          refine (bind_ok_iff _ _ _).mpr ⟨nested, present, (bind_ok_iff _ _ _).mpr ⟨old, held, ?_⟩⟩
          refine (bind_ok_iff _ _ _).mpr ⟨next.1, step.stored, ?_⟩
          rw [old_eq]
          refine congrArg Except.ok (Prod.ext rfl (Eq.trans ?_ step.noted.symm))
          exact if_congr (by rw [Bool.or_eq_true, decide_eq_true_eq]; rfl) rfl rfl
        · simp only [entryEdits, if_neg known] at shaped
          cases shaped

theorem apply_section_iff (part : Key × Value) (state next : Value × Changes) :
    applySection python state part = .ok next ↔ ∃ edits, sectionEdits part = some edits ∧ Applied python edits state next := by
  obtain ⟨name, values⟩ := part
  have refused (failed : applySection python state (name, values) ≠ .ok next) (silent : sectionEdits (name, values) = none) :
      applySection python state (name, values) = .ok next ↔
        ∃ edits, sectionEdits (name, values) = some edits ∧ Applied python edits state next := by
    constructor
    · intro done
      exact absurd done failed
    · rintro ⟨edits, named, -⟩
      rw [silent] at named
      cases named
  cases name with
  | other text => exact refused (by intro done; cases done) rfl
  | str outer =>
      cases known : allowedPatchSections.lookup outer with
      | none =>
          refine refused (fun done => ?_) ?_
          · simp only [applySection, known] at done
            cases done
          · cases values with
            | map entries => simp only [sectionEdits, known, Option.bind_none]
            | _ => rfl
      | some allowed =>
          cases values with
          | map entries =>
              simp only [applySection, sectionEdits, known, Option.bind_some]
              exact gather_applied python _ _ (fun entry first last => apply_entry_iff python outer allowed first last entry)
                entries state next
          | _ => exact refused (by simp only [applySection, known]; intro done; cases done) rfl

theorem apply_patch_iff (config patch : Value) (next : Value × Changes) :
    applyPatch python config patch = .ok next ↔
      ∃ edits, patch.edits = some edits ∧ Applied python edits (config, []) next ∧ checkPanel next.1 = .ok () := by
  cases patch with
  | map parts =>
      rw [applyPatch, bind_ok_iff]
      constructor
      · rintro ⟨state, run, rest⟩
        obtain ⟨_, panel, same⟩ := (bind_ok_iff _ _ _).mp rest
        cases same
        obtain ⟨edits, named, applied⟩ := (gather_applied python _ _ (apply_section_iff python) parts _ _).mp run
        exact ⟨edits, named, applied, panel⟩
      · rintro ⟨edits, named, applied, panel⟩
        exact ⟨next, (gather_applied python _ _ (apply_section_iff python) parts _ _).mpr ⟨edits, named, applied⟩,
          (bind_ok_iff _ _ _).mpr ⟨(), panel, rfl⟩⟩
  | _ =>
      constructor
      · intro done
        cases done
      · rintro ⟨edits, named, -⟩
        cases named

structure Merged (edits : List Edit) (config after : Value) : Prop where
  tops : ∀ other : Key, (∀ edit ∈ edits, other ≠ .str edit.outer) → after.find other = config.find other
  sections : ∀ edit ∈ edits, ∃ entries, after.find (.str edit.outer) = some (.map entries)
  given : ∀ edit ∈ edits, after.setting edit.outer edit.key = some (edit.stored python)
  kept : ∀ outer inner : Key, (∀ edit ∈ edits, ¬ (outer = .str edit.outer ∧ inner = .str edit.key)) →
    after.inner outer inner = config.inner outer inner

theorem turned_setting (edit other : Edit) (state next : Value × Changes) (step : Turned python edit state next)
    (apart : other.spot ≠ edit.spot) : next.1.setting other.outer other.key = state.1.setting other.outer other.key := by
  rw [set_nested_setting state.1 next.1 _ edit.outer edit.key step.stored]
  exact if_neg fun both => apart (Prod.ext both.1 both.2)

theorem applied_section (edits : List Edit) (state last : Value × Changes) (run : Applied python edits state last) (outer : Key)
    (mapping : ∃ entries, state.1.find outer = some (.map entries)) : ∃ entries, last.1.find outer = some (.map entries) := by
  induction run with
  | none state => exact mapping
  | next edit rest state middle last step later ih =>
      refine ih ?_
      by_cases here : outer = .str edit.outer
      · rw [here]
        exact set_nested_section state.1 middle.1 _ edit.outer edit.key step.stored
      · rw [set_nested_find state.1 middle.1 _ edit.outer edit.key step.stored outer here]
        exact mapping

theorem applied_writable (edits : List Edit) (state last : Value × Changes) (run : Applied python edits state last) (edit : Edit)
    (member : edit ∈ edits) : state.1.writable edit.outer := by
  induction run with
  | none state => cases member
  | next first rest state middle last step later ih =>
      rcases List.mem_cons.mp member with rfl | member
      · exact set_nested_was_writable state.1 middle.1 _ edit.outer edit.key step.stored
      · exact (set_nested_still_writable state.1 middle.1 _ first.outer first.key step.stored edit.outer).mp (ih member)

theorem applied_merged (edits : List Edit) (state last : Value × Changes) (run : Applied python edits state last)
    (distinct : (edits.map Edit.spot).Nodup) : Merged python edits state.1 last.1 := by
  induction run with
  | none state => exact ⟨fun _ _ => rfl, fun _ named => absurd named (List.not_mem_nil),
    fun _ named => absurd named List.not_mem_nil,
      fun _ _ _ => rfl⟩
  | next edit rest state middle last step later ih =>
      obtain ⟨fresh, distinct⟩ := List.nodup_cons.mp distinct
      have merged := ih distinct
      constructor
      · intro other silent
        rw [merged.tops other fun e member => silent e (List.mem_cons_of_mem _ member)]
        exact set_nested_find state.1 middle.1 _ edit.outer edit.key step.stored other (silent edit List.mem_cons_self)
      · intro e member
        rcases List.mem_cons.mp member with rfl | member
        · exact applied_section python rest middle last later _ (set_nested_section state.1 middle.1 _ e.outer e.key step.stored)
        · exact merged.sections e member
      · intro e member
        rcases List.mem_cons.mp member with rfl | member
        · have now := set_nested_setting state.1 middle.1 _ e.outer e.key step.stored e.outer e.key
          rw [if_pos ⟨rfl, rfl⟩] at now
          rw [← now]
          refine merged.kept (.str e.outer) (.str e.key) fun other there same => fresh (List.mem_map.mpr ⟨other, there, ?_⟩)
          exact Prod.ext (Key.str.inj same.1).symm (Key.str.inj same.2).symm
        · exact merged.given e member
      · intro outer inner silent
        rw [merged.kept outer inner fun e member => silent e (List.mem_cons_of_mem _ member),
          set_nested_inner state.1 middle.1 _ edit.outer edit.key step.stored]
        exact if_neg (silent edit List.mem_cons_self)

-- The changed set of a run is judged against the configuration it began with.
theorem applied_noted (edits : List Edit) (state last : Value × Changes) (run : Applied python edits state last)
    (distinct : (edits.map Edit.spot).Nodup) (spot : String × String) :
    spot ∈ last.2 ↔ spot ∈ state.2 ∨ ∃ edit ∈ edits, edit.spot = spot ∧
      ((state.1.setting edit.outer edit.key).getD .null).same (edit.stored python) = false := by
  induction run with
  | none state => simp
  | next edit rest state middle last step later ih =>
      obtain ⟨fresh, distinct⟩ := List.nodup_cons.mp distinct
      have settled : ∀ e ∈ rest, middle.1.setting e.outer e.key = state.1.setting e.outer e.key := by
        intro e member
        refine turned_setting python edit e state middle step fun same => fresh (List.mem_map.mpr ⟨e, member, same⟩)
      have first : spot ∈ middle.2 ↔ spot ∈ state.2 ∨ edit.spot = spot ∧
          ((state.1.setting edit.outer edit.key).getD .null).same (edit.stored python) = false := by
        rw [step.noted]
        split
        · rename_i quiet
          refine ⟨Or.inl, fun noted => noted.elim id fun new => ?_⟩
          rcases quiet with same | present
          · rw [same] at new
            exact absurd new.2 (by decide)
          · exact new.1 ▸ present
        · rename_i loud
          rw [not_or, Bool.not_eq_true] at loud
          rw [List.mem_append, List.mem_singleton]
          exact or_congr Iff.rfl ⟨fun same => ⟨same.symm, loud.1⟩, fun new => new.1.symm⟩
      rw [ih distinct, first, or_assoc]
      refine or_congr Iff.rfl ?_
      rw [List.exists_mem_cons_iff]
      refine or_congr Iff.rfl (exists_congr fun e => and_congr_right fun member => ?_)
      rw [settled e member]

end Runs

section Names

def whitelisted (outer key : String) : Bool := (allowedPatchSections.lookup outer).any (fun allowed => allowed.contains key)

def Named (patch : Value) (outer key : String) (value : Value) : Prop :=
  ∃ parts entries, patch = .map parts ∧ (.str outer, .map entries) ∈ parts ∧ (.str key, value) ∈ entries

-- json.loads builds dicts, so no key of the patch or of a section comes twice.
structure Dicts (patch : Value) : Prop where
  top : patch.keyed
  sections : ∀ outer values, patch.find outer = some values → values.keyed

variable {α : Type} (read : α → Option (List Edit)) (items : List α) (edits : List Edit)
    (gathered : gather read items = some edits)

include gathered

theorem gather_member (edit : Edit) : edit ∈ edits ↔ ∃ item ∈ items, ∃ own, read item = some own ∧ edit ∈ own := by
  induction items generalizing edits with
  | nil =>
      cases gathered
      simp
  | cons item rest ih =>
      obtain ⟨own, others, here, there, rfl⟩ := (gather_cons read item rest edits).mp gathered
      rw [List.mem_append, ih others there, List.exists_mem_cons_iff, here]
      simp

theorem gather_reads (item : α) (member : item ∈ items) : ∃ own, read item = some own := by
  induction items generalizing edits with
  | nil => cases member
  | cons first rest ih =>
      obtain ⟨own, others, here, there, -⟩ := (gather_cons read first rest edits).mp gathered
      rcases List.mem_cons.mp member with rfl | member
      · exact ⟨own, here⟩
      · exact ih others there member

theorem gather_distinct (mark : α → Key) (tag : String × String → Key)
    (tagged : ∀ item ∈ items, ∀ own, read item = some own → ∀ edit ∈ own, tag edit.spot = mark item)
    (each : ∀ item ∈ items, ∀ own, read item = some own → (own.map Edit.spot).Nodup) (unique : (items.map mark).Nodup) :
    (edits.map Edit.spot).Nodup := by
  induction items generalizing edits with
  | nil =>
      cases gathered
      exact List.nodup_nil
  | cons item rest ih =>
      obtain ⟨first, others, here, there, rfl⟩ := (gather_cons read item rest edits).mp gathered
      obtain ⟨fresh, unique⟩ := List.nodup_cons.mp unique
      have tail := ih others there (fun other member => tagged other (List.mem_cons_of_mem _ member))
        (fun other member => each other (List.mem_cons_of_mem _ member)) unique
      rw [List.map_append]
      refine List.Nodup.append (each item List.mem_cons_self first here) tail fun spot front back => fresh ?_
      obtain ⟨left, member, rfl⟩ := List.mem_map.mp front
      obtain ⟨right, found, same⟩ := List.mem_map.mp back
      obtain ⟨other, present, own, held, inside⟩ := (gather_member read rest others there right).mp found
      rw [← tagged item List.mem_cons_self first here left member, ← same,
        tagged other (List.mem_cons_of_mem _ present) own held right inside]
      exact List.mem_map.mpr ⟨other, present, rfl⟩

end Names

section Patches

theorem section_edits_iff (part : Key × Value) (edits : List Edit) :
    sectionEdits part = some edits ↔ ∃ outer entries allowed, part = (.str outer, .map entries) ∧
      allowedPatchSections.lookup outer = some allowed ∧ gather (entryEdits outer allowed) entries = some edits := by
  constructor
  · intro named
    obtain ⟨name, values⟩ := part
    cases name with
    | other text => cases named
    | str outer =>
        cases values with
        | map entries =>
            obtain ⟨allowed, known, gathered⟩ := Option.bind_eq_some_iff.mp named
            exact ⟨outer, entries, allowed, rfl, known, gathered⟩
        | _ => cases named
  · rintro ⟨outer, entries, allowed, rfl, known, gathered⟩
    simp only [sectionEdits, known, Option.bind_some, gathered]

theorem entry_edits_iff (outer : String) (allowed : List String) (entry : Key × Value) (edits : List Edit) :
    entryEdits outer allowed entry = some edits ↔ ∃ key, entry.1 = .str key ∧ key ∈ allowed ∧ edits =
      [⟨outer, key, entry.2⟩] := by
  obtain ⟨name, value⟩ := entry
  cases name with
  | other text => simp [entryEdits]
  | str key =>
      simp only [entryEdits, Option.ite_none_right_eq_some, Option.some.injEq, Key.str.injEq]
      constructor
      · rintro ⟨known, rfl⟩
        exact ⟨key, rfl, known, rfl⟩
      · rintro ⟨_, rfl, known, rfl⟩
        exact ⟨known, rfl⟩

theorem section_edit (outer : String) (entries : List (Key × Value)) (allowed : List String) (edits : List Edit)
    (gathered : gather (entryEdits outer allowed) entries = some edits) (edit : Edit) :
    edit ∈ edits ↔ edit.outer = outer ∧ edit.key ∈ allowed ∧ (.str edit.key, edit.value) ∈ entries := by
  rw [gather_member _ entries edits gathered]
  constructor
  · rintro ⟨entry, member, own, named, inside⟩
    obtain ⟨key, key_eq, known, rfl⟩ := (entry_edits_iff outer allowed entry own).mp named
    rw [List.mem_singleton] at inside
    subst inside
    exact ⟨rfl, known, by rw [← key_eq]; exact member⟩
  · rintro ⟨rfl, known, member⟩
    exact ⟨_, member, [edit], (entry_edits_iff edit.outer allowed _ _).mpr ⟨edit.key, rfl, known, rfl⟩,
      List.mem_singleton.mpr rfl⟩

variable (patch : Value) (edits : List Edit) (named : patch.edits = some edits)

include named

theorem edits_named (edit : Edit) : edit ∈ edits ↔ Named patch edit.outer edit.key edit.value := by
  cases patch with
  | map parts =>
      have gathered : gather sectionEdits parts = some edits := named
      rw [gather_member _ parts edits gathered]
      constructor
      · rintro ⟨part, member, own, held, inside⟩
        obtain ⟨outer, entries, allowed, rfl, known, inner⟩ := (section_edits_iff part own).mp held
        obtain ⟨rfl, -, present⟩ := (section_edit outer entries allowed own inner edit).mp inside
        exact ⟨parts, entries, rfl, member, present⟩
      · rintro ⟨_, entries, same, member, present⟩
        cases same
        obtain ⟨own, held⟩ := gather_reads _ parts edits gathered _ member
        obtain ⟨outer, entries, allowed, same, known, inner⟩ := (section_edits_iff _ own).mp held
        cases same
        obtain ⟨single, picked⟩ := gather_reads _ entries own inner _ present
        obtain ⟨key, key_eq, listed, -⟩ := (entry_edits_iff _ allowed _ single).mp picked
        cases key_eq
        exact ⟨_, member, own, held, (section_edit _ entries allowed own inner edit).mpr ⟨rfl, listed, present⟩⟩
  | _ => cases named

theorem edit_whitelisted (edit : Edit) (member : edit ∈ edits) : whitelisted edit.outer edit.key = true := by
  cases patch with
  | map parts =>
      obtain ⟨part, -, own, held, inside⟩ := (gather_member _ parts edits named edit).mp member
      obtain ⟨outer, entries, allowed, rfl, known, inner⟩ := (section_edits_iff part own).mp held
      obtain ⟨rfl, listed, -⟩ := (section_edit outer entries allowed own inner edit).mp inside
      simpa [whitelisted, known] using listed
  | _ => cases named

theorem edits_distinct (dicts : Dicts patch) : (edits.map Edit.spot).Nodup := by
  cases patch with
  | map parts =>
      refine gather_distinct sectionEdits parts edits named Prod.fst (fun spot => .str spot.1) ?_ ?_ dicts.top
      · intro part _ own held edit inside
        obtain ⟨outer, entries, allowed, rfl, -, inner⟩ := (section_edits_iff part own).mp held
        obtain ⟨rfl, -, -⟩ := (section_edit outer entries allowed own inner edit).mp inside
        rfl
      · intro part member own held
        obtain ⟨outer, entries, allowed, rfl, -, inner⟩ := (section_edits_iff part own).mp held
        have keyed := dicts.sections (.str outer) (.map entries) (lookup_member _ _ parts dicts.top member)
        refine gather_distinct _ entries own inner Prod.fst (fun spot => .str spot.2) ?_ ?_ keyed
        · intro entry _ single picked edit inside
          obtain ⟨key, key_eq, -, rfl⟩ := (entry_edits_iff outer allowed entry single).mp picked
          rw [List.mem_singleton] at inside
          rw [inside, key_eq]
          rfl
        · intro entry _ single picked
          obtain ⟨key, -, -, rfl⟩ := (entry_edits_iff outer allowed entry single).mp picked
          exact List.nodup_singleton _
  | _ => cases named

end Patches

end Tempmail.Config
