import Mathlib.Data.List.Nodup
import Tempmail.Api.Atomicity
import Tempmail.Config.WellFormed

set_option autoImplicit false

namespace Tempmail.Config

open Api (Python strip)

section Orders

def Shuffled (left right : Value) : Prop := left = right ∨ ∃ one two, left = .map one ∧ right = .map two ∧ one.Perm two

def sameMember (left right : Key × Value) : Prop := left.1 = right.1 ∧ Shuffled left.2 right.2

def Reordered (left right : Value) : Prop :=
  left = right ∨ ∃ one middle two, left = .map one ∧ right = .map two ∧ one.Perm middle ∧ List.Forall₂ sameMember middle two

def SameSection (left right : Option Value) : Prop :=
  left = right ∨ ∃ one two, left = some (.map one) ∧ right = some (.map two) ∧ ∀ key : Key, one.lookup key = two.lookup key

-- Equal as dicts of dicts, whatever the order of their keys.
structure SameConfig (left right : Value) : Prop where
  mappings : isMapping left ∧ isMapping right
  sections : ∀ key : Key, SameSection (left.find key) (right.find key)

def SamePatched (left right : Except Raised (Value × Changes)) : Prop :=
  (∃ one two, left = .error one ∧ right = .error two) ∨
    ∃ one two, left = .ok one ∧ right = .ok two ∧ SameConfig one.1 two.1 ∧ ∀ spot, spot ∈ one.2 ↔ spot ∈ two.2

end Orders

section Bounds

def isBound (edit : Edit) : Bool := edit.spot == minSpot || edit.spot == maxSpot

def Value.lengths (patch : Value) : List Edit := (patch.edits.getD []).filter isBound

def minEdit (least : Int) : Edit := ⟨"tempmail", "min_username_length", .int least⟩

def maxEdit (most : Int) : Edit := ⟨"tempmail", "max_username_length", .int most⟩

@[simp] theorem min_edit_spot (least : Int) : (minEdit least).spot = minSpot := rfl

@[simp] theorem max_edit_spot (most : Int) : (maxEdit most).spot = maxSpot := rfl

@[simp] theorem min_edit_value (least : Int) : (minEdit least).value = .int least := rfl

@[simp] theorem max_edit_value (most : Int) : (maxEdit most).value = .int most := rfl

theorem spots_apart : minSpot ≠ maxSpot := by decide

-- What the bound checks of a run make of its edits, from the two bounds alone.
def Orderly : Value → Value → List Edit → Prop
  | _, _, [] => True
  | low, high, edit :: rest =>
      (edit.spot = minSpot → high.lessThan edit.value = .ok false) ∧ (edit.spot = maxSpot → edit.value.lessThan low = .ok false) ∧
        Orderly (if edit.spot = minSpot then edit.value else low) (if edit.spot = maxSpot then edit.value else high) rest

def Settles (python : Python) (config : Value) (edits : List Edit) (spot : String × String) (value : Value) : Prop :=
  (∃ edit ∈ edits, edit.spot = spot ∧ edit.stored python = value) ∨
    ((∀ edit ∈ edits, edit.spot ≠ spot) ∧ config.setting spot.1 spot.2 = some value)

-- All that apply_patch asks of a patch but the order of its bounds.
structure Acceptable (python : Python) (config : Value) (edits : List Edit) : Prop where
  shaped : ∀ edit ∈ edits, checkShape edit.outer edit.key edit.value = .ok ()
  writable : ∀ edit ∈ edits, config.writable edit.outer
  web : config.writable "web"
  panel : Settles python config edits ("web", "allow_ip_access") (.bool false) →
    ∃ text, Settles python config edits ("web", "hostname") (.str text) ∧ strip text ≠ ""

def Opposite (one two : List Edit) (least most : Int) : Prop :=
  (one = [minEdit least, maxEdit most] ∧ two = [maxEdit most, minEdit least]) ∨
    (one = [maxEdit most, minEdit least] ∧ two = [minEdit least, maxEdit most])

-- Both bounds move, the two patches give them in opposite orders, and only one
-- order survives the comparison with a bound that is about to be replaced.
structure Crossed (python : Python) (config left right : Value) (least most : Int) : Prop where
  sound : ∃ edits, left.edits = some edits ∧ Acceptable python config edits
  apart : Opposite left.lengths right.lengths least most
  ordered : least ≤ most
  onesided : ¬ (config.maxLength.lessThan (.int least) = .ok false ↔ (Value.int most).lessThan config.minLength = .ok false)

end Bounds

section Runs

variable (python : Python)

theorem bounds_iff (config : Value) (edit : Edit) (writable : config.writable edit.outer) :
    checkBounds config edit.outer edit.key edit.value = .ok () ↔
      (edit.spot = minSpot → config.maxLength.lessThan edit.value = .ok false) ∧
        (edit.spot = maxSpot → edit.value.lessThan config.minLength = .ok false) := by
  obtain ⟨outer, key, value⟩ := edit
  have distinct : minSpot ≠ maxSpot := by decide
  by_cases minimum : Edit.spot ⟨outer, key, value⟩ = minSpot
  · have other : Edit.spot ⟨outer, key, value⟩ ≠ maxSpot := minimum ▸ distinct
    cases minimum
    rw [min_bound_iff config value writable]
    exact ⟨fun checked => ⟨fun _ => checked, fun same => absurd same other⟩, fun both => both.1 rfl⟩
  · by_cases maximum : Edit.spot ⟨outer, key, value⟩ = maxSpot
    · cases maximum
      rw [max_bound_iff config value writable]
      exact ⟨fun checked => ⟨fun same => absurd same minimum, fun _ => checked⟩, fun both => both.2 rfl⟩
    · have silent : checkBounds config outer key value = .ok () := by
        have first : ((outer, key) == ("tempmail", "min_username_length")) = false :=
          beq_eq_false_iff_ne.mpr minimum
        have second : ((outer, key) == ("tempmail", "max_username_length")) = false :=
          beq_eq_false_iff_ne.mpr maximum
        simp only [checkBounds, first, second, Bool.false_eq_true, if_false]
        rfl
      exact ⟨fun _ => ⟨fun same => absurd same minimum, fun same => absurd same maximum⟩, fun _ => silent⟩

theorem shaped_bound (edit : Edit) (shaped : checkShape edit.outer edit.key edit.value = .ok ()) (bound : isBound edit = true) :
    ∃ number, edit = minEdit number ∨ edit = maxEdit number := by
  obtain ⟨outer, key, value⟩ := edit
  have spot : (outer, key) = minSpot ∨ (outer, key) = maxSpot := by simpa [isBound, Edit.spot] using bound
  have listed : (outer, key) ∈ intKeys := by
    rcases spot with same | same
    · exact same ▸ (by decide)
    · exact same ▸ (by decide)
  rw [checkShape] at shaped
  simp only [listed, if_true] at shaped
  cases value with
  | int number =>
      refine ⟨number, spot.imp (fun same => ?_) (fun same => ?_)⟩
      · cases same
        rfl
      · cases same
        rfl
  | _ => cases shaped

theorem orderly_step (edit : Edit) (state next : Value × Changes) (step : Turned python edit state next) (rest : List Edit) :
    Orderly (if edit.spot = minSpot then edit.value else state.1.minLength)
        (if edit.spot = maxSpot then edit.value else state.1.maxLength) rest ↔
      Orderly next.1.minLength next.1.maxLength rest := by
  have shaped := ((check_entry_iff state.1 edit.outer edit.key edit.value).mp step.checked).1
  have plain (bound : isBound edit = true) : edit.stored python = edit.value := by
    obtain ⟨number, rfl | rfl⟩ := shaped_bound edit shaped bound
    · rfl
    · rfl
  rw [turned_min python edit state next step, turned_max python edit state next step]
  by_cases bound : isBound edit = true
  · rw [plain bound]
  · simp only [isBound, Bool.or_eq_true, beq_iff_eq, not_or] at bound
    rw [if_neg bound.1, if_neg bound.2, if_neg bound.1, if_neg bound.2]

theorem applied_iff (edits : List Edit) (state : Value × Changes) : (∃ last, Applied python edits state last) ↔
    (∀ edit ∈ edits, checkShape edit.outer edit.key edit.value = .ok ()) ∧ (∀ edit ∈ edits, state.1.writable edit.outer) ∧
      Orderly state.1.minLength state.1.maxLength edits := by
  induction edits generalizing state with
  | nil => exact ⟨fun _ => ⟨by simp, by simp, trivial⟩, fun _ => ⟨state, .none state⟩⟩
  | cons edit rest ih =>
      constructor
      · rintro ⟨last, run⟩
        have writable := applied_writable python (edit :: rest) state last run
        cases run with
        | next _ _ _ middle _ step later =>
            obtain ⟨shapes, -, ordered⟩ := (ih middle).mp ⟨last, later⟩
            obtain ⟨shape, bounds⟩ := (check_entry_iff state.1 edit.outer edit.key edit.value).mp step.checked
            obtain ⟨minimum, maximum⟩ := (bounds_iff state.1 edit (writable edit List.mem_cons_self)).mp bounds
            exact ⟨List.forall_mem_cons.mpr ⟨shape, shapes⟩, writable, minimum, maximum,
              (orderly_step python edit state middle step rest).mpr ordered⟩
      · rintro ⟨shapes, writable, minimum, maximum, ordered⟩
        obtain ⟨shape, shapes⟩ := List.forall_mem_cons.mp shapes
        have here := writable edit List.mem_cons_self
        have bounds := (bounds_iff state.1 edit here).mpr ⟨minimum, maximum⟩
        obtain ⟨changed, stored⟩ := set_nested_writable state.1 (edit.stored python) edit.outer edit.key here
        obtain ⟨middle, step⟩ : ∃ middle, Turned python edit state middle :=
          ⟨(changed, _), (check_entry_iff state.1 edit.outer edit.key edit.value).mpr ⟨shape, bounds⟩, stored, rfl⟩
        have onward : ∀ other ∈ rest, middle.1.writable other.outer := fun other member =>
          (set_nested_still_writable state.1 middle.1 _ edit.outer edit.key step.stored other.outer).mpr
            (writable other (List.mem_cons_of_mem _ member))
        obtain ⟨last, later⟩ := (ih middle).mpr ⟨shapes, onward, (orderly_step python edit state middle step rest).mp ordered⟩
        exact ⟨last, .next edit rest state middle last step later⟩

theorem orderly_filter (edits : List Edit) (low high : Value) :
    Orderly low high edits ↔ Orderly low high (edits.filter isBound) := by
  induction edits generalizing low high with
  | nil => rfl
  | cons edit rest ih =>
      by_cases bound : isBound edit = true
      · rw [List.filter_cons_of_pos bound, Orderly, Orderly, ih]
      · rw [List.filter_cons_of_neg bound, Orderly]
        simp only [isBound, Bool.or_eq_true, beq_iff_eq, not_or] at bound
        rw [if_neg bound.1, if_neg bound.2, ih]
        exact ⟨fun all => all.2.2, fun all => ⟨fun same => absurd same bound.1, fun same => absurd same bound.2, all⟩⟩

end Runs

section Permutations

def SameEdits (left right : Option (List Edit)) : Prop := Option.Rel List.Perm left right

theorem same_edits_refl (edits : Option (List Edit)) : SameEdits edits edits := by
  cases edits with
  | none => exact .none
  | some own => exact .some (.refl own)

theorem same_edits_trans (left middle right : Option (List Edit)) (first : SameEdits left middle)
    (second : SameEdits middle right) :
    SameEdits left right := by
  cases first with
  | none => exact second
  | some one =>
      cases second with
      | some two => exact .some (one.trans two)

theorem gather_item {α : Type} (read : α → Option (List Edit)) (item : α) (rest : List α) :
    gather read (item :: rest) = (read item).bind (fun own => (gather read rest).map (own ++ ·)) := by
  cases here : read item with
  | none => simp [gather, here]
  | some own =>
      cases there : rest.mapM read with
      | none => simp [gather, here, there]
      | some others => simp [gather, here, there]

theorem gather_items_same {α β : Type} (read : α → Option (List Edit)) (other : β → Option (List Edit)) (item : α)
    (mate : β) (rest : List α)
    (mates : List β) (first : SameEdits (read item) (other mate)) (later : SameEdits (gather read rest) (gather other mates)) :
    SameEdits (gather read (item :: rest)) (gather other (mate :: mates)) := by
  rw [gather_item, gather_item]
  revert first later
  generalize read item = own, other mate = its, gather read rest = others, gather other mates = theirs
  intro first later
  cases first with
  | none => exact .none
  | some one =>
      cases later with
      | none => exact .none
      | some two => exact .some (one.append two)

theorem gather_perm {α : Type} (read : α → Option (List Edit)) (left right : List α) (perm : left.Perm right) :
    SameEdits (gather read left) (gather read right) := by
  induction perm with
  | nil => exact same_edits_refl _
  | cons item _ ih => exact gather_items_same read read item item _ _ (same_edits_refl _) ih
  | swap first second rest =>
      simp only [gather_item]
      cases read first with
      | none => cases read second <;> exact .none
      | some one =>
          cases read second with
          | none => exact .none
          | some two =>
              cases gather read rest with
              | none => exact .none
              | some others =>
                  refine .some ?_
                  dsimp only
                  rw [← List.append_assoc, ← List.append_assoc]
                  exact List.perm_append_comm.append_right others
  | trans _ _ first second => exact same_edits_trans _ _ _ first second

theorem section_shuffled (left right : Key × Value) (same : sameMember left right) :
    SameEdits (sectionEdits left) (sectionEdits right) := by
  obtain ⟨name, values⟩ := left
  obtain ⟨_, others⟩ := right
  obtain ⟨rfl, rfl | ⟨one, two, rfl, rfl, perm⟩⟩ := same
  · exact same_edits_refl _
  · cases name with
    | other text => exact .none
    | str outer =>
        dsimp only [sectionEdits]
        cases allowedPatchSections.lookup outer with
        | none => exact .none
        | some allowed => exact gather_perm (entryEdits outer allowed) one two perm

theorem reordered_edits (left right : Value) (reordered : Reordered left right) : SameEdits left.edits right.edits := by
  rcases reordered with rfl | ⟨one, middle, two, rfl, rfl, perm, members⟩
  · exact same_edits_refl _
  · refine same_edits_trans _ _ _ (gather_perm sectionEdits one middle perm) ?_
    clear perm
    change SameEdits (gather sectionEdits middle) (gather sectionEdits two)
    induction members with
    | nil => exact same_edits_refl _
    | cons same _ ih => exact gather_items_same sectionEdits sectionEdits _ _ _ _ (section_shuffled _ _ same) ih

end Permutations

section Acceptance

variable (python : Python) (edits : List Edit) (config : Value)

theorem settles_iff (last : Value × Changes) (run : Applied python edits (config, []) last)
    (distinct : (edits.map Edit.spot).Nodup)
    (spot : String × String) (value : Value) :
    last.1.setting spot.1 spot.2 = some value ↔ Settles python config edits spot value := by
  have merged := applied_merged python edits (config, []) last run distinct
  by_cases named : ∃ edit ∈ edits, edit.spot = spot
  · obtain ⟨edit, member, rfl⟩ := named
    have given : last.1.setting edit.spot.1 edit.spot.2 = some (edit.stored python) := merged.given edit member
    rw [given, Option.some.injEq]
    constructor
    · intro same
      exact Or.inl ⟨edit, member, rfl, same⟩
    · rintro (⟨other, found, spot, same⟩ | ⟨silent, -⟩)
      · rw [List.inj_on_of_nodup_map distinct member found spot.symm]
        exact same
      · exact absurd rfl (silent edit member)
  · have silent : ∀ edit ∈ edits, edit.spot ≠ spot := fun edit member same => named ⟨edit, member, same⟩
    have kept : last.1.setting spot.1 spot.2 = config.setting spot.1 spot.2 :=
      merged.kept (.str spot.1) (.str spot.2) fun edit member same =>
        silent edit member (Prod.ext (Key.str.inj same.1).symm (Key.str.inj same.2).symm)
    rw [kept]
    constructor
    · intro held
      exact Or.inr ⟨silent, held⟩
    · rintro (⟨edit, member, same, -⟩ | ⟨-, held⟩)
      · exact absurd same (silent edit member)
      · exact held

theorem applied_still_writable (state last : Value × Changes) (run : Applied python edits state last) (outer : String) :
    last.1.writable outer ↔ state.1.writable outer := by
  induction run with
  | none state => rfl
  | next edit rest state middle last step later ih =>
      exact ih.trans (set_nested_still_writable state.1 middle.1 _ edit.outer edit.key step.stored outer)

theorem panel_iff (last : Value × Changes) (run : Applied python edits (config, []) last)
    (distinct : (edits.map Edit.spot).Nodup) :
    checkPanel last.1 = .ok () ↔ config.writable "web" ∧ (Settles python config edits ("web", "allow_ip_access") (.bool false) →
      ∃ text, Settles python config edits ("web", "hostname") (.str text) ∧ strip text ≠ "") := by
  have settles := settles_iff python edits config last run distinct
  rw [check_panel_iff, applied_still_writable python edits (config, []) last run, PanelNamed]
  simp only [← settles]

theorem accepted_iff (patch : Value) (named : patch.edits = some edits) (distinct : (edits.map Edit.spot).Nodup) :
    (∃ next, applyPatch python config patch = .ok next) ↔
      Acceptable python config edits ∧ Orderly config.minLength config.maxLength patch.lengths := by
  have lengths : patch.lengths = edits.filter isBound := by rw [Value.lengths, named, Option.getD_some]
  rw [lengths, ← orderly_filter]
  constructor
  · rintro ⟨next, accepted⟩
    obtain ⟨own, same, run, panel⟩ := (apply_patch_iff python config patch next).mp accepted
    rw [named] at same
    cases same
    obtain ⟨shaped, writable, ordered⟩ := (applied_iff python edits (config, [])).mp ⟨next, run⟩
    obtain ⟨web, names⟩ := (panel_iff python edits config next run distinct).mp panel
    exact ⟨⟨shaped, writable, web, names⟩, ordered⟩
  · rintro ⟨sound, ordered⟩
    obtain ⟨next, run⟩ := (applied_iff python edits (config, [])).mpr ⟨sound.shaped, sound.writable, ordered⟩
    have panel := (panel_iff python edits config next run distinct).mpr ⟨sound.web, sound.panel⟩
    exact ⟨next, (apply_patch_iff python config patch next).mpr ⟨edits, named, run, panel⟩⟩

variable (others : List Edit) (perm : edits.Perm others)

include perm

theorem settles_perm (spot : String × String) (value : Value) :
    Settles python config edits spot value ↔ Settles python config others spot value := by
  simp only [Settles, perm.mem_iff]

theorem acceptable_perm : Acceptable python config edits ↔ Acceptable python config others := by
  constructor
  · intro sound
    refine ⟨fun edit member => sound.shaped edit (perm.mem_iff.mpr member), fun edit member => sound.writable edit
      (perm.mem_iff.mpr member),
      sound.web, ?_⟩
    simp only [← settles_perm python edits config others perm]
    exact sound.panel
  · intro sound
    refine ⟨fun edit member => sound.shaped edit (perm.mem_iff.mp member), fun edit member => sound.writable edit
      (perm.mem_iff.mp member),
      sound.web, ?_⟩
    simp only [settles_perm python edits config others perm]
    exact sound.panel

-- Accepted runs of the same edits end alike.
theorem runs_alike (one two : Value × Changes) (distinct : (edits.map Edit.spot).Nodup)
    (first : Applied python edits (config, []) one)
    (second : Applied python others (config, []) two) (panel : checkPanel one.1 = .ok ()) (other : checkPanel two.1 = .ok ()) :
    SameConfig one.1 two.1 ∧ ∀ spot, spot ∈ one.2 ↔ spot ∈ two.2 := by
  have shuffled : (others.map Edit.spot).Nodup := (perm.map Edit.spot).nodup_iff.mp distinct
  have left := applied_merged python edits (config, []) one first distinct
  have right := applied_merged python others (config, []) two second shuffled
  have inner (top inside : Key) : one.1.inner top inside = two.1.inner top inside := by
    by_cases named : ∃ edit ∈ edits, top = .str edit.outer ∧ inside = .str edit.key
    · obtain ⟨edit, member, rfl, rfl⟩ := named
      exact (left.given edit member).trans (right.given edit (perm.mem_iff.mp member)).symm
    · rw [left.kept top inside fun edit member same => named ⟨edit, member, same⟩,
        right.kept top inside fun edit member same => named ⟨edit, perm.mem_iff.mpr member, same⟩]
  constructor
  · constructor
    · obtain ⟨entries, whole, -⟩ := ((check_panel_iff one.1).mp panel).1
      obtain ⟨entries', whole', -⟩ := ((check_panel_iff two.1).mp other).1
      exact ⟨⟨entries, whole⟩, entries', whole'⟩
    · intro top
      by_cases touched : ∃ edit ∈ edits, top = .str edit.outer
      · obtain ⟨edit, member, rfl⟩ := touched
        obtain ⟨entries, found⟩ := left.sections edit member
        obtain ⟨entries', found'⟩ := right.sections edit (perm.mem_iff.mp member)
        refine Or.inr ⟨entries, entries', found, found', fun key => ?_⟩
        have same := inner (.str edit.outer) key
        rw [Value.inner, found, Value.inner, found'] at same
        exact same
      · left
        rw [left.tops top fun edit member same => touched ⟨edit, member, same⟩,
          right.tops top fun edit member same => touched ⟨edit, perm.mem_iff.mpr member, same⟩]
  · intro spot
    rw [applied_noted python edits (config, []) one first distinct, applied_noted python others (config, []) two second shuffled]
    simp only [perm.mem_iff]

end Acceptance

section Main

-- A patch holds each bound once, so it gives none, one, or both in one of two
-- orders.
theorem bounds_cases (bounds : List Edit) (distinct : (bounds.map Edit.spot).Nodup)
    (kinds : ∀ edit ∈ bounds, ∃ number, edit = minEdit number ∨ edit = maxEdit number) :
    bounds = [] ∨ (∃ edit, bounds = [edit]) ∨ ∃ least most, bounds = [minEdit least, maxEdit most] ∨ bounds =
      [maxEdit most, minEdit least] := by
  have spots : bounds.map Edit.spot ⊆ [minSpot, maxSpot] := by
    intro spot member
    obtain ⟨edit, found, rfl⟩ := List.mem_map.mp member
    obtain ⟨number, rfl | rfl⟩ := kinds edit found
    · exact List.mem_cons_self
    · exact List.mem_cons_of_mem _ List.mem_cons_self
  have short : bounds.length ≤ 2 := by simpa using distinct.length_le_of_subset spots
  cases bounds with
  | nil => exact Or.inl rfl
  | cons first rest =>
      cases rest with
      | nil => exact Or.inr (Or.inl ⟨first, rfl⟩)
      | cons second rest =>
          cases rest with
          | cons third rest =>
              simp only [List.length_cons] at short
              omega
          | nil =>
              right
              right
              obtain ⟨one, same⟩ := kinds first List.mem_cons_self
              obtain ⟨two, other⟩ := kinds second (List.mem_cons_of_mem _ List.mem_cons_self)
              rcases same with rfl | rfl
              · rcases other with rfl | rfl
                · simp at distinct
                · exact ⟨one, two, Or.inl rfl⟩
              · rcases other with rfl | rfl
                · exact ⟨two, one, Or.inr rfl⟩
                · simp at distinct

theorem min_first (low high : Value) (least most : Int) : Orderly low high [minEdit least, maxEdit most] ↔
    high.lessThan (.int least) = .ok false ∧ least ≤ most := by
  rw [← int_less most least]
  simp [Orderly, spots_apart, spots_apart.symm]

theorem max_first (low high : Value) (least most : Int) : Orderly low high [maxEdit most, minEdit least] ↔
    (Value.int most).lessThan low = .ok false ∧ least ≤ most := by
  rw [← int_less most least]
  simp [Orderly, spots_apart, spots_apart.symm]

theorem pair_perm {α : Type} (first second : α) (others : List α) (perm : [first, second].Perm others) :
    others = [first, second] ∨ others = [second, first] := by
  have length := perm.length_eq
  cases others with
  | nil => cases length
  | cons head rest =>
      rcases List.mem_pair.mp (perm.mem_iff.mpr List.mem_cons_self) with rfl | rfl
      · exact Or.inl (by rw [List.singleton_perm.mp ((List.perm_cons head).mp perm)])
      · have swapped := (List.Perm.swap head first []).symm.trans perm
        exact Or.inr (by rw [List.singleton_perm.mp ((List.perm_cons head).mp swapped)])

theorem both_orders (low high : Value) (least most : Int) :
    (Orderly low high [minEdit least, maxEdit most] ↔ Orderly low high [maxEdit most, minEdit least]) ↔
      ¬ (least ≤ most ∧ ¬ (high.lessThan (.int least) = .ok false ↔ (Value.int most).lessThan low = .ok false)) := by
  rw [min_first, max_first]
  tauto

theorem opposite_min (least most low high : Int) :
    Opposite [minEdit least, maxEdit most] [maxEdit most, minEdit least] low high ↔ low = least ∧ high = most := by
  simp [Opposite, minEdit, maxEdit]
  omega

theorem opposite_max (least most low high : Int) :
    Opposite [maxEdit most, minEdit least] [minEdit least, maxEdit most] low high ↔ low = least ∧ high = most := by
  simp [Opposite, minEdit, maxEdit]
  omega

theorem orders_agree (low high : Value) (one two : List Edit) (perm : one.Perm two) (distinct : (one.map Edit.spot).Nodup)
    (kinds : ∀ edit ∈ one, ∃ number, edit = minEdit number ∨ edit = maxEdit number) :
    (Orderly low high one ↔ Orderly low high two) ↔ ¬ ∃ least most, Opposite one two least most ∧ least ≤ most ∧
      ¬ (high.lessThan (.int least) = .ok false ↔ (Value.int most).lessThan low = .ok false) := by
  have alike (same : two = one) : (Orderly low high one ↔ Orderly low high two) ↔ ¬ ∃ least most, Opposite one two least most ∧
      least ≤ most ∧ ¬ (high.lessThan (.int least) = .ok false ↔ (Value.int most).lessThan low = .ok false) := by
    rw [same]
    refine ⟨fun _ crossed => ?_, fun _ => Iff.rfl⟩
    obtain ⟨least, most, ⟨first, second⟩ | ⟨first, second⟩, -⟩ := crossed
    · rw [first] at second
      simp [minEdit, maxEdit] at second
    · rw [first] at second
      simp [minEdit, maxEdit] at second
  rcases bounds_cases one distinct kinds with rfl | ⟨edit, rfl⟩ | ⟨least, most, rfl | rfl⟩
  · exact alike (List.nil_perm.mp perm)
  · exact alike (List.singleton_perm.mp perm).symm
  · rcases pair_perm _ _ two perm with rfl | rfl
    · exact alike rfl
    · rw [both_orders]
      refine not_congr ⟨fun crossed => ⟨least, most, (opposite_min least most least most).mpr ⟨rfl, rfl⟩, crossed⟩, ?_⟩
      rintro ⟨lower, upper, apart, crossed⟩
      obtain ⟨rfl, rfl⟩ := (opposite_min least most lower upper).mp apart
      exact crossed
  · rcases pair_perm _ _ two perm with rfl | rfl
    · exact alike rfl
    · rw [iff_comm (a := Orderly low high _), both_orders]
      refine not_congr ⟨fun crossed => ⟨least, most, (opposite_max least most least most).mpr ⟨rfl, rfl⟩, crossed⟩, ?_⟩
      rintro ⟨lower, upper, apart, crossed⟩
      obtain ⟨rfl, rfl⟩ := (opposite_max least most lower upper).mp apart
      exact crossed

theorem same_patched_iff (python : Python) (config left right : Value) (dicts : Dicts left) (reordered : Reordered left right) :
    SamePatched (applyPatch python config left) (applyPatch python config right) ↔
      ((∃ next, applyPatch python config left = .ok next) ↔ ∃ next, applyPatch python config right = .ok next) := by
  constructor
  · rintro (⟨one, two, failed, failed'⟩ | ⟨one, two, done, done', -⟩)
    · rw [failed, failed']
      simp
    · exact ⟨fun _ => ⟨two, done'⟩, fun _ => ⟨one, done⟩⟩
  · intro together
    cases first : applyPatch python config left with
    | error one =>
        cases second : applyPatch python config right with
        | error two => exact Or.inl ⟨one, two, rfl, rfl⟩
        | ok two =>
            obtain ⟨one, done⟩ := together.mpr ⟨two, second⟩
            rw [first] at done
            cases done
    | ok one =>
        obtain ⟨two, second⟩ := together.mp ⟨one, first⟩
        obtain ⟨edits, named, run, panel⟩ := (apply_patch_iff python config left one).mp first
        obtain ⟨others, named', run', panel'⟩ := (apply_patch_iff python config right two).mp second
        have same := reordered_edits left right reordered
        rw [named, named'] at same
        cases same with
        | some perm =>
            rw [second]
            exact Or.inr ⟨one, two, rfl, rfl,
              runs_alike python edits config others perm one two (edits_distinct left edits named dicts) run run' panel panel'⟩

theorem patch_order_iff (python : Python) (config left right : Value) (dicts : Dicts left) (reordered : Reordered left right) :
    SamePatched (applyPatch python config left) (applyPatch python config right) ↔
      ¬ ∃ least most, Crossed python config left right least most := by
  rw [same_patched_iff python config left right dicts reordered]
  have same := reordered_edits left right reordered
  cases named : left.edits with
  | none =>
      have silent : right.edits = none := by
        rw [named] at same
        cases others : right.edits with
        | none => rfl
        | some edits =>
            rw [others] at same
            cases same
      have refused (patch : Value) (none : patch.edits = none) : ¬ ∃ next, applyPatch python config patch = .ok next := by
        rintro ⟨next, done⟩
        obtain ⟨edits, read, -⟩ := (apply_patch_iff python config patch next).mp done
        rw [none] at read
        cases read
      constructor
      · rintro - ⟨least, most, crossed⟩
        obtain ⟨edits, read, -⟩ := crossed.sound
        rw [named] at read
        cases read
      · intro _
        exact ⟨fun done => absurd done (refused left named), fun done => absurd done (refused right silent)⟩
  | some edits =>
      cases named' : right.edits with
      | none =>
          rw [named, named'] at same
          cases same
      | some others =>
          rw [named, named'] at same
          cases same with
          | some perm =>
              have distinct := edits_distinct left edits named dicts
              have shuffled : (others.map Edit.spot).Nodup := (perm.map Edit.spot).nodup_iff.mp distinct
              rw [accepted_iff python edits config left named distinct, accepted_iff python others config right named' shuffled,
                ← acceptable_perm python edits config others perm]
              have bounds : left.lengths = edits.filter isBound := by rw [Value.lengths, named, Option.getD_some]
              have bounds' : right.lengths = others.filter isBound := by rw [Value.lengths, named', Option.getD_some]
              by_cases sound : Acceptable python config edits
              · have kinds : ∀ edit ∈ left.lengths, ∃ number, edit = minEdit number ∨ edit = maxEdit number := by
                  intro edit member
                  rw [bounds, List.mem_filter] at member
                  exact shaped_bound edit (sound.shaped edit member.1) member.2
                have alone : (left.lengths.map Edit.spot).Nodup := by
                  rw [bounds]
                  exact distinct.sublist ((List.filter_sublist).map Edit.spot)
                have swapped : left.lengths.Perm right.lengths := by
                  rw [bounds, bounds']
                  exact perm.filter isBound
                simp only [sound, true_and]
                rw [orders_agree config.minLength config.maxLength left.lengths right.lengths swapped alone kinds]
                refine not_congr (exists_congr fun least => exists_congr fun most => ?_)
                constructor
                · rintro ⟨apart, ordered, onesided⟩
                  exact ⟨⟨edits, named, sound⟩, apart, ordered, onesided⟩
                · intro crossed
                  exact ⟨crossed.apart, crossed.ordered, crossed.onesided⟩
              · simp only [sound, false_and, true_iff]
                rintro ⟨least, most, crossed⟩
                obtain ⟨own, read, sound'⟩ := crossed.sound
                rw [named] at read
                cases read
                exact sound sound'

end Main

section Sample

def withLengths (entries : List (Key × Int)) : Value :=
    .map [(.str "tempmail", .map (entries.map (fun entry => (entry.1, .int entry.2))))]

def lowest (least : Int) : Key × Int := (.str "min_username_length", least)

def highest (most : Int) : Key × Int := (.str "max_username_length", most)

theorem lengths_dicts (least most : Int) : Dicts (withLengths [lowest least, highest most]) := by
  constructor
  · simp [withLengths, Value.keyed]
  · intro outer values found
    rw [withLengths, Value.find, List.lookup_cons] at found
    split at found
    · cases found
      simp [Value.keyed, lowest, highest]
    · cases found

theorem lengths_reordered (least most : Int) :
    Reordered (withLengths [lowest least, highest most]) (withLengths [highest most, lowest least]) := by
  refine Or.inr ⟨_, _, _, rfl, rfl, .refl _, .cons ⟨rfl, Or.inr ⟨_, _, rfl, rfl, ?_⟩⟩ .nil⟩
  exact .swap _ _ []

theorem raised_together :
    SamePatched (applyPatch Api.asciiPython (withLengths [lowest 3, highest 10]) (withLengths [lowest 5, highest 20]))
      (applyPatch Api.asciiPython (withLengths [lowest 3, highest 10]) (withLengths [highest 20, lowest 5])) := by
  refine (patch_order_iff Api.asciiPython _ _ _ (lengths_dicts 5 20) (lengths_reordered 5 20)).mpr ?_
  rintro ⟨least, most, crossed⟩
  obtain ⟨rfl, rfl⟩ := (opposite_min 5 20 least most).mp crossed.apart
  exact crossed.onesided ⟨fun _ => rfl, fun _ => rfl⟩

theorem raised_past :
    Dicts (withLengths [lowest 20, highest 30]) ∧
      Reordered (withLengths [lowest 20, highest 30]) (withLengths [highest 30, lowest 20]) ∧
      ¬ SamePatched (applyPatch Api.asciiPython (withLengths [lowest 3, highest 10]) (withLengths [lowest 20, highest 30]))
        (applyPatch Api.asciiPython (withLengths [lowest 3, highest 10]) (withLengths [highest 30, lowest 20])) := by
  refine ⟨lengths_dicts 20 30, lengths_reordered 20 30, ?_⟩
  have refused : applyPatch Api.asciiPython (withLengths [lowest 3, highest 10]) (withLengths [lowest 20, highest 30]) =
      .error (.valueError "min_username_length 不能大于 max_username_length") := rfl
  have taken : applyPatch Api.asciiPython (withLengths [lowest 3, highest 10]) (withLengths [highest 30, lowest 20]) =
      .ok (withLengths [lowest 20, highest 30], [maxSpot, minSpot]) := rfl
  rw [refused, taken]
  rintro (⟨_, _, -, failed⟩ | ⟨_, _, done, -⟩)
  · cases failed
  · cases done

end Sample

end Tempmail.Config
