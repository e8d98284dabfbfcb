import Mathlib.Data.List.Basic
import Mathlib.Data.List.Induction

set_option autoImplicit false

-- Texts with placeholders: what replacing one placeholder after another makes of
-- them, measured against a template whose slots are filled all at once.
namespace Placeholders

variable {Letter Name : Type}

section Replacing

variable [DecidableEq Letter] (pattern : List Letter) (insert : List Letter → List Letter → List Letter)

-- Replaces what is found from the left, nothing of it twice. What is inserted
-- may depend on the text before the place and behind it.
def scan : Nat → List Letter → List Letter → List Letter
  | 0, _, text => text
  | _, _, [] => []
  | fuel + 1, seen, c :: rest =>
      if pattern <+: c :: rest then
        insert seen ((c :: rest).drop pattern.length) ++
          scan fuel (seen ++ pattern) ((c :: rest).drop pattern.length)
      else c :: scan fuel (seen ++ [c]) rest

def replaceAll (text : List Letter) : List Letter := scan pattern insert text.length [] text

theorem scan_nil (fuel : Nat) (seen : List Letter) : scan pattern insert fuel seen [] = [] := by
  cases fuel <;> rfl

variable (nonempty : pattern ≠ [])

include nonempty in
theorem scan_found (fuel : Nat) (seen rest : List Letter) :
    scan pattern insert (fuel + 1) seen (pattern ++ rest) =
      insert seen rest ++ scan pattern insert fuel (seen ++ pattern) rest := by
  obtain ⟨c, others, shape⟩ := List.exists_cons_of_ne_nil nonempty
  have found : pattern <+: c :: (others ++ rest) := ⟨rest, by rw [shape]; rfl⟩
  have behind : (c :: (others ++ rest)).drop pattern.length = rest := by
    rw [← List.cons_append, ← shape, List.drop_left]
  have whole : pattern ++ rest = c :: (others ++ rest) := by rw [shape]; rfl
  rw [whole, scan, if_pos found, behind]

theorem scan_pass (stretch rest : List Letter) (fuel : Nat) (seen : List Letter)
    (absent : ∀ before after, stretch = before ++ after → after ≠ [] → ¬ pattern <+: after ++ rest) :
    scan pattern insert (stretch.length + fuel) seen (stretch ++ rest) =
      stretch ++ scan pattern insert fuel (seen ++ stretch) rest := by
  induction stretch generalizing seen with
  | nil => simp
  | cons c stretch ih =>
      have here : ¬ pattern <+: c :: (stretch ++ rest) := absent [] (c :: stretch) rfl (List.cons_ne_nil c stretch)
      have later := ih (seen ++ [c]) (fun before after split => absent (c :: before) after (by rw [split]; rfl))
      rw [List.length_cons, List.cons_append, Nat.add_right_comm, scan, if_neg here, later]
      simp

include nonempty in
theorem scan_same (text seen : List Letter) (fuel : Nat)
    (same : ∀ before after, text = before ++ (pattern ++ after) → insert (seen ++ before) after = pattern) :
    scan pattern insert fuel seen text = text := by
  induction fuel generalizing text seen with
  | zero => rfl
  | succ fuel ih =>
      by_cases found : pattern <+: text
      · obtain ⟨rest, rfl⟩ := found
        have here := same [] rest rfl
        rw [List.append_nil] at here
        rw [scan_found pattern insert nonempty, here, ih rest (seen ++ pattern)]
        intro before after split
        rw [List.append_assoc]
        exact same (pattern ++ before) after (by rw [split, List.append_assoc])
      · cases text with
        | nil => rfl
        | cons c rest =>
            rw [scan, if_neg found, ih rest (seen ++ [c])]
            intro before after split
            rw [List.append_assoc]
            exact same (c :: before) after (by rw [split]; rfl)

end Replacing

-- A text cut into its letters and its slots.
abbrev Template (Letter Name : Type) := List (Letter ⊕ Name)

section Filling

variable (spelled : Name → List Letter)

def piece (values : Name → Option (List Letter)) : Letter ⊕ Name → List Letter
  | .inl letter => [letter]
  | .inr name => (values name).getD (spelled name)

def filled (values : Name → Option (List Letter)) (template : Template Letter Name) : List Letter :=
  template.flatMap (piece spelled values)

def Own (values : Name → Option (List Letter)) (template : Template Letter Name) (name : Name) : Prop :=
  ∀ before after, filled spelled values template = before ++ (spelled name ++ after) →
    ∃ front back, template = front ++ .inr name :: back ∧ filled spelled values front = before ∧
      filled spelled values back = after

-- The text with the slots of all given names filled at once. Where two names
-- overlap in the text there is none.
def Filling (values : Name → Option (List Letter)) (text result : List Letter) : Prop :=
  ∃ template, filled spelled (fun _ => none) template = text ∧ (∀ name, .inr name ∈ template → (values name).isSome) ∧
    (∀ name, (values name).isSome → Own spelled (fun _ => none) template name) ∧ result = filled spelled values template

variable {spelled} {values : Name → Option (List Letter)}

theorem filled_cons (token : Letter ⊕ Name) (rest : Template Letter Name) :
    filled spelled values (token :: rest) = piece spelled values token ++ filled spelled values rest := List.flatMap_cons

theorem filled_congr (others : Name → Option (List Letter)) (template : Template Letter Name)
    (same : ∀ name, .inr name ∈ template → (values name).getD (spelled name) = (others name).getD (spelled name)) :
    filled spelled values template = filled spelled others template := by
  induction template with
  | nil => rfl
  | cons token rest ih =>
      rw [filled_cons, filled_cons, ih (fun name member => same name (List.mem_cons_of_mem _ member))]
      cases token with
      | inl letter => rfl
      | inr name => rw [piece, piece, same name List.mem_cons_self]

theorem piece_unfilled (name : Name) (unfilled : values name = none) : piece spelled values (.inr name) = spelled name := by
  rw [piece, unfilled]
  rfl

theorem own_early (token : Letter ⊕ Name) (rest : Template Letter Name) (name : Name)
    (own : Own spelled values (token :: rest) name) (before after : List Letter)
    (split : filled spelled values (token :: rest) = before ++ (spelled name ++ after))
    (early : before.length < (piece spelled values token).length) : token = .inr name := by
  obtain ⟨front, back, cut, front_eq, _⟩ := own before after split
  cases front with
  | nil =>
      rw [List.nil_append, List.cons.injEq] at cut
      exact cut.1
  | cons first front =>
      rw [List.cons_append, List.cons.injEq] at cut
      rw [← front_eq, filled_cons, ← cut.1, List.length_append] at early
      omega

theorem own_tail (token : Letter ⊕ Name) (rest : Template Letter Name) (name : Name) (unfilled : values name = none)
    (nonempty : spelled name ≠ []) (own : Own spelled values (token :: rest) name) : Own spelled values rest name := by
  intro before after split
  obtain ⟨front, back, cut, front_eq, back_eq⟩ := own (piece spelled values token ++ before) after (by
    rw [filled_cons, split, List.append_assoc])
  cases front with
  | nil =>
      rw [List.nil_append, List.cons.injEq] at cut
      rw [cut.1, piece_unfilled name unfilled] at front_eq
      exact absurd (List.append_eq_nil_iff.mp front_eq.symm).1 nonempty
  | cons first front =>
      rw [List.cons_append, List.cons.injEq] at cut
      rw [filled_cons, cut.1] at front_eq
      exact ⟨front, back, cut.2, List.append_cancel_left front_eq, back_eq⟩

theorem own_alone (name : Name) : Own spelled (fun _ => none) [.inr name] name := by
  intro before after split
  have length := congrArg List.length split
  rw [filled_cons, piece_unfilled name rfl, show filled spelled (fun _ => none) [] = [] from rfl] at length
  simp only [List.length_append, List.length_nil] at length
  have first : before = [] := List.length_eq_zero_iff.mp (by omega)
  have last : after = [] := List.length_eq_zero_iff.mp (by omega)
  exact ⟨[], [], rfl, first.symm, last.symm⟩

-- Two cuts of one text that own all their slots are the same cut.
theorem template_unique (first second : Template Letter Name) (nonempty : ∀ name, spelled name ≠ [])
    (unfilled : ∀ name, values name = none) (ownFirst : ∀ name, .inr name ∈ second → Own spelled values first name)
    (ownSecond : ∀ name, .inr name ∈ first → Own spelled values second name)
    (same : filled spelled values first = filled spelled values second) : first = second := by
  have wide : ∀ token, 0 < (piece spelled values token).length := by
    intro token
    cases token with
    | inl letter => exact Nat.one_pos
    | inr name =>
        rw [piece_unfilled name (unfilled name)]
        exact List.length_pos_of_ne_nil (nonempty name)
  induction first generalizing second with
  | nil =>
      cases second with
      | nil => rfl
      | cons token rest =>
          have length := congrArg List.length same
          have positive := wide token
          rw [filled_cons, List.length_append, show filled spelled values [] = [] from rfl, List.length_nil] at length
          omega
  | cons token first ih =>
      cases second with
      | nil =>
          have length := congrArg List.length same
          have positive := wide token
          rw [filled_cons, List.length_append, show filled spelled values [] = [] from rfl, List.length_nil] at length
          omega
      | cons head second =>
          have heads : token = head := by
            cases token with
            | inr name =>
                refine (own_early head second name (ownSecond name List.mem_cons_self) [] (filled spelled values first) ?_
                  (wide head)).symm
                rw [← same, filled_cons, piece_unfilled name (unfilled name), List.nil_append]
            | inl letter =>
                cases head with
                | inr name =>
                    refine own_early _ first name (ownFirst name List.mem_cons_self) [] (filled spelled values second) ?_ (wide _)
                    rw [same, filled_cons, piece_unfilled name (unfilled name), List.nil_append]
                | inl other =>
                    rw [filled_cons, filled_cons, piece, piece, List.singleton_append, List.singleton_append,
                      List.cons.injEq] at same
                    rw [same.1]
          rw [heads, filled_cons, filled_cons] at same
          rw [heads]
          refine congrArg (head :: ·) (ih second (fun name member => ?_) (fun name member => ?_) (List.append_cancel_left same))
          · exact own_tail token first name (unfilled name) (nonempty name) (ownFirst name (List.mem_cons_of_mem _ member))
          · exact own_tail head second name (unfilled name) (nonempty name) (ownSecond name (List.mem_cons_of_mem _ member))

theorem filling_unique (nonempty : ∀ name, spelled name ≠ []) (text first second : List Letter)
    (one : Filling spelled values text first) (other : Filling spelled values text second) : first = second := by
  obtain ⟨cut, spells, known, own, rfl⟩ := one
  obtain ⟨also, spells_also, known_also, own_also, rfl⟩ := other
  have same := template_unique cut also nonempty (fun _ => rfl) (fun name member => own name (known_also name member))
    (fun name member => own_also name (known name member)) (spells.trans spells_also.symm)
  rw [same]

section Replacing

variable [DecidableEq Letter] (insert : List Letter → List Letter → List Letter)

-- Replacing a name the text has only in its own slots fills these slots.
theorem scan_filled (others : Name → Option (List Letter)) (name : Name) (value : List Letter) (unfilled : values name = none)
    (nonempty : spelled name ≠ []) (here : others name = some value)
    (elsewhere : ∀ other, other ≠ name → others other = values other)
    (template : Template Letter Name) (own : Own spelled values template name) (seen : List Letter)
    (literal : ∀ front back, template = front ++ .inr name :: back →
      insert (seen ++ filled spelled values front) (filled spelled values back) = value)
    (fuel : Nat) (enough : (filled spelled values template).length ≤ fuel) :
    scan (spelled name) insert fuel seen (filled spelled values template) = filled spelled others template := by
  induction template generalizing seen fuel with
  | nil => exact scan_nil _ _ fuel seen
  | cons token rest ih =>
      have rest_own := own_tail token rest name unfilled nonempty own
      have next := ih rest_own (seen ++ piece spelled values token) (fun front back cut => by
        rw [List.append_assoc, ← filled_cons]
        exact literal (token :: front) back (by rw [cut]; rfl))
      rw [filled_cons, List.length_append] at enough
      rw [filled_cons, filled_cons]
      by_cases slot : token = .inr name
      · rw [slot, piece_unfilled name unfilled] at next enough ⊢
        have positive := List.length_pos_of_ne_nil nonempty
        obtain ⟨fuel, rfl⟩ : ∃ less, fuel = less + 1 := ⟨fuel - 1, by omega⟩
        have inserted := literal [] rest (by rw [slot]; rfl)
        rw [show filled spelled values [] = [] from rfl, List.append_nil] at inserted
        rw [scan_found _ _ nonempty, inserted, next fuel (by omega), piece, here]
        rfl
      · obtain ⟨fuel, rfl⟩ : ∃ less, fuel = (piece spelled values token).length + less :=
          ⟨fuel - (piece spelled values token).length, by omega⟩
        have kept : piece spelled others token = piece spelled values token := by
          cases token with
          | inl letter => rfl
          | inr other => rw [piece, piece, elsewhere other (fun same => slot (by rw [same]))]
        rw [scan_pass, next fuel (by omega), kept]
        intro before after split nonempty_after found
        obtain ⟨behind, met⟩ := found
        have shorter : before.length < (piece spelled values token).length := by
          have positive := List.length_pos_of_ne_nil nonempty_after
          rw [split, List.length_append]
          omega
        exact slot (own_early token rest name own before behind (by
          rw [filled_cons, split, List.append_assoc, ← met]) shorter)

end Replacing

end Filling

section Run

variable [DecidableEq Letter] [BEq Name] [LawfulBEq Name] (spelled : Name → List Letter)
variable (insert : List Letter → List Letter → List Letter → List Letter → List Letter)

def run (entries : List (Name × List Letter)) (text : List Letter) : List Letter :=
  entries.foldl (fun current entry => replaceAll (spelled entry.1) (insert (spelled entry.1) entry.2) current) text

-- The name is met in the template's own slots and its value is put in there
-- unchanged; or what is put in, wherever it is met, is the name as it is spelled.
def Literal (values : Name → Option (List Letter)) (template : Template Letter Name) (name : Name) (value : List Letter) : Prop :=
  (∀ before after, filled spelled values template = before ++ (spelled name ++ after) →
      insert (spelled name) value before after = value ∧
        ∃ front back, template = front ++ .inr name :: back ∧ filled spelled values front = before ∧
          filled spelled values back = after) ∨
    ((.inr name ∈ template → value = spelled name) ∧
      ∀ before after, filled spelled values template = before ++ (spelled name ++ after) →
        insert (spelled name) value before after = spelled name)

def LiteralRun (template : Template Letter Name) (entries : List (Name × List Letter)) : Prop :=
  ∀ before name value after, entries = before ++ (name, value) :: after →
    Literal spelled insert (fun other => before.lookup other) template name value

variable {spelled} {insert}

omit [BEq Name] [LawfulBEq Name] in
theorem replace_literal (values others : Name → Option (List Letter)) (template : Template Letter Name) (name : Name)
    (value : List Letter) (nonempty : spelled name ≠ []) (unfilled : values name = none) (here : others name = some value)
    (elsewhere : ∀ other, other ≠ name → others other = values other)
    (literal : Literal spelled insert values template name value) :
    replaceAll (spelled name) (insert (spelled name) value) (filled spelled values template) =
      filled spelled others template := by
  rcases literal with inSlots | unchanged
  · have own : Own spelled values template name := fun before after split => (inSlots before after split).2
    refine scan_filled _ others name value unfilled nonempty here elsewhere template own []
      (fun front back cut => ?_) _ (Nat.le_refl _)
    refine (inSlots _ _ ?_).1
    rw [cut, filled, List.flatMap_append, List.flatMap_cons, piece_unfilled name unfilled]
    rfl
  · have same : filled spelled values template = filled spelled others template := by
      apply filled_congr
      intro other member
      by_cases slot : other = name
      · rw [slot] at member
        rw [slot, unfilled, here, unchanged.1 member]
        rfl
      · rw [elsewhere other slot]
    rw [← same]
    exact scan_same _ _ nonempty _ _ _ (fun before after split => by rw [List.nil_append, unchanged.2 before after split])

omit [BEq Name] [LawfulBEq Name] in
theorem run_snoc (done : List (Name × List Letter)) (name : Name) (value text : List Letter) :
    run spelled insert (done ++ [(name, value)]) text =
      replaceAll (spelled name) (insert (spelled name) value) (run spelled insert done text) := by
  rw [run, List.foldl_append]
  rfl

omit [DecidableEq Letter] [LawfulBEq Name] in
theorem literal_run_snoc (template : Template Letter Name) (done : List (Name × List Letter)) (name : Name)
    (value : List Letter) :
    LiteralRun spelled insert template (done ++ [(name, value)]) ↔
      LiteralRun spelled insert template done ∧
        Literal spelled insert (fun other => done.lookup other) template name value := by
  refine ⟨fun literal => ⟨fun before other text after split => ?_, literal done name value [] rfl⟩,
    fun both before other text after split => ?_⟩
  · exact literal before other text (after ++ [(name, value)]) (by rw [split, List.append_assoc]; rfl)
  · rcases List.eq_nil_or_concat after with rfl | ⟨front, last, rfl⟩
    · obtain ⟨rfl, same⟩ := List.append_inj' split rfl
      cases same
      exact both.2
    · rw [List.concat_eq_append, ← List.cons_append, ← List.append_assoc] at split
      obtain ⟨rfl, _⟩ := List.append_inj' split rfl
      exact both.1 before other text front rfl

theorem run_literal (nonempty : ∀ name, spelled name ≠ []) (template : Template Letter Name)
    (entries : List (Name × List Letter)) (distinct : (entries.map Prod.fst).Nodup)
    (literal : LiteralRun spelled insert template entries) :
    run spelled insert entries (filled spelled (fun _ => none) template) =
      filled spelled (fun name => entries.lookup name) template := by
  induction entries using List.reverseRecOn with
  | nil => rfl
  | append_singleton done entry ih =>
      obtain ⟨name, value⟩ := entry
      rw [literal_run_snoc] at literal
      rw [List.map_append, List.nodup_append] at distinct
      have fresh : name ∉ done.map Prod.fst := fun member => distinct.2.2 name member name (by simp) rfl
      have unfilled : done.lookup name = none :=
        List.lookup_eq_none_iff.mpr (fun other member => bne_iff_ne.mpr (fun same => fresh (same ▸ List.mem_map_of_mem member)))
      rw [run_snoc, ih distinct.1 literal.1]
      refine replace_literal _ _ template name value (nonempty name) unfilled ?_ (fun other different => ?_) literal.2
      · rw [List.lookup_append, unfilled, List.lookup_cons_self]
        rfl
      · rw [List.lookup_append, List.lookup_cons, beq_false_of_ne different]
        exact Option.or_none

theorem first_disturbed (nonempty : ∀ name, spelled name ≠ []) (template : Template Letter Name)
    (entries : List (Name × List Letter)) (distinct : (entries.map Prod.fst).Nodup)
    (disturbed : ¬ LiteralRun spelled insert template entries) :
    ∃ before name value after, entries = before ++ (name, value) :: after ∧
      run spelled insert before (filled spelled (fun _ => none) template) =
        filled spelled (fun other => before.lookup other) template ∧
      ¬ Literal spelled insert (fun other => before.lookup other) template name value := by
  induction entries using List.reverseRecOn with
  | nil => exact absurd (fun before name value after split => absurd split (by simp)) disturbed
  | append_singleton done entry ih =>
      obtain ⟨name, value⟩ := entry
      rw [List.map_append] at distinct
      have earlier := (List.nodup_append.mp distinct).1
      by_cases literal : LiteralRun spelled insert template done
      · rw [literal_run_snoc, not_and] at disturbed
        exact ⟨done, name, value, [], rfl, run_literal nonempty template done earlier literal, disturbed literal⟩
      · obtain ⟨before, other, text, after, split, right, wrong⟩ := ih earlier literal
        exact ⟨before, other, text, after ++ [(name, value)], by rw [split, List.append_assoc]; rfl, right, wrong⟩

omit [DecidableEq Letter] in
theorem lookup_mem_iff (entries : List (Name × List Letter)) (distinct : (entries.map Prod.fst).Nodup) (name : Name)
    (value : List Letter) : entries.lookup name = some value ↔ (name, value) ∈ entries := by
  induction entries with
  | nil => simp
  | cons entry rest ih =>
      obtain ⟨first, text⟩ := entry
      rw [List.map_cons, List.nodup_cons] at distinct
      by_cases same : name = first
      · subst same
        have absent : (name, value) ∉ rest := fun member => distinct.1 (List.mem_map.mpr ⟨_, member, rfl⟩)
        simp [absent, eq_comm]
      · rw [List.lookup_cons, beq_false_of_ne same, ih distinct.2]
        simp [same]

omit [DecidableEq Letter] in
theorem lookup_perm (first second : List (Name × List Letter)) (distinct : (first.map Prod.fst).Nodup) (perm : first.Perm second)
    (name : Name) : first.lookup name = second.lookup name := by
  have also : (second.map Prod.fst).Nodup := (perm.map Prod.fst).nodup_iff.mp distinct
  refine Option.ext (fun value => ?_)
  rw [lookup_mem_iff first distinct, lookup_mem_iff second also, perm.mem_iff]

end Run

end Placeholders
