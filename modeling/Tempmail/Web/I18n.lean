import Tempmail.Lib.Placeholders

set_option autoImplicit false

namespace Tempmail.Web

abbrev JsText := List UInt16

def dollar : UInt16 := 0x24

-- GetSubstitution for a pattern without captures: $$, $&, $` and $' are read,
-- any other $ stands for itself.
def getSubstitution (matched before after : JsText) : JsText → JsText
  | [] => []
  | [c] => [c]
  | c :: next :: rest =>
      if c = dollar ∧ next = dollar then dollar :: getSubstitution matched before after rest
      else if c = dollar ∧ next = 0x26 then matched ++ getSubstitution matched before after rest
      else if c = dollar ∧ next = 0x60 then before ++ getSubstitution matched before after rest
      else if c = dollar ∧ next = 0x27 then after ++ getSubstitution matched before after rest
      else c :: getSubstitution matched before after (next :: rest)

def inserted (pattern replacement before after : JsText) : JsText := getSubstitution pattern before after replacement

def replaceAll (s pattern replacement : JsText) : JsText := Placeholders.replaceAll pattern (inserted pattern replacement) s

def placeholder (k : JsText) : JsText := 0x7b :: (k ++ [0x7d])

inductive VarValue (Number : Type) where
  | str (text : JsText)
  | num (number : Number)

-- A Record<string, string | number>, its properties in the order they were set.
structure Vars (Number : Type) where
  properties : List (JsText × VarValue Number)
  distinct : (properties.map Prod.fst).Nodup

def digit (c : UInt16) : Bool := decide (0x30 ≤ c.toNat) && decide (c.toNat ≤ 0x39)

-- The number a key spells where it is an array index.
def arrayIndex (key : JsText) : Option Nat :=
  let index := key.foldl (fun value c => 10 * value + (c.toNat - 0x30)) 0
  if key ≠ [] ∧ key.all digit ∧ (key.head? = some 0x30 → key = [0x30]) ∧ index < 0xffffffff then some index else none

section Interpolation

variable {Number : Type} (shown : Number → JsText)

-- Object.entries: array indices by their value, then the others as they were set.
def Vars.entries (vars : Vars Number) : List (JsText × VarValue Number) :=
  (vars.properties.filter (fun entry => (arrayIndex entry.1).isSome)).mergeSort
      (fun first second => decide ((arrayIndex first.1).getD 0 ≤ (arrayIndex second.1).getD 0)) ++
    vars.properties.filter (fun entry => !(arrayIndex entry.1).isSome)

def VarValue.string : VarValue Number → JsText
  | .str text => text
  | .num number => shown number

def interpolate (template : JsText) (vars : Option (Vars Number)) : JsText :=
  match vars with
  | none => template
  | some vars => vars.entries.foldl (fun s entry => replaceAll s (placeholder entry.1) (entry.2.string shown)) template

inductive Dict where
  | text (value : JsText)
  | dict (entries : List (JsText × Dict))

def getValue : Option Dict → List JsText → Option Dict
  | node, [] => node
  | some (.dict entries), p :: parts => getValue (entries.lookup p) parts
  | _, _ :: parts => getValue none parts

def Dict.string : Option Dict → Option JsText
  | some (.text value) => some value
  | _ => none

def found (dict : Dict) (key : JsText) : Option JsText := Dict.string (getValue (some dict) (key.splitOn 0x2e))

-- The text of the language, else the English one, else the key itself.
def translation (dicts : List (JsText × Dict)) (en : Dict) (lang key : JsText) : JsText :=
  ((found ((dicts.lookup lang).getD (.dict [])) key).orElse (fun _ => found en key)).getD key

def lookup (dicts : List (JsText × Dict)) (en : Dict) (lang key : JsText) (vars : Option (Vars Number)) : JsText :=
  interpolate shown (translation dicts en lang key) vars

def Vars.given (vars : Vars Number) : List (JsText × JsText) := vars.entries.map (fun entry => (entry.1, entry.2.string shown))

def Vars.texts (vars : Vars Number) : List (JsText × JsText) := vars.properties.map (fun entry => (entry.1, entry.2.string shown))

-- In whatever order the variables were set, the result is the template with the
-- placeholders of all of them replaced at once.
def InsertsLiterally (template : JsText) (vars : Vars Number) : Prop :=
  ∀ order : Vars Number, order.properties.Perm vars.properties →
    Placeholders.Filling placeholder (fun k => (vars.texts shown).lookup k) template (interpolate shown template (some order))

-- No two placeholders of the variables overlap in the template; and in whatever
-- order they were set, each of them, in the template filled with those before it,
-- is met in the template's own places only, where its value read as a replacement
-- is the value, or else replacing it changes nothing.
def Undisturbed (template : JsText) (vars : Vars Number) : Prop :=
  ∃ cut : Placeholders.Template UInt16 JsText,
    Placeholders.filled placeholder (fun _ => none) cut = template ∧
      (∀ k, .inr k ∈ cut → ((vars.texts shown).lookup k).isSome) ∧
      (∀ k, ((vars.texts shown).lookup k).isSome → Placeholders.Own placeholder (fun _ => none) cut k) ∧
      ∀ order : Vars Number, order.properties.Perm vars.properties →
        Placeholders.LiteralRun placeholder inserted cut (order.given shown)

theorem placeholder_nonempty (k : JsText) : placeholder k ≠ [] := List.cons_ne_nil _ _

theorem entries_perm (vars : Vars Number) : vars.entries.Perm vars.properties :=
  ((List.mergeSort_perm _ _).append_right _).trans (List.filter_append_perm _ _)

theorem interpolate_run (template : JsText) (vars : Vars Number) :
    interpolate shown template (some vars) =
      Placeholders.run placeholder inserted (vars.given shown) template := by
  rw [interpolate, Placeholders.run, Vars.given, List.foldl_map]
  rfl

theorem given_perm (vars order : Vars Number) (perm : order.properties.Perm vars.properties) :
    (order.given shown).Perm (vars.texts shown) :=
  ((entries_perm order).trans perm).map _

theorem given_distinct (vars : Vars Number) : ((vars.given shown).map Prod.fst).Nodup := by
  have names : (vars.given shown).map Prod.fst = vars.entries.map Prod.fst := by
    rw [Vars.given, List.map_map]
    rfl
  rw [names]
  exact ((entries_perm vars).map Prod.fst).nodup_iff.mpr vars.distinct

theorem inserts_literally (template : JsText) (vars : Vars Number) (undisturbed : Undisturbed shown template vars) :
    InsertsLiterally shown template vars := by
  obtain ⟨cut, rfl, known, own, literal⟩ := undisturbed
  intro order perm
  have same := Placeholders.lookup_perm _ _ (given_distinct shown order) (given_perm shown vars order perm)
  refine ⟨cut, rfl, known, own, ?_⟩
  rw [interpolate_run, Placeholders.run_literal placeholder_nonempty cut _ (given_distinct shown order) (literal order perm)]
  exact congrArg (fun values => Placeholders.filled placeholder values cut) (funext same)

theorem order_irrelevant (template : JsText) (vars order : Vars Number) (literally : InsertsLiterally shown template vars)
    (perm : order.properties.Perm vars.properties) :
    interpolate shown template (some order) = interpolate shown template (some vars) :=
  Placeholders.filling_unique placeholder_nonempty _ _ _ (literally order perm) (literally vars (List.Perm.refl _))

theorem disturbed_iteration (cut : Placeholders.Template UInt16 JsText) (vars : Vars Number)
    (known : ∀ k, .inr k ∈ cut → ((vars.texts shown).lookup k).isSome)
    (own : ∀ k, ((vars.texts shown).lookup k).isSome → Placeholders.Own placeholder (fun _ => none) cut k)
    (disturbed : ¬ Undisturbed shown (Placeholders.filled placeholder (fun _ => none) cut) vars) :
    ∃ order : Vars Number, order.properties.Perm vars.properties ∧ ∃ before k value after,
      order.given shown = before ++ (k, value) :: after ∧
        Placeholders.run placeholder inserted before (Placeholders.filled placeholder (fun _ => none) cut) =
          Placeholders.filled placeholder (fun other => before.lookup other) cut ∧
        ¬ Placeholders.Literal placeholder inserted (fun other => before.lookup other) cut k value := by
  have wrong : ¬ ∀ order : Vars Number, order.properties.Perm vars.properties →
      Placeholders.LiteralRun placeholder inserted cut (order.given shown) :=
    fun literal => disturbed ⟨cut, rfl, known, own, literal⟩
  rw [not_forall] at wrong
  obtain ⟨order, wrong⟩ := wrong
  rw [Classical.not_imp] at wrong
  exact ⟨order, wrong.1, Placeholders.first_disturbed placeholder_nonempty cut _ (given_distinct shown order) wrong.2⟩

end Interpolation

theorem plain_inserted (pattern before after value : JsText) (plain : dollar ∉ value) :
    inserted pattern value before after = value := by
  unfold inserted
  fun_induction getSubstitution pattern before after value with
  | case1 => rfl
  | case2 => rfl
  | case7 c next rest _ _ _ _ ih => rw [ih (fun member => plain (List.mem_cons_of_mem _ member))]
  | _ => simp_all

def Vars.one {Number : Type} (k : JsText) (value : VarValue Number) : Vars Number := ⟨[(k, value)], List.pairwise_singleton _ _⟩

theorem single_entries {Number : Type} (k : JsText) (value : VarValue Number) (order : Vars Number)
    (perm : order.properties.Perm (Vars.one k value).properties) : order.entries = [(k, value)] :=
  List.perm_singleton.mp ((entries_perm order).trans perm)

theorem single_given (k text name : JsText) : (([(k, text)] : List (JsText × JsText)).lookup name).isSome ↔ name = k := by
  simp

theorem single_spelled (k : JsText) : Placeholders.filled placeholder (fun _ => none) [Sum.inr k] = placeholder k := by
  simp [Placeholders.filled, Placeholders.piece]

theorem single_owned (k text name : JsText) (given : (([(k, text)] : List (JsText × JsText)).lookup name).isSome) :
    Placeholders.Own placeholder (fun _ => none) [Sum.inr k] name := by
  rw [(single_given k text name).mp given]
  exact Placeholders.own_alone k

theorem single_known (k text name : JsText) (member : Sum.inr name ∈ ([Sum.inr k] : Placeholders.Template UInt16 JsText)) :
    (([(k, text)] : List (JsText × JsText)).lookup name).isSome := by
  rw [List.mem_singleton, Sum.inr.injEq] at member
  exact (single_given k text name).mpr member

theorem single_filling (k text : JsText) :
    Placeholders.Filling placeholder (fun name => [(k, text)].lookup name) (placeholder k) text :=
  ⟨[.inr k], single_spelled k, single_known k text, single_owned k text, by simp [Placeholders.filled, Placeholders.piece]⟩

theorem single_undisturbed {Number : Type} (shown : Number → JsText) (k : JsText) (value : VarValue Number)
    (plain : dollar ∉ value.string shown) : Undisturbed shown (placeholder k) (Vars.one k value) := by
  refine ⟨[.inr k], single_spelled k, single_known k _, single_owned k _, ?_⟩
  intro order perm before name text after split
  rw [Vars.given, single_entries k value order perm] at split
  cases before with
  | nil =>
      simp only [List.map_cons, List.map_nil, List.nil_append, List.cons.injEq, Prod.mk.injEq] at split
      obtain ⟨⟨rfl, rfl⟩, _⟩ := split
      exact Or.inl (fun before after met => ⟨plain_inserted _ before after _ plain, Placeholders.own_alone k before after met⟩)
  | cons first before =>
      have length := congrArg List.length split
      simp only [List.map_cons, List.map_nil, List.length_cons, List.length_append, List.length_nil] at length
      omega

def message : JsText := [0x6d, 0x73, 0x67]

-- "{msg}" with the message "ok".
theorem message_inserted :
    Undisturbed (fun _ : Unit => []) (placeholder message) (Vars.one message (.str [0x6f, 0x6b])) ∧
      InsertsLiterally (fun _ : Unit => []) (placeholder message) (Vars.one message (.str [0x6f, 0x6b])) :=
  ⟨single_undisturbed _ _ _ (by decide), inserts_literally _ _ _ (single_undisturbed _ _ _ (by decide))⟩

-- "{msg}" with the message "$$5" says "$5".
theorem message_interpreted :
    ¬ ∀ (template : JsText) (vars : Vars Unit), InsertsLiterally (fun _ => []) template vars := by
  intro literally
  have result := literally (placeholder message) (Vars.one message (.str [dollar, dollar, 0x35])) _ (List.Perm.refl _)
  have same := Placeholders.filling_unique placeholder_nonempty _ _ _ result (single_filling message [dollar, dollar, 0x35])
  exact absurd same (by decide +kernel)

end Tempmail.Web
