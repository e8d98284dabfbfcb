import Mathlib.Data.List.Infix

set_option autoImplicit false

-- SQL's LIKE with an escape character.
namespace Like

inductive Item where
  | any
  | one
  | char (c : Char)
deriving DecidableEq, Repr

def item (c : Char) : Item := if c = '%' then .any else if c = '_' then .one else .char c

def parse (escape : Char) : List Char → List Item
  | [] => []
  | [c] => [item c]
  | c :: d :: rest => if c = escape then .char d :: parse escape rest else item c :: parse escape (d :: rest)

def accepts : List Item → List Char → Bool
  | [], text => text.isEmpty
  | .any :: rest, text => text.tails.any (accepts rest)
  | .one :: rest, text => match text with
      | [] => false
      | _ :: more => accepts rest more
  | .char c :: rest, text => match text with
      | [] => false
      | d :: more => c == d && accepts rest more

def Item.folded (fold : Char → Char) : Item → Item
  | .char c => .char (fold c)
  | other => other

def ilike (fold : Char → Char) (escape : Char) (pattern text : String) : Bool :=
  accepts ((parse escape pattern.toList).map (Item.folded fold)) (text.toList.map fold)

def like (escape : Char) (pattern text : String) : Bool := accepts (parse escape pattern.toList) text.toList

-- Every escape stands before a character that needs one; the database refuses
-- a pattern that ends in the middle of an escape.
def wellFormed (escape : Char) : List Char → Bool
  | [] => true
  | [c] => c != escape
  | c :: d :: rest =>
      if c = escape then (d == escape || d == '%' || d == '_') && wellFormed escape rest else wellFormed escape (d :: rest)

-- Folding letters takes no character to a special one, and keeps those.
def Plain (fold : Char → Char) : Prop := ∀ special ∈ ['\\', '%', '_'], ∀ c, fold c = special ↔ c = special

def escaped (c : Char) : List Char := if c = '\\' ∨ c = '%' ∨ c = '_' then ['\\', c] else [c]

theorem parse_escaped (word tail : List Char) :
    parse '\\' (word.flatMap escaped ++ tail) = word.map Item.char ++ parse '\\' tail := by
  induction word with
  | nil => rfl
  | cons c rest ih =>
      rw [List.flatMap_cons, List.append_assoc, List.map_cons, List.cons_append]
      by_cases special : c = '\\' ∨ c = '%' ∨ c = '_'
      · rw [escaped, if_pos special, List.cons_append, List.cons_append, List.nil_append, parse, if_pos rfl, ih]
      · have plain : item c = .char c := by
          rw [item, if_neg fun same => special (Or.inr (Or.inl same)), if_neg fun same => special (Or.inr (Or.inr same))]
        rw [escaped, if_neg special, List.cons_append, List.nil_append, ← ih]
        cases more : rest.flatMap escaped ++ tail with
        | nil => rw [parse, parse, plain]
        | cons d others => rw [parse, if_neg fun same => special (Or.inl same), plain]

theorem well_formed_escaped (word tail : List Char) : wellFormed '\\' (word.flatMap escaped ++ tail) = wellFormed '\\' tail := by
  induction word with
  | nil => rfl
  | cons c rest ih =>
      rw [List.flatMap_cons, List.append_assoc]
      by_cases special : c = '\\' ∨ c = '%' ∨ c = '_'
      · have paired : (c == '\\' || c == '%' || c == '_') = true := by
          rcases special with rfl | rfl | rfl <;> rfl
        rw [escaped, if_pos special, List.cons_append, List.cons_append, List.nil_append, wellFormed, if_pos rfl, paired,
          Bool.true_and, ih]
      · have plain : c ≠ '\\' := fun same => special (Or.inl same)
        rw [escaped, if_neg special, List.cons_append, List.nil_append, ← ih]
        cases rest.flatMap escaped ++ tail with
        | nil => simpa [wellFormed] using plain
        | cons d others => rw [wellFormed, if_neg plain]

theorem item_folded (fold : Char → Char) (plain : Plain fold) (c : Char) : item (fold c) = (item c).folded fold := by
  have percent := plain '%' (by simp) c
  have underscore := plain '_' (by simp) c
  rw [item, item, if_congr percent rfl (if_congr underscore rfl rfl)]
  split
  · rfl
  · split <;> rfl

theorem parse_folded (fold : Char → Char) (plain : Plain fold) (pattern : List Char) :
    parse '\\' (pattern.map fold) = (parse '\\' pattern).map (Item.folded fold) := by
  have backslash := plain '\\' (by simp)
  induction pattern using parse.induct '\\' with
  | case1 => rfl
  | case2 c => exact congrArg (fun found => [found]) (item_folded fold plain c)
  | case3 d rest ih =>
      rw [List.map_cons, List.map_cons, parse, if_pos ((backslash '\\').mpr rfl), parse, if_pos rfl, List.map_cons, ← ih]
      rfl
  | case4 c d rest other ih =>
      rw [List.map_cons] at ih
      rw [List.map_cons, List.map_cons, parse, if_neg fun same => other ((backslash c).mp same), parse,
        if_neg other, List.map_cons, ← ih,
        item_folded fold plain]

theorem like_folded (fold : Char → Char) (plain : Plain fold) (pattern text : String) :
    like '\\' (String.ofList (pattern.toList.map fold)) (String.ofList (text.toList.map fold)) =
      ilike fold '\\' pattern text := by
  rw [like, ilike, String.toList_ofList, String.toList_ofList, parse_folded fold plain]

theorem accepts_lead (word text : List Char) : accepts (word.map Item.char ++ [.any]) text = true ↔ word <+: text := by
  induction word generalizing text with
  | nil =>
      simp only [List.map_nil, List.nil_append, accepts, List.any_eq_true, List.nil_prefix, iff_true]
      exact ⟨[], (List.mem_tails _ _).mpr List.nil_suffix, rfl⟩
  | cons c rest ih =>
      cases text with
      | nil => simp [accepts]
      | cons d more => simp [accepts, ih, List.cons_prefix_cons]

theorem accepts_inside (word text : List Char) :
    accepts (.any :: (word.map Item.char ++ [.any])) text = true ↔ word <:+: text := by
  rw [accepts, List.any_eq_true, List.infix_iff_prefix_suffix]
  constructor
  · intro ⟨tail, member, found⟩
    exact ⟨tail, (accepts_lead word tail).mp found, (List.mem_tails _ _).mp member⟩
  · intro ⟨tail, lead, ends⟩
    exact ⟨tail, (List.mem_tails _ _).mpr ends, (accepts_lead word tail).mpr lead⟩

end Like
