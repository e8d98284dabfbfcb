import Mathlib.Data.List.DropRight
import Tempmail.Lib.UrlPath

set_option autoImplicit false

-- A list of routes with path parameters, tried in order on an unresolved path.
namespace Router

open UrlPath (Part Path plain skipped parent walk normal directory)

-- A fixed part, or a parameter that takes any part that is not empty.
inductive Piece where
  | lit (text : Part)
  | any
deriving DecidableEq, Repr

abbrev Pattern := List Piece

-- The end of a pattern also stands before a final line break.
def Piece.fits (final : Bool) (piece : Piece) (part : Part) : Bool :=
  match piece with
  | .lit text => part == text || (final && part == text ++ ['\n'])
  | .any => !part.isEmpty

def fits : Pattern → Path → Bool
  | [], [] => true
  | piece :: pieces, part :: parts => piece.fits pieces.isEmpty part && fits pieces parts
  | _, _ => false

structure Route (Handler : Type) where
  methods : List String
  pattern : Pattern
  handler : Handler

inductive Dispatched (Handler : Type) where
  | handler (handler : Handler)
  | methodNotAllowed
  | redirectSlashes
  | notFound
deriving DecidableEq, Repr

section Dispatch

variable {Handler : Type}

def Route.takes (route : Route Handler) (method : String) (path : Path) : Bool :=
  route.methods.contains method && fits route.pattern path

def otherSlash (path : Path) : Path :=
  if path.getLast? = some [] then path.rdropWhile List.isEmpty else path ++ [[]]

def dispatch (routes : List (Route Handler)) (method : String) (path : Path) : Dispatched Handler :=
  match routes.find? (fun route => route.takes method path) with
  | some route => .handler route.handler
  | none =>
      if routes.any (fun route => fits route.pattern path) then .methodNotAllowed
      else if path ≠ [[]] ∧ routes.any (fun route => fits route.pattern (otherSlash path)) then .redirectSlashes
      else .notFound

theorem dispatch_handler (routes : List (Route Handler)) (method : String) (path : Path) (handler : Handler)
    (reached : dispatch routes method path = .handler handler) :
    ∃ route ∈ routes, route.takes method path = true ∧ route.handler = handler := by
  unfold dispatch at reached
  split at reached
  · rename_i route found
    have takes := List.find?_some found
    exact ⟨route, List.mem_of_find?_eq_some found, takes, Dispatched.handler.inj reached⟩
  · split at reached
    · cases reached
    · split at reached <;> cases reached

theorem dispatch_first (before after : List (Route Handler)) (route : Route Handler) (method : String) (path : Path)
    (takes : route.takes method path = true) (others : ∀ earlier ∈ before, earlier.takes method path = false) :
    dispatch (before ++ route :: after) method path = .handler route.handler := by
  have found : (before ++ route :: after).find? (fun route => route.takes method path) = some route := by
    have missed : before.find? (fun route => route.takes method path) = none := by
      rw [List.find?_eq_none]
      intro earlier member
      simp [others earlier member]
    rw [List.find?_append, missed, Option.none_or, List.find?_cons, takes]
  rw [dispatch, found]

end Dispatch

section Overlaps

def Piece.meets : Piece → Piece → Bool
  | .lit one, .lit two => one == two
  | _, _ => true

def meets : Pattern → Pattern → Bool
  | [], [] => true
  | one :: ones, two :: twos => one.meets two && meets ones twos
  | _, _ => false

def Piece.unbroken : Piece → Bool
  | .lit text => !text.contains '\n'
  | .any => true

theorem piece_meets (one two : Piece) (ends : Bool) (part : Part) (first : one.unbroken = true)
    (second : two.unbroken = true) (left : one.fits ends part = true) (right : two.fits ends part = true) :
    one.meets two = true := by
  cases one with
  | any => rfl
  | lit text =>
      cases two with
      | any => rfl
      | lit other =>
          simp only [Piece.unbroken, Bool.not_eq_true', List.contains_eq_mem, decide_eq_false_iff_not] at first second
          simp only [Piece.fits, Bool.or_eq_true, beq_iff_eq, Bool.and_eq_true] at left right
          simp only [Piece.meets, beq_iff_eq]
          rcases left with same | ⟨-, broken⟩
          · rcases right with also | ⟨-, broken⟩
            · rw [← same, also]
            · exact absurd (by rw [← same, broken]; simp) first
          · rcases right with same | ⟨-, also⟩
            · exact absurd (by rw [← same, broken]; simp) second
            · exact List.append_cancel_right (broken.symm.trans also)

theorem fits_meets (one two : Pattern) (path : Path) (first : ∀ piece ∈ one, piece.unbroken = true)
    (second : ∀ piece ∈ two, piece.unbroken = true) (left : fits one path = true) (right : fits two path = true) :
    meets one two = true := by
  induction one generalizing two path with
  | nil =>
      cases path with
      | nil =>
          cases two with
          | nil => rfl
          | cons piece pieces => cases right
      | cons part parts => cases left
  | cons piece pieces ih =>
      cases path with
      | nil => cases left
      | cons part parts =>
          cases two with
          | nil => cases right
          | cons other others =>
              simp only [fits, Bool.and_eq_true] at left right
              have rest := ih others parts (fun p member => first p (List.mem_cons_of_mem _ member))
                (fun p member => second p (List.mem_cons_of_mem _ member)) left.2 right.2
              have ends : pieces.isEmpty = others.isEmpty := by
                cases pieces <;> cases others <;> first | rfl | cases rest
              rw [ends] at left
              simp only [meets, Bool.and_eq_true]
              exact ⟨piece_meets piece other _ part (first piece List.mem_cons_self) (second other List.mem_cons_self)
                left.1 right.1, rest⟩

end Overlaps

section Resolution

def deep (depth : Nat) : Pattern → Bool
  | [] => true
  | .lit text :: rest => plain text && plain (text ++ ['\n']) && deep (depth + 1) rest
  | .any :: rest => 1 ≤ depth && deep (depth - 1) rest

theorem deep_more (pattern : Pattern) (depth more : Nat) (enough : deep depth pattern = true) (above : depth ≤ more) :
    deep more pattern = true := by
  induction pattern generalizing depth more with
  | nil => rfl
  | cons piece rest ih =>
      cases piece with
      | lit text =>
          simp only [deep, Bool.and_eq_true] at enough ⊢
          exact ⟨enough.1, ih (depth + 1) (more + 1) enough.2 (by omega)⟩
      | any =>
          simp only [deep, Bool.and_eq_true, decide_eq_true_eq] at enough ⊢
          exact ⟨by omega, ih (depth - 1) (more - 1) enough.2 (by omega)⟩

theorem lit_plain (text part : Part) (ends : Bool) (whole : plain text = true) (broken : plain (text ++ ['\n']) = true)
    (fits : (Piece.lit text).fits ends part = true) : plain part = true := by
  simp only [Piece.fits, Bool.or_eq_true, beq_iff_eq, Bool.and_eq_true] at fits
  rcases fits with same | ⟨-, same⟩
  · rw [same]
    exact whole
  · rw [same]
    exact broken

theorem deep_walk (pattern : Pattern) (path kept : Path) (fitting : fits pattern path = true)
    (enough : deep kept.length pattern = true) : ∃ out, walk kept path = some out := by
  induction pattern generalizing path kept with
  | nil =>
      cases path with
      | nil => exact ⟨kept, rfl⟩
      | cons part parts => cases fitting
  | cons piece rest ih =>
      cases path with
      | nil => cases fitting
      | cons part parts =>
          simp only [fits, Bool.and_eq_true] at fitting
          obtain ⟨here, later⟩ := fitting
          cases piece with
          | lit text =>
              simp only [deep, Bool.and_eq_true] at enough
              have whole := lit_plain text part _ enough.1.1 enough.1.2 here
              simp only [plain, Bool.and_eq_true, Bool.not_eq_true', bne_iff_ne, ne_eq] at whole
              rw [walk, whole.1, if_neg Bool.false_ne_true, if_neg whole.2]
              exact ih parts _ later (by simpa using enough.2)
          | any =>
              simp only [deep, Bool.and_eq_true, decide_eq_true_eq] at enough
              rw [walk]
              split
              · exact ih parts kept later (deep_more rest _ _ enough.2 (by omega))
              · split
                · rw [if_neg (List.ne_nil_of_length_pos (by omega))]
                  exact ih parts _ later (by simpa using enough.2)
                · exact ih parts _ later (deep_more rest _ _ enough.2 (by
                    rw [List.length_append]
                    omega))

-- What such a path resolves to begins with one of the fixed parts.
theorem deep_head (Good : Part → Prop) (pattern : Pattern) (path kept out : Path) (fitting : fits pattern path = true)
    (enough : deep kept.length pattern = true) (walked : walk kept path = some out)
    (first : ∀ part, kept.head? = some part → Good part)
    (fixed : ∀ text, .lit text ∈ pattern → Good text ∧ Good (text ++ ['\n'])) :
    ∀ part, out.head? = some part → Good part := by
  induction pattern generalizing path kept with
  | nil =>
      cases path with
      | nil =>
          rw [walk, Option.some.injEq] at walked
          rw [← walked]
          exact first
      | cons part parts => cases fitting
  | cons piece rest ih =>
      cases path with
      | nil => cases fitting
      | cons part parts =>
          simp only [fits, Bool.and_eq_true] at fitting
          obtain ⟨here, later⟩ := fitting
          have others : ∀ text, .lit text ∈ rest → Good text ∧ Good (text ++ ['\n']) :=
            fun text member => fixed text (List.mem_cons_of_mem _ member)
          cases piece with
          | lit text =>
              simp only [deep, Bool.and_eq_true] at enough
              have whole := lit_plain text part _ enough.1.1 enough.1.2 here
              have good : Good part := by
                simp only [Piece.fits, Bool.or_eq_true, beq_iff_eq, Bool.and_eq_true] at here
                rcases here with same | ⟨-, same⟩
                · rw [same]
                  exact (fixed text List.mem_cons_self).1
                · rw [same]
                  exact (fixed text List.mem_cons_self).2
              simp only [plain, Bool.and_eq_true, Bool.not_eq_true', bne_iff_ne, ne_eq] at whole
              rw [walk, whole.1, if_neg Bool.false_ne_true, if_neg whole.2] at walked
              refine ih parts _ later (by simpa using enough.2) walked ?_ others
              intro p head
              cases kept with
              | nil =>
                  rw [List.nil_append, List.head?_cons, Option.some.injEq] at head
                  rw [← head]
                  exact good
              | cons top more => exact first p head
          | any =>
              simp only [deep, Bool.and_eq_true, decide_eq_true_eq] at enough
              rw [walk] at walked
              split at walked
              · exact ih parts kept later (deep_more rest _ _ enough.2 (by omega)) walked first others
              · split at walked
                · rw [if_neg (List.ne_nil_of_length_pos (by omega))] at walked
                  refine ih parts _ later (by simpa using enough.2) walked ?_ others
                  intro p head
                  cases kept with
                  | nil => cases head
                  | cons top more =>
                      cases more with
                      | nil => cases head
                      | cons next last => exact first p head
                · refine ih parts _ later (deep_more rest _ _ enough.2 (by
                    rw [List.length_append]
                    omega)) walked ?_ others
                  intro p head
                  cases kept with
                  | nil => exact absurd enough.1 (by simp)
                  | cons top more => exact first p head

theorem deep_normal (pattern : Pattern) (path : Path) (fitting : fits pattern path = true) (enough : deep 0 pattern = true) :
    ∃ out, normal path = some out := by
  obtain ⟨kept, walked⟩ := deep_walk pattern path [] fitting enough
  exact ⟨_, by rw [normal, walked, Option.map_some]⟩

theorem deep_normal_head (Good : Part → Prop) (pattern : Pattern) (path out : Path) (fitting : fits pattern path = true)
    (enough : deep 0 pattern = true) (resolved : normal path = some out) (empty : Good [])
    (fixed : ∀ text, .lit text ∈ pattern → Good text ∧ Good (text ++ ['\n'])) :
    ∀ part, out.head? = some part → Good part := by
  obtain ⟨kept, walked, shaped⟩ := Option.map_eq_some_iff.mp resolved
  have inner := deep_head Good pattern path [] kept fitting enough walked (fun part none => by cases none) fixed
  intro part head
  rw [← shaped] at head
  split at head
  · cases kept with
    | nil =>
        rw [List.nil_append, List.head?_cons, Option.some.injEq] at head
        rw [← head]
        exact empty
    | cons first rest => exact inner part head
  · exact inner part head

end Resolution

end Router
