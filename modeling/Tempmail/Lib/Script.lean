import Mathlib.Data.List.Infix

set_option autoImplicit false

-- What a shell script does with texts: case patterns, $(...) and read.
namespace Script

-- A star, or one character: a literal, ? or a bracket expression.
inductive Item where
  | star
  | one (allows : Char → Bool)

def char (c : Char) : Item := .one (fun other => other == c)

def outside (listed : Char → Bool) : Item := .one (fun c => !listed c)

def accepts : List Item → List Char → Bool
  | [], text => text.isEmpty
  | .star :: rest, text => text.tails.any (accepts rest)
  | .one allows :: rest, text => match text with
      | [] => false
      | c :: more => allows c && accepts rest more

-- $(...): the NULs and the final newlines of the output are dropped.
def substitution (output : List Char) : List Char :=
  ((output.filter (fun c => c != '\x00')).reverse.dropWhile (fun c => c == '\n')).reverse

def printed (texts : List (List Char)) : List Char := texts.flatMap (fun text => text ++ ['\n'])

def hereLines (output : List Char) : List (List Char) := (substitution output).splitOn '\n'

section Patterns

theorem accepts_none (text : List Char) : accepts [] text = true ↔ text = [] := List.isEmpty_iff

theorem accepts_all (text : List Char) : accepts [.star] text = true := by
  rw [accepts, List.any_eq_true]
  exact ⟨[], (List.mem_tails _ _).mpr List.nil_suffix, rfl⟩

theorem accepts_star (rest : List Item) (text : List Char) :
    accepts (.star :: rest) text = true ↔ ∃ front back, text = front ++ back ∧ accepts rest back = true := by
  rw [accepts, List.any_eq_true]
  constructor
  · rintro ⟨back, member, found⟩
    obtain ⟨front, whole⟩ := (List.mem_tails _ _).mp member
    exact ⟨front, back, whole.symm, found⟩
  · rintro ⟨front, back, whole, found⟩
    exact ⟨back, (List.mem_tails _ _).mpr ⟨front, whole.symm⟩, found⟩

theorem accepts_one (allows : Char → Bool) (rest : List Item) (text : List Char) :
    accepts (.one allows :: rest) text = true ↔ ∃ c more, text = c :: more ∧ allows c = true ∧ accepts rest more = true := by
  cases text with
  | nil => simp [accepts]
  | cons c more => simp [accepts]

theorem accepts_somewhere (allows : Char → Bool) (text : List Char) :
    accepts [.star, .one allows, .star] text = true ↔ ∃ c ∈ text, allows c = true := by
  rw [accepts_star]
  constructor
  · rintro ⟨front, back, whole, found⟩
    obtain ⟨c, more, split, allowed, -⟩ := (accepts_one allows [.star] back).mp found
    subst split whole
    exact ⟨c, by simp, allowed⟩
  · rintro ⟨c, member, allowed⟩
    obtain ⟨front, more, whole⟩ := List.append_of_mem member
    exact ⟨front, c :: more, whole, (accepts_one allows [.star] _).mpr ⟨c, more, rfl, allowed, accepts_all more⟩⟩

theorem accepts_first (c : Char) (text : List Char) : accepts [char c, .star] text = true ↔ text.head? = some c := by
  rw [char, accepts_one]
  constructor
  · rintro ⟨first, more, whole, same, -⟩
    rw [whole, List.head?_cons, eq_of_beq same]
  · intro first
    obtain ⟨more, whole⟩ := List.head?_eq_some_iff.mp first
    exact ⟨c, more, whole, beq_self_eq_true c, accepts_all more⟩

theorem accepts_doubled (c : Char) (text : List Char) :
    accepts [.star, char c, char c, .star] text = true ↔ ∃ front back, text = front ++ c :: c :: back := by
  rw [accepts_star]
  constructor
  · rintro ⟨front, found, whole, matched⟩
    obtain ⟨first, more, split, same, next⟩ := (accepts_one _ _ found).mp matched
    obtain ⟨second, back, again, equal, -⟩ := (accepts_one _ _ more).mp next
    rw [eq_of_beq same] at split
    rw [eq_of_beq equal] at again
    exact ⟨front, back, by rw [whole, split, again]⟩
  · rintro ⟨front, back, whole⟩
    refine ⟨front, c :: c :: back, whole, (accepts_one _ _ _).mpr ⟨c, c :: back, rfl, beq_self_eq_true c, ?_⟩⟩
    exact (accepts_one _ _ _).mpr ⟨c, back, rfl, beq_self_eq_true c, accepts_all back⟩

end Patterns

section Output

theorem substitution_ended (text : List Char) (printable : '\x00' ∉ text) (last : text.getLast? ≠ some '\n') :
    substitution (text ++ ['\n']) = text := by
  have kept : (text ++ ['\n']).filter (fun c => c != '\x00') = text ++ ['\n'] := by
    apply List.filter_eq_self.mpr
    intro c member
    rcases List.mem_append.mp member with inside | newline
    · exact bne_iff_ne.mpr fun same => printable (same ▸ inside)
    · rw [List.mem_singleton.mp newline]
      decide
  rw [substitution, kept, List.reverse_append, List.reverse_singleton, List.singleton_append, List.dropWhile_cons_of_pos rfl]
  have stays : text.reverse.dropWhile (fun c => c == '\n') = text.reverse := by
    rw [← List.head?_reverse] at last
    cases backwards : text.reverse with
    | nil => rfl
    | cons c rest =>
        rw [backwards, List.head?_cons] at last
        exact List.dropWhile_cons_of_neg (by simpa using fun same => last (congrArg some same))
  rw [stays, List.reverse_reverse]

theorem printed_split (lead : List (List Char)) (final : List Char) (lines : ∀ text ∈ lead, '\n' ∉ text) (last : '\n' ∉ final) :
    (printed lead ++ final).splitOn '\n' = lead ++ [final] := by
  induction lead with
  | nil => exact List.splitOn_eq_singleton last
  | cons text rest ih =>
      have split : printed (text :: rest) ++ final = text ++ '\n' :: (printed rest ++ final) := by simp [printed]
      rw [split, List.splitOn_append_cons_self_of_not_mem (lines text List.mem_cons_self),
        ih (fun other member => lines other (List.mem_cons_of_mem _ member)), List.cons_append]

theorem printed_nul (texts : List (List Char)) (printable : ∀ text ∈ texts, '\x00' ∉ text) : '\x00' ∉ printed texts := by
  intro inside
  obtain ⟨text, member, nul⟩ := List.mem_flatMap.mp inside
  rcases List.mem_append.mp nul with known | newline
  · exact printable text member known
  · exact absurd (List.mem_singleton.mp newline) (by decide)

theorem here_lines_printed (texts : List (List Char)) (nonempty : texts ≠ []) (filled : ∀ text ∈ texts, text ≠ [])
    (lines : ∀ text ∈ texts, '\n' ∉ text) (printable : ∀ text ∈ texts, '\x00' ∉ text) : hereLines (printed texts) = texts := by
  obtain ⟨lead, final, whole⟩ : ∃ lead final, texts = lead ++ [final] :=
    ⟨texts.dropLast, texts.getLast nonempty, (List.dropLast_append_getLast nonempty).symm⟩
  subst whole
  have ends : final ∈ lead ++ [final] := by simp
  have front (text : List Char) (member : text ∈ lead) : text ∈ lead ++ [final] := List.mem_append_left _ member
  have split : printed (lead ++ [final]) = printed lead ++ final ++ ['\n'] := by simp [printed]
  have clean : '\x00' ∉ printed lead ++ final := by
    intro inside
    rcases List.mem_append.mp inside with before | behind
    · exact printed_nul lead (fun text member => printable text (front text member)) before
    · exact printable final ends behind
  have last : (printed lead ++ final).getLast? ≠ some '\n' := by
    rw [List.getLast?_append_of_ne_nil _ (filled final ends)]
    exact fun newline => lines final ends (List.mem_of_getLast? newline)
  rw [hereLines, split, substitution_ended _ clean last]
  exact printed_split lead final (fun text member => lines text (front text member)) (lines final ends)

end Output

end Script
