import Mathlib.Data.List.Basic

set_option autoImplicit false

-- How a POSIX shell reads the commands of a file it sources, character by
-- character: words after quote removal, until something else than words turns up.
namespace Shell

-- A character of a word, and whether a quote or a backslash kept its meaning away.
structure Piece where
  char : Char
  quoted : Bool
deriving DecidableEq

abbrev Word := List Piece

def Word.text (word : Word) : String := String.ofList (word.map Piece.char)

def bare (chars : List Char) : Word := chars.map (fun c => ⟨c, false⟩)

def kept (chars : List Char) : Word := chars.map (fun c => ⟨c, true⟩)

def isNameChar (c : Char) : Bool := c.isAlpha || c.isDigit || c == '_'

def isName (word : Word) : Bool :=
  word.all (fun piece => !piece.quoted && isNameChar piece.char) && word.head?.any (fun piece => !piece.char.isDigit)

def Word.assignment (word : Word) : Option (String × String) :=
  let name := word.takeWhile (fun piece => piece.char != '=')
  match word.dropWhile (fun piece => piece.char != '=') with
  | [] => none
  | sign :: value => if !sign.quoted && isName name then some (Word.text name, Word.text value) else none

-- Where the reader stands, with the word it is in. stuck is an expansion, an
-- operator other than the semicolon, or a syntax error.
inductive Mode where
  | blank
  | comment
  | word (word : Word)
  | tilde (before : Word) (login : List Char)
  | escaped (held : Option Word)
  | single (word : Word)
  | double (word : Word)
  | doubleEscaped (word : Word)
  | dollar (word : Word) (inside : Bool)
  | dollarEscaped (word : Word) (inside : Bool)
  | stuck
deriving DecidableEq

structure Reader where
  mode : Mode := .blank
  words : List Word := []
  started : Bool := false
deriving DecidableEq

def isBlank (c : Char) : Bool := c == ' ' || c == '\t'

def isOperator (c : Char) : Bool := ['&', '|', '<', '>', '(', ')', '\x60'].contains c

def expands (c : Char) : Bool := isNameChar c || ['(', '\x7b', '@', '*', '#', '?', '-', '$', '!'].contains c

def opensTilde : Option Word → Bool
  | none => true
  | some word => (Word.assignment word).any (fun assigned => assigned.2 == "" || word.getLast? == some ⟨':', false⟩)

namespace Reader

def push (reader : Reader) (word : Word) (piece : Piece) : Reader := { reader with mode := .word (word ++ [piece]) }

def close (reader : Reader) : Option Word → Reader
  | none => { reader with mode := .blank }
  | some word => { reader with mode := .blank, words := reader.words ++ [word], started := true }

def endLine (reader : Reader) : Reader := { reader with mode := .blank, started := false }

def plain (reader : Reader) (held : Option Word) (c : Char) : Reader :=
  if isBlank c then reader.close held
  else if c = '\n' then (reader.close held).endLine
  else if c = ';' then
    let closed := reader.close held
    if closed.started then closed.endLine else { closed with mode := .stuck }
  else if c = '\x27' then { reader with mode := .single (held.getD []) }
  else if c = '"' then { reader with mode := .double (held.getD []) }
  else if c = '\\' then { reader with mode := .escaped held }
  else if c = '$' then { reader with mode := .dollar (held.getD []) false }
  else if isOperator c then { reader with mode := .stuck }
  else if c = '#' ∧ held = none then { reader with mode := .comment }
  else if c = '~' ∧ opensTilde held then { reader with mode := .tilde (held.getD []) [] }
  else reader.push (held.getD []) ⟨c, false⟩

def inDouble (reader : Reader) (word : Word) (c : Char) : Reader :=
  if c = '"' then { reader with mode := .word word }
  else if c = '\\' then { reader with mode := .doubleEscaped word }
  else if c = '$' then { reader with mode := .dollar word true }
  else if c = '\x60' then { reader with mode := .stuck }
  else { reader with mode := .double (word ++ [⟨c, true⟩]) }

def afterDollar (reader : Reader) (word : Word) (inside : Bool) (c : Char) : Reader :=
  if expands c || (c == '\x27' && !inside) then { reader with mode := .stuck }
  else if inside then reader.inDouble (word ++ [⟨'$', true⟩]) c
  else reader.plain (some (word ++ [⟨'$', false⟩])) c

section Home

-- The home directory of a login name, that of the shell itself under the empty one.
variable (home : List Char → Option (List Char))

def settled (before : Word) (login : List Char) : Word :=
  match home login with
  | none => before ++ bare ('~' :: login)
  | some directory => before ++ kept directory

def inTilde (reader : Reader) (before : Word) (login : List Char) (c : Char) : Reader :=
  if ['\x27', '"', '\\', '$'].contains c then reader.plain (some (before ++ bare ('~' :: login))) c
  else if isBlank c || isOperator c || ['\n', ';', '/', ':'].contains c then reader.plain (some (settled home before login)) c
  else { reader with mode := .tilde before (login ++ [c]) }

def step (reader : Reader) (c : Char) : Reader :=
  if c = '\x00' then reader
  else
    match reader.mode with
    | .blank => reader.plain none c
    | .comment => if c = '\n' then reader.endLine else reader
    | .word word => reader.plain (some word) c
    | .tilde before login => reader.inTilde home before login c
    | .escaped held =>
        if c = '\n' then { reader with mode := held.elim .blank .word } else reader.push (held.getD []) ⟨c, true⟩
    | .single word => { reader with mode := if c = '\x27' then .word word else .single (word ++ [⟨c, true⟩]) }
    | .double word => reader.inDouble word c
    | .doubleEscaped word =>
        if c = '\n' then { reader with mode := .double word }
        else if ['$', '\x60', '"', '\\'].contains c then { reader with mode := .double (word ++ [⟨c, true⟩]) }
        else { reader with mode := .double (word ++ [⟨'\\', true⟩, ⟨c, true⟩]) }
    | .dollar word inside =>
        if c = '\\' then { reader with mode := .dollarEscaped word inside } else reader.afterDollar word inside c
    | .dollarEscaped word inside =>
        if c = '\n' then { reader with mode := .dollar word inside }
        else if inside then
          { reader with mode := .double (word ++ [⟨'$', true⟩] ++
              kept (if ['$', '\x60', '"', '\\'].contains c then [c] else ['\\', c])) }
        else reader.push (word ++ [⟨'$', false⟩]) ⟨c, true⟩
    | .stuck => reader

def run (reader : Reader) (chars : List Char) : Reader := chars.foldl (step home) reader

def finish (reader : Reader) : Option (List Word) :=
  match reader.mode with
  | .blank => some reader.words
  | .comment => some reader.words
  | .word word => some (reader.words ++ [word])
  | .tilde before login => some (reader.words ++ [settled home before login])
  | .escaped held => some (reader.words ++ [held.getD [] ++ [⟨'\\', false⟩]])
  | .dollar word false => some (reader.words ++ [word ++ [⟨'$', false⟩]])
  | .dollarEscaped word false => some (reader.words ++ [word ++ [⟨'$', false⟩, ⟨'\\', false⟩]])
  | _ => none

end Home

end Reader

-- What sourcing a file performs when it performs nothing but assignments.
def source (home : List Char → Option (List Char)) (text : String) : Option (List (String × String)) :=
  ((Reader.run home {} text.toList).finish home).bind (fun words => words.mapM Word.assignment)

-- The value a variable gets from the line NAME=text, none when reading the line
-- does anything but that.
def lineValue (home : List Char → Option (List Char)) (name text : String) : Option String :=
  let after := Reader.run home {} (name.toList ++ '=' :: text.toList ++ ['\n'])
  match after.words.mapM Word.assignment with
  | some [assigned] => if (after.mode == .blank || after.mode == .word []) && assigned.1 == name then some assigned.2 else none
  | _ => none

-- Characters the shell gives no meaning to, wherever in a word they stand.
def isInert (c : Char) : Bool := isNameChar c || ['.', '-', '='].contains c

def Reader.rests (reader : Reader) : Bool := reader.mode == .blank || reader.mode == .word []

def body (assigned : String × String) : List Char := assigned.1.toList ++ '=' :: assigned.2.toList

def line (assigned : String × String) : List Char := body assigned ++ ['\n']

structure Proper (assigned : String × String) : Prop where
  named : isName (bare assigned.1.toList) = true
  inert : ∀ c ∈ assigned.2.toList, isInert c = true

section Reading

variable (home : List Char → Option (List Char))

theorem run_append (reader : Reader) (first second : List Char) :
    Reader.run home reader (first ++ second) = Reader.run home (Reader.run home reader first) second := List.foldl_append

theorem inert_plain (c : Char) (inert : isInert c = true) : isBlank c = false ∧ isOperator c = false ∧
    c ∉ ['\n', ';', '\x27', '"', '\\', '$', '#', '~', '\x00', '\x60'] := by
  have known : ∀ d ∈ [' ', '\t', '&', '|', '<', '>', '(', ')', '\x60', '\n', ';', '\x27', '"', '\\', '$', '#', '~', '\x00'],
      isInert d = false := by
    have none : [' ', '\t', '&', '|', '<', '>', '(', ')', '\x60', '\n', ';', '\x27', '"', '\\', '$', '#', '~', '\x00'].all
        (fun d => !isInert d) = true := by decide
    intro d member
    simpa using List.all_eq_true.mp none d member
  have apart : ∀ d, isInert d = false → c ≠ d := by
    rintro d special rfl
    rw [inert] at special
    cases special
  simp only [List.mem_cons, List.not_mem_nil, or_false, forall_eq_or_imp, forall_eq] at known
  simp only [isBlank, isOperator, List.contains_eq_mem, List.mem_cons, List.not_mem_nil, or_false, not_or, Bool.or_eq_false_iff,
    beq_eq_false_iff_ne, decide_eq_false_iff_not]
  grind

theorem plain_inert (reader : Reader) (held : Option Word) (c : Char) (inert : isInert c = true) :
    reader.plain held c = reader.push (held.getD []) ⟨c, false⟩ := by
  obtain ⟨blank, operator, apart⟩ := inert_plain c inert
  simp only [List.mem_cons, List.not_mem_nil, or_false, not_or] at apart
  simp only [Reader.plain, blank, operator, apart, false_and, if_false, Bool.false_eq_true]

theorem run_inert (reader : Reader) (word : Word) (chars : List Char) (inert : ∀ c ∈ chars, isInert c = true) :
    Reader.run home { reader with mode := .word word } chars = { reader with mode := .word (word ++ bare chars) } := by
  induction chars generalizing word with
  | nil => simp [Reader.run, bare]
  | cons c rest ih =>
      have here := inert c List.mem_cons_self
      have solid := (inert_plain c here).2.2
      have stepped : Reader.step home { reader with mode := .word word } c =
        { reader with mode := .word (word ++ [⟨c, false⟩]) } := by
        rw [Reader.step, if_neg (by simp at solid; exact solid.2.2.2.2.2.2.2.2.1)]
        exact plain_inert _ (some word) c here
      rw [Reader.run, List.foldl_cons, stepped, ← Reader.run, ih _ (fun d member => inert d (List.mem_cons_of_mem _ member)),
        List.append_assoc]
      rfl

theorem run_comment (chars : List Char) (oneLine : '\n' ∉ chars) : Reader.run home {} ('#' :: chars ++ ['\n']) = {} := by
  have stays : ∀ chars : List Char, '\n' ∉ chars → Reader.run home { mode := .comment } chars = { mode := .comment } := by
    intro chars
    induction chars with
    | nil => exact fun _ => rfl
    | cons c rest ih =>
        intro plain
        rw [List.mem_cons, not_or] at plain
        have stepped : Reader.step home { mode := .comment } c = { mode := .comment } := by
          simp only [Reader.step, if_neg (Ne.symm plain.1), ite_self]
        rw [Reader.run, List.foldl_cons, stepped]
        exact ih plain.2
  have opened : Reader.step home {} '#' = { mode := .comment } := rfl
  rw [List.cons_append, Reader.run, List.foldl_cons, opened, ← Reader.run, run_append, stays chars oneLine]
  rfl

theorem bare_append (first second : List Char) : bare (first ++ second) = bare first ++ bare second := List.map_append

theorem name_inert (chars : List Char) (named : isName (bare chars) = true) : ∀ c ∈ chars, isNameChar c = true := by
  intro c member
  rw [isName, Bool.and_eq_true, List.all_eq_true] at named
  have piece := named.1 ⟨c, false⟩ (List.mem_map_of_mem member)
  simpa using piece

theorem body_inert (assigned : String × String) (proper : Proper assigned) : ∀ c ∈ body assigned, isInert c = true := by
  intro c member
  rcases List.mem_append.mp member with name | rest
  · rw [isInert, name_inert _ proper.named c name, Bool.true_or]
  · rcases List.mem_cons.mp rest with rfl | value
    · decide
    · exact proper.inert c value

theorem body_cons (assigned : String × String) (proper : Proper assigned) :
    ∃ c rest, body assigned = c :: rest ∧ isNameChar c = true := by
  have named := proper.named
  cases chars : assigned.1.toList with
  | nil =>
      rw [chars] at named
      cases named
  | cons c rest =>
      refine ⟨c, rest ++ '=' :: assigned.2.toList, by rw [body, chars, List.cons_append], ?_⟩
      exact name_inert _ named c (chars ▸ List.mem_cons_self)

theorem assignment_body (assigned : String × String) (proper : Proper assigned) :
    Word.assignment (bare (body assigned)) = some assigned := by
  have unsigned : ∀ piece ∈ bare assigned.1.toList, (piece.char != '=') = true := by
    intro piece member
    obtain ⟨c, inside, rfl⟩ := List.mem_map.mp member
    have name := name_inert _ proper.named c inside
    simp only [bne_iff_ne]
    rintro rfl
    cases name
  have name : (bare (body assigned)).takeWhile (fun piece => piece.char != '=') = bare assigned.1.toList := by
    rw [body, bare_append, List.takeWhile_append_of_pos unsigned]
    exact List.append_nil _
  have value : (bare (body assigned)).dropWhile (fun piece => piece.char != '=') = ⟨'=', false⟩ :: bare assigned.2.toList := by
    rw [body, bare_append, List.dropWhile_append_of_pos unsigned]
    rfl
  have text : ∀ text : String, Word.text (bare text.toList) = text := by
    intro text
    rw [Word.text, bare, List.map_map]
    exact (congrArg String.ofList (List.map_id _)).trans String.ofList_toList
  simp only [Word.assignment, name, value, proper.named, Bool.not_false, Bool.and_self, if_true, text]

theorem assignment_text (word : Word) (assigned : String × String) (found : Word.assignment word = some assigned) :
    word.map Piece.char = body assigned := by
  have split := List.takeWhile_append_dropWhile (p := fun piece : Piece => piece.char != '=') (l := word)
  have first := List.head?_dropWhile_not (fun piece : Piece => piece.char != '=') word
  cases rest : word.dropWhile (fun piece => piece.char != '=') with
  | nil =>
      simp only [Word.assignment, rest] at found
      cases found
  | cons sign value =>
      simp only [rest, List.head?_cons] at first
      have signed : sign.char = '=' := by simpa using first
      simp only [Word.assignment, rest] at found
      split at found
      · cases found
        have whole : word = word.takeWhile (fun piece => piece.char != '=') ++ sign :: value := by rw [← rest, split]
        refine (congrArg (List.map Piece.char) whole).trans ?_
        rw [List.map_append, List.map_cons, signed, body, Word.text, Word.text, String.toList_ofList, String.toList_ofList]
      · cases found

theorem run_body (reader : Reader) (held : Option Word) (mode : reader.mode = held.elim .blank .word) (assigned : String × String)
    (proper : Proper assigned) : Reader.run home reader (line assigned) =
      ⟨.blank, reader.words ++ [held.getD [] ++ bare (body assigned)], false⟩ := by
  obtain ⟨c, rest, shape, named⟩ := body_cons assigned proper
  have inert := body_inert assigned proper
  rw [shape] at inert
  have here := inert c List.mem_cons_self
  have solid := (inert_plain c here).2.2
  have stepped : reader.step home c = { reader with mode := .word (held.getD [] ++ [⟨c, false⟩]) } := by
    rw [Reader.step, if_neg (by simp at solid; exact solid.2.2.2.2.2.2.2.2.1), mode]
    cases held with
    | none => exact plain_inert reader none c here
    | some word => exact plain_inert reader (some word) c here
  have opened : Reader.run home reader (c :: rest) = { reader with mode := .word (held.getD [] ++ bare (c :: rest)) } := by
    rw [Reader.run, List.foldl_cons, stepped, ← Reader.run,
      run_inert home _ _ rest (fun d member => inert d (List.mem_cons_of_mem _ member)), List.append_assoc]
    rfl
  rw [line, run_append, shape, opened]
  rfl

theorem run_lines (reader : Reader) (held : Option Word) (mode : reader.mode = held.elim .blank .word) (first : String × String)
    (rest : List (String × String)) (proper : ∀ assigned ∈ first :: rest, Proper assigned) :
    Reader.run home reader ((first :: rest).flatMap line) = ⟨.blank,
      reader.words ++ (held.getD [] ++ bare (body first)) :: rest.map (fun assigned => bare (body assigned)), false⟩ := by
  induction rest generalizing reader held first with
  | nil =>
      rw [List.flatMap_singleton]
      exact run_body home reader held mode first (proper first List.mem_cons_self)
  | cons next rest ih =>
      rw [List.flatMap_cons, run_append, run_body home reader held mode first (proper first List.mem_cons_self),
        ih _ none rfl next (fun assigned member => proper assigned (List.mem_cons_of_mem _ member))]
      simp

end Reading

section Lost

variable (home : List Char → Option (List Char))

def Mode.lost : Mode → Bool
  | .single _ => true
  | .double _ => true
  | .stuck => true
  | _ => false

theorem lost_step (reader : Reader) (lost : reader.mode.lost = true) (c : Char) (inert : isInert c = true ∨ c = '\n') :
    (reader.step home c).mode.lost = true := by
  have solid : c ≠ '\x27' ∧ c ≠ '"' ∧ c ≠ '\\' ∧ c ≠ '$' ∧ c ≠ '\x60' := by
    rcases inert with plain | rfl
    · have apart := (inert_plain c plain).2.2
      simp only [List.mem_cons, List.not_mem_nil, or_false, not_or] at apart
      grind
    · decide
  cases mode : reader.mode with
  | single word =>
      simp only [Reader.step, mode, if_neg solid.1]
      split <;> simp only [mode, Mode.lost]
  | double word =>
      simp only [Reader.step, mode, Reader.inDouble, if_neg solid.2.1, if_neg solid.2.2.1,
        if_neg solid.2.2.2.1, if_neg solid.2.2.2.2]
      split <;> simp only [mode, Mode.lost]
  | stuck =>
      simp only [Reader.step, mode, ite_self, Mode.lost]
  | _ =>
      rw [mode] at lost
      cases lost

theorem lost_run (reader : Reader) (lost : reader.mode.lost = true) (chars : List Char)
    (inert : ∀ c ∈ chars, isInert c = true ∨ c = '\n') : (Reader.run home reader chars).mode.lost = true := by
  induction chars generalizing reader with
  | nil => exact lost
  | cons c rest ih =>
      exact ih _ (lost_step home reader lost c (inert c List.mem_cons_self))
        (fun d member => inert d (List.mem_cons_of_mem _ member))

theorem lost_finish (reader : Reader) (lost : reader.mode.lost = true) : reader.finish home = none := by
  obtain ⟨mode, words, started⟩ := reader
  cases mode with
  | single word => rfl
  | double word => rfl
  | stuck => rfl
  | _ => cases lost

theorem newline_mode (reader : Reader) : (∃ held : Option Word, (reader.step home '\n').mode = held.elim .blank .word) ∨
    (∃ word inside, (reader.step home '\n').mode = .dollar word inside) ∨ (reader.step home '\n').mode.lost = true := by
  cases mode : reader.mode with
  | blank => exact Or.inl ⟨none, by simp only [Reader.step, mode]; rfl⟩
  | comment => exact Or.inl ⟨none, by simp only [Reader.step, mode]; rfl⟩
  | word word => exact Or.inl ⟨none, by simp only [Reader.step, mode]; rfl⟩
  | tilde before login => exact Or.inl ⟨none, by simp only [Reader.step, mode]; rfl⟩
  | escaped held => exact Or.inl ⟨held, by simp only [Reader.step, mode]; rfl⟩
  | single word => exact Or.inr (Or.inr (by simp only [Reader.step, mode]; rfl))
  | double word => exact Or.inr (Or.inr (by simp only [Reader.step, mode]; rfl))
  | doubleEscaped word => exact Or.inr (Or.inr (by simp only [Reader.step, mode]; rfl))
  | dollar word inside =>
      cases inside with
      | false => exact Or.inl ⟨none, by simp only [Reader.step, mode]; rfl⟩
      | true => exact Or.inr (Or.inr (by simp only [Reader.step, mode]; rfl))
  | dollarEscaped word inside => exact Or.inr (Or.inl ⟨word, inside, by simp only [Reader.step, mode]; rfl⟩)
  | stuck => exact Or.inr (Or.inr (by simp only [Reader.step, mode, ite_self]; rfl))

end Lost

section Source

variable (home : List Char → Option (List Char))

theorem gathered_iff (words : List Word) (found : List (String × String)) :
    words.mapM Word.assignment = some found ↔ words.map Word.assignment = found.map some := by
  induction words generalizing found with
  | nil => cases found <;> simp
  | cons word rest ih =>
      rw [List.mapM_cons, List.map_cons]
      cases Word.assignment word with
      | none => cases found <;> simp
      | some assigned =>
          cases found with
          | nil => cases rest.mapM Word.assignment <;> simp
          | cons head tail =>
              have later := ih tail
              cases gathered : rest.mapM Word.assignment with
              | none =>
                  rw [gathered] at later
                  simpa using fun _ same => by simpa using later.mpr same
              | some others =>
                  rw [gathered] at later
                  simpa using fun _ => later

theorem lost_lines (reader : Reader) (lost : reader.mode.lost = true) (lines : List (String × String))
    (proper : ∀ assigned ∈ lines, Proper assigned) : (Reader.run home reader (lines.flatMap line)).finish home = none := by
  refine lost_finish home _ (lost_run home reader lost _ fun c member => ?_)
  obtain ⟨assigned, known, inside⟩ := List.mem_flatMap.mp member
  rcases List.mem_append.mp inside with spelled | ending
  · exact Or.inl (body_inert assigned (proper assigned known) c spelled)
  · exact Or.inr (List.mem_singleton.mp ending)

theorem dollar_lines (reader : Reader) (word : Word) (inside : Bool) (mode : reader.mode = .dollar word inside)
    (first : String × String) (rest : List (String × String)) (proper : ∀ assigned ∈ first :: rest, Proper assigned) :
    (Reader.run home reader ((first :: rest).flatMap line)).finish home = none := by
  obtain ⟨c, others, shape, named⟩ := body_cons first (proper first List.mem_cons_self)
  have solid := (inert_plain c (by rw [isInert, named, Bool.true_or])).2.2
  simp only [List.mem_cons, List.not_mem_nil, or_false, not_or] at solid
  have stuck : (reader.step home c).mode.lost = true := by
    have opens : expands c = true := by rw [expands, named, Bool.true_or]
    simp only [Reader.step, mode, Reader.afterDollar, opens, solid, if_false, Bool.true_or, if_true, Mode.lost]
  rw [List.flatMap_cons, line, shape, List.cons_append, List.cons_append, Reader.run, List.foldl_cons, ← Reader.run]
  refine lost_finish home _ (lost_run home _ stuck _ fun d member => ?_)
  have known : d ∈ (first :: rest).flatMap line := by
    rw [List.flatMap_cons, line, shape]
    exact List.mem_cons_of_mem _ member
  obtain ⟨assigned, present, within⟩ := List.mem_flatMap.mp known
  rcases List.mem_append.mp within with spelled | ending
  · exact Or.inl (body_inert assigned (proper assigned present) d spelled)
  · exact Or.inr (List.mem_singleton.mp ending)

-- A file that ends in proper lines performs these assignments and some before
-- them exactly when what stands before the lines performs the others and leaves
-- the reader at rest.
theorem source_lines_iff (opening : List Char) (heads : List (String × String)) (first : String × String)
    (rest : List (String × String)) (proper : ∀ assigned ∈ first :: rest, Proper assigned) :
    source home (String.ofList (opening ++ '\n' :: (first :: rest).flatMap line)) = some (heads ++ first :: rest) ↔
      (Reader.run home {} (opening ++ ['\n'])).rests = true ∧
        (Reader.run home {} (opening ++ ['\n'])).words.mapM Word.assignment = some heads := by
  have whole : source home (String.ofList (opening ++ '\n' :: (first :: rest).flatMap line)) =
      ((Reader.run home (Reader.run home {} (opening ++ ['\n'])) ((first :: rest).flatMap line)).finish home).bind
        (fun words => words.mapM Word.assignment) := by
    rw [source, String.toList_ofList, ← run_append, List.append_assoc, List.singleton_append]
  have ended : Reader.run home {} (opening ++ ['\n']) = (Reader.run home {} opening).step home '\n' := by
    rw [run_append]
    rfl
  rw [whole, ended]
  have modes := newline_mode home (Reader.run home {} opening)
  generalize (Reader.run home {} opening).step home '\n' = after at modes
  rcases modes with ⟨held, mode⟩ | ⟨word, inside, mode⟩ | lost
  · rw [run_lines home after held mode first rest proper]
    have rests : after.rests = true ↔ held.getD [] = [] := by
      rw [Reader.rests, mode]
      cases held with
      | none => exact iff_of_true rfl rfl
      | some word => simp
    have tail : rest.map (Word.assignment ∘ fun assigned => bare (body assigned)) = rest.map some :=
      List.map_congr_left fun assigned member => assignment_body assigned (proper assigned (List.mem_cons_of_mem _ member))
    rw [rests, gathered_iff]
    simp only [Reader.finish, Option.bind_some, gathered_iff, List.map_append, List.map_cons, List.map_map, tail]
    constructor
    · intro same
      obtain ⟨front, back⟩ := List.append_inj' same (by simp)
      rw [List.cons.injEq] at back
      have spelled := assignment_text _ _ back.1
      rw [List.map_append, bare, List.map_map] at spelled
      have lengths := congrArg List.length spelled
      rw [List.length_append, List.length_map, List.length_map, Nat.add_eq_right] at lengths
      exact ⟨List.length_eq_zero_iff.mp lengths, front⟩
    · rintro ⟨empty, front⟩
      rw [empty, List.nil_append, assignment_body first (proper first List.mem_cons_self), front]
  · have apart : after.rests = false := by rw [Reader.rests, mode]; rfl
    rw [dollar_lines home after word inside mode first rest proper, apart]
    exact iff_of_false nofun (fun both => Bool.false_ne_true both.1)
  · have apart : after.rests = false := by
      rw [Reader.rests]
      cases mode : after.mode with
      | blank =>
          rw [mode] at lost
          cases lost
      | word word =>
          rw [mode] at lost
          cases lost
      | _ => rfl
    rw [lost_lines home after lost _ proper, apart]
    exact iff_of_false nofun (fun both => Bool.false_ne_true both.1)

theorem line_value_iff (name text value : String) : lineValue home name text = some value ↔
    (Reader.run home {} (name.toList ++ '=' :: text.toList ++ ['\n'])).rests = true ∧
      (Reader.run home {} (name.toList ++ '=' :: text.toList ++ ['\n'])).words.mapM Word.assignment = some [(name, value)] := by
  unfold lineValue
  rw [Reader.rests]
  generalize Reader.run home {} (name.toList ++ '=' :: text.toList ++ ['\n']) = after
  dsimp only
  split
  · rename_i assigned gathered
    rw [gathered]
    by_cases named : (after.mode == .blank || after.mode == .word []) = true ∧ assigned.1 = name
    · rw [if_pos (by rw [named.1, named.2, beq_self_eq_true, Bool.and_self])]
      rw [Option.some.injEq, Option.some.injEq, List.cons.injEq, Prod.ext_iff]
      exact ⟨fun same => ⟨named.1, ⟨named.2, same⟩, rfl⟩, fun both => both.2.1.2⟩
    · rw [if_neg (by simpa using named)]
      refine iff_of_false nofun fun both => named ⟨both.1, ?_⟩
      rw [(List.cons.inj (Option.some.inj both.2)).1]
  · rename_i other
    exact iff_of_false nofun fun both => other _ both.2

theorem line_value_inert (name text : String) (proper : Proper (name, text)) : lineValue home name text = some text := by
  have read := run_body home {} none rfl (name, text) proper
  rw [line, body] at read
  rw [line_value_iff, read]
  refine ⟨rfl, (gathered_iff _ _).mpr ?_⟩
  simp only [Option.getD_none, List.nil_append, List.map_cons, List.map_nil]
  rw [show (Word.assignment (bare (name.toList ++ '=' :: text.toList))) =
    some (name, text) from assignment_body (name, text) proper]

end Source

end Shell
