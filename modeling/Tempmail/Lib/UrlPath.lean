import Mathlib.Data.List.Infix

set_option autoImplicit false

-- Absolute URL paths, and what a server that resolves their dot segments and
-- repeated slashes makes of them.
namespace UrlPath

abbrev Part := List Char

-- The parts after each slash: "/a/b/" has the parts a, b and the empty one.
abbrev Path := List Part

def parse (text : List Char) : Path := (text.splitOn '/').tail

def text (path : Path) : List Char := path.flatMap (fun part => '/' :: part)

def skipped (part : Part) : Bool := part == [] || part == ['.']

def parent : Part := ['.', '.']

def plain (part : Part) : Bool := !skipped part && part != parent

-- None where .. would leave the root.
def walk (kept : Path) : Path → Option Path
  | [] => some kept
  | part :: rest =>
      if skipped part then walk kept rest
      else if part = parent then (if kept = [] then none else walk kept.dropLast rest)
      else walk (kept ++ [part]) rest

def directory (path : Path) : Bool := path.getLast?.any (fun part => !plain part)

def normal (path : Path) : Option Path := (walk [] path).map (fun kept => if directory path then kept ++ [[]] else kept)

def Parted (path : Path) : Prop := ∀ part ∈ path, '/' ∉ part

section Texts

theorem text_append (front back : Path) : text (front ++ back) = text front ++ text back := List.flatMap_append

theorem text_intercalate (first : Part) (rest : Path) : '/' :: ['/'].intercalate (first :: rest) = text (first :: rest) := by
  induction rest generalizing first with
  | nil => simp [text, List.intercalate]
  | cons next rest ih =>
      have later := ih next
      rw [List.intercalate_cons_cons]
      simp only [text, List.flatMap_cons, List.cons_append, List.append_assoc, List.nil_append] at later ⊢
      rw [later]

theorem split_text (chars : List Char) : text (chars.splitOn '/') = '/' :: chars := by
  have whole : ['/'].intercalate (chars.splitOn '/') = chars := List.intercalate_splitOn '/'
  cases split : chars.splitOn '/' with
  | nil => exact absurd split (List.splitOn_ne_nil '/' chars)
  | cons first others => rw [← text_intercalate, ← split, whole]

theorem parse_text (rest : List Char) : text (parse ('/' :: rest)) = '/' :: rest := by
  have parts : parse ('/' :: rest) = rest.splitOn '/' := by
    rw [parse, List.splitOn_cons_eq_if_modifyHead]
    simp
  rw [parts, split_text]

theorem parse_of_text (path : Path) (parted : Parted path) (nonempty : path ≠ []) : parse (text path) = path := by
  cases path with
  | nil => exact absurd rfl nonempty
  | cons first rest =>
      have whole : (['/'].intercalate (first :: rest)).splitOn '/' = first :: rest := List.splitOn_intercalate '/' parted nonempty
      rw [← text_intercalate, parse, List.splitOn_cons_eq_if_modifyHead]
      simpa using whole

theorem split_parted (chars : List Char) : Parted (chars.splitOn '/') := by
  induction chars with
  | nil => simp [Parted]
  | cons c rest ih =>
      intro part member
      rw [List.splitOn_cons_eq_if_modifyHead] at member
      cases split : rest.splitOn '/' with
      | nil => exact absurd split (List.splitOn_ne_nil '/' rest)
      | cons first others =>
          rw [split] at member ih
          by_cases slash : c = '/'
          · simp only [slash, beq_self_eq_true, if_true, List.mem_cons] at member
            rcases member with empty | first_part | other
            · simp [empty]
            · exact ih part (by simp [first_part])
            · exact ih part (by simp [other])
          · simp only [beq_iff_eq, slash, if_false, List.modifyHead_cons, List.mem_cons] at member
            rcases member with grown | other
            · rw [grown, List.mem_cons]
              rintro (here | there)
              · exact slash here.symm
              · exact ih first (by simp) there
            · exact ih part (by simp [other])

theorem parse_parted (chars : List Char) : Parted (parse chars) :=
  fun part member => split_parted chars part (List.mem_of_mem_tail member)

theorem parse_without (c : Char) (chars : List Char) (apart : c ∉ chars) : ∀ part ∈ parse chars, c ∉ part := by
  intro part member inside
  have known : part ∈ chars.splitOn '/' := List.mem_of_mem_tail member
  have there : c ∈ text (chars.splitOn '/') := List.mem_flatMap.mpr ⟨part, known, List.mem_cons_of_mem _ inside⟩
  rw [split_text, List.mem_cons] at there
  rcases there with slash | present
  · rw [slash] at inside
    exact split_parted chars part known inside
  · exact apart present

theorem part_unique (first second : Part) (left right : List Char) (one : '/' ∉ first) (two : '/' ∉ second)
    (same : first ++ '/' :: left = second ++ '/' :: right) : first = second ∧ left = right := by
  induction first generalizing second with
  | nil =>
      cases second with
      | nil => exact ⟨rfl, List.tail_eq_of_cons_eq same⟩
      | cons c more =>
          have head := List.head_eq_of_cons_eq same
          exact absurd (by simp [← head]) two
  | cons c more ih =>
      cases second with
      | nil =>
          have head := List.head_eq_of_cons_eq same
          exact absurd (by simp [head]) one
      | cons d others =>
          have head := List.head_eq_of_cons_eq same
          have tail := List.tail_eq_of_cons_eq same
          obtain ⟨parts, ends⟩ := ih others (fun member => one (List.mem_cons_of_mem _ member))
            (fun member => two (List.mem_cons_of_mem _ member)) tail
          exact ⟨by rw [head, parts], ends⟩

-- A directory's text begins that of a path exactly where the path lies under it.
theorem under_iff (path above : Path) (parted : Parted path) (plainAbove : Parted above) :
    (text above ++ ['/']) <+: text path ↔ ∃ more, more ≠ [] ∧ path = above ++ more := by
  constructor
  · intro begins
    induction above generalizing path with
    | nil =>
        refine ⟨path, ?_, rfl⟩
        rintro rfl
        have short := begins.length_le
        simp [text] at short
    | cons part others ih =>
        cases path with
        | nil =>
            have short := begins.length_le
            simp [text] at short
        | cons first rest =>
            obtain ⟨tail, same⟩ := begins
            have starts : '/' :: (part ++ (text others ++ ['/'] ++ tail)) = '/' :: (first ++ text rest) := by
              simpa [text] using same
            have below := List.tail_eq_of_cons_eq starts
            have slashed : ∃ deeper, text others ++ ['/'] ++ tail = '/' :: deeper := by
              cases others with
              | nil => exact ⟨tail, rfl⟩
              | cons other more => exact ⟨_, rfl⟩
            obtain ⟨deeper, reads⟩ := slashed
            have one : '/' ∉ part := plainAbove part List.mem_cons_self
            have two : '/' ∉ first := parted first List.mem_cons_self
            cases rest with
            | nil =>
                rw [reads] at below
                have inside : '/' ∈ first := by
                  have member : '/' ∈ part ++ '/' :: deeper := by simp
                  rw [below] at member
                  simpa [text] using member
                exact absurd inside two
            | cons next later =>
                have again : part ++ '/' :: deeper = first ++ '/' :: (next ++ text later) := by
                  rw [← reads, below]
                  rfl
                obtain ⟨same_part, ends⟩ := part_unique part first deeper _ one two again
                have lower : (text others ++ ['/']) <+: text (next :: later) := by
                  refine ⟨tail, ?_⟩
                  rw [reads, ends]
                  rfl
                obtain ⟨more, nonempty, split⟩ := ih (next :: later) (fun p member => parted p (List.mem_cons_of_mem _ member))
                  (fun p member => plainAbove p (List.mem_cons_of_mem _ member)) lower
                exact ⟨more, nonempty, by rw [same_part, split, List.cons_append]⟩
  · rintro ⟨more, nonempty, rfl⟩
    rw [text_append]
    cases more with
    | nil => exact absurd rfl nonempty
    | cons first rest => exact ⟨first ++ text rest, by simp [text]⟩

end Texts

section Walks

theorem walk_append (kept front back : Path) :
    walk kept (front ++ back) = (walk kept front).bind (fun middle => walk middle back) := by
  induction front generalizing kept with
  | nil => rfl
  | cons part rest ih =>
      rw [List.cons_append, walk, walk]
      split
      · exact ih kept
      · split
        · split
          · rfl
          · exact ih _
        · exact ih _

theorem walk_plain (kept path : Path) (plainParts : ∀ part ∈ path, plain part = true) : walk kept path = some (kept ++ path) := by
  induction path generalizing kept with
  | nil => rw [walk, List.append_nil]
  | cons part rest ih =>
      have here := plainParts part List.mem_cons_self
      simp only [plain, Bool.and_eq_true, Bool.not_eq_true', bne_iff_ne, ne_eq] at here
      rw [walk, here.1, if_neg Bool.false_ne_true, if_neg here.2,
        ih _ (fun other member => plainParts other (List.mem_cons_of_mem _ member)),
        List.append_assoc, List.singleton_append]

theorem walk_below (above kept path out : Path) (resolved : walk kept path = some out) :
    walk (above ++ kept) path = some (above ++ out) := by
  induction path generalizing kept with
  | nil =>
      rw [walk, Option.some.injEq] at resolved
      rw [walk, resolved]
  | cons part rest ih =>
      rw [walk] at resolved ⊢
      by_cases empty : skipped part = true
      · rw [if_pos empty] at resolved ⊢
        exact ih kept resolved
      · rw [if_neg empty] at resolved ⊢
        by_cases up : part = parent
        · rw [if_pos up] at resolved ⊢
          by_cases root : kept = []
          · rw [if_pos root] at resolved
            cases resolved
          · rw [if_neg root] at resolved
            rw [if_neg (fun all => root (List.append_eq_nil_iff.mp all).2), List.dropLast_append_of_ne_nil root]
            exact ih _ resolved
        · rw [if_neg up] at resolved ⊢
          rw [List.append_assoc]
          exact ih _ resolved

theorem walk_parts (Good : Part → Prop) (kept path out : Path) (first : ∀ part ∈ kept, Good part)
    (later : ∀ part ∈ path, plain part = true → Good part) (resolved : walk kept path = some out) : ∀ part ∈ out, Good part := by
  induction path generalizing kept with
  | nil =>
      rw [walk, Option.some.injEq] at resolved
      rw [← resolved]
      exact first
  | cons part rest ih =>
      have others : ∀ p ∈ rest, plain p = true → Good p := fun p member => later p (List.mem_cons_of_mem _ member)
      rw [walk] at resolved
      by_cases empty : skipped part = true
      · rw [if_pos empty] at resolved
        exact ih kept first others resolved
      · rw [if_neg empty] at resolved
        by_cases up : part = parent
        · rw [if_pos up] at resolved
          by_cases root : kept = []
          · rw [if_pos root] at resolved
            cases resolved
          · rw [if_neg root] at resolved
            exact ih _ (fun p member => first p (List.mem_of_mem_dropLast member)) others resolved
        · rw [if_neg up] at resolved
          refine ih _ ?_ others resolved
          intro p member
          rcases List.mem_append.mp member with old | new
          · exact first p old
          · rw [List.mem_singleton.mp new]
            exact later part List.mem_cons_self (by simp [plain, empty, up])

end Walks

section Normal

theorem directory_append (above path : Path) (nonempty : path ≠ []) : directory (above ++ path) = directory path := by
  rw [directory, directory, List.getLast?_append_of_ne_nil above nonempty]

theorem normal_below (above path out : Path) (plainAbove : ∀ part ∈ above, plain part = true) (nonempty : path ≠ [])
    (resolved : normal path = some out) : normal (above ++ path) = some (above ++ out) := by
  obtain ⟨kept, walked, shaped⟩ := Option.map_eq_some_iff.mp resolved
  have below := walk_below above [] path kept walked
  rw [List.append_nil] at below
  rw [normal, walk_append, walk_plain [] above plainAbove, List.nil_append, Option.bind_some, below, Option.map_some,
    directory_append above path nonempty, ← shaped]
  split <;> simp

theorem normal_skipped (above path out : Path) (part : Part) (plainAbove : ∀ part ∈ above, plain part = true)
    (left_out : skipped part = true) (nonempty : path ≠ []) (resolved : normal path = some out) :
    normal (above ++ part :: path) = some (above ++ out) := by
  have joined := normal_below above path out plainAbove nonempty resolved
  rw [normal, walk_append, walk_plain [] above plainAbove, List.nil_append, Option.bind_some,
    directory_append above path nonempty] at joined
  have ends : directory (part :: path) = directory path := directory_append [part] path nonempty
  rw [normal, walk_append, walk_plain [] above plainAbove, List.nil_append, Option.bind_some, walk, if_pos left_out,
    directory_append above (part :: path) (List.cons_ne_nil part path), ends, joined]

theorem normal_left (above path out : Path) (last : Part) (plainAbove : ∀ part ∈ above ++ [last], plain part = true)
    (nonempty : path ≠ []) (resolved : normal path = some out) :
    normal (above ++ last :: parent :: path) = some (above ++ out) := by
  have lower : ∀ part ∈ above, plain part = true := fun part member => plainAbove part (List.mem_append_left _ member)
  have joined := normal_below above path out lower nonempty resolved
  rw [normal, walk_append, walk_plain [] above lower, List.nil_append, Option.bind_some,
    directory_append above path nonempty] at joined
  have ends : directory (parent :: path) = directory path := directory_append [parent] path nonempty
  have up : skipped parent = false := by decide
  have regrouped : above ++ last :: parent :: path = (above ++ [last]) ++ parent :: path := by simp
  rw [regrouped, normal, walk_append, walk_plain [] (above ++ [last]) plainAbove, List.nil_append, Option.bind_some, walk, up,
    if_neg Bool.false_ne_true, if_pos rfl, if_neg (by simp), List.dropLast_concat,
    directory_append _ (parent :: path) (List.cons_ne_nil parent path), ends, joined]

theorem normal_plain (path : Path) (plainParts : ∀ part ∈ path, plain part = true) : normal path = some path := by
  have file : directory path = false := by
    rw [directory]
    cases last : path.getLast? with
    | none => rfl
    | some part => simp [plainParts part (List.mem_of_getLast? last)]
  rw [normal, walk_plain [] path plainParts, Option.map_some, file, if_neg Bool.false_ne_true, List.nil_append]

theorem normal_parts (path out : Path) (resolved : normal path = some out) :
    ∃ body last, out = body ++ last ∧ (∀ part ∈ body, plain part = true) ∧ (last = [] ∨ last = [[]]) := by
  obtain ⟨kept, walked, shaped⟩ := Option.map_eq_some_iff.mp resolved
  have good := walk_parts (fun part => plain part = true) [] path kept (fun p member => absurd member List.not_mem_nil)
    (fun _ _ whole => whole) walked
  refine ⟨kept, if directory path then [[]] else [], ?_, good, ?_⟩
  · rw [← shaped]
    split <;> simp
  · split
    · exact Or.inr rfl
    · exact Or.inl rfl

theorem normal_without (c : Char) (path out : Path) (apart : ∀ part ∈ path, c ∉ part) (resolved : normal path = some out) :
    ∀ part ∈ out, c ∉ part := by
  obtain ⟨kept, walked, shaped⟩ := Option.map_eq_some_iff.mp resolved
  have good := walk_parts (fun part => c ∉ part) [] path kept (fun p member => absurd member List.not_mem_nil)
    (fun part member _ => apart part member) walked
  rw [← shaped]
  split
  · intro part member
    rcases List.mem_append.mp member with inside | last
    · exact good part inside
    · rw [List.mem_singleton.mp last]
      exact List.not_mem_nil
  · exact good

theorem normal_parted (path out : Path) (parted : Parted path) (resolved : normal path = some out) : Parted out :=
  normal_without '/' path out parted resolved

theorem normal_nonempty (path out : Path) (nonempty : path ≠ []) (resolved : normal path = some out) : out ≠ [] := by
  obtain ⟨kept, walked, shaped⟩ := Option.map_eq_some_iff.mp resolved
  rw [← shaped]
  split
  · simp
  · rename_i file
    obtain ⟨body, last, split⟩ := List.eq_nil_or_concat path |>.resolve_left nonempty
    have whole : plain last = true := by
      by_contra resolvedAway
      exact file (by simp [directory, split, resolvedAway])
    simp only [plain, Bool.and_eq_true, Bool.not_eq_true', bne_iff_ne, ne_eq] at whole
    rw [split, List.concat_eq_append, walk_append] at walked
    obtain ⟨middle, -, ending⟩ := Option.bind_eq_some_iff.mp walked
    rw [walk, whole.1, if_neg Bool.false_ne_true, if_neg whole.2, walk, Option.some.injEq] at ending
    rw [← ending]
    simp

end Normal

end UrlPath
