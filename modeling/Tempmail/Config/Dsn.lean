import Mathlib.Data.List.TakeWhile

set_option autoImplicit false

namespace Tempmail.Config

def userChar (c : Char) : Bool := c != ':' && c != '/' && c != '@'
def passwordChar (c : Char) : Bool := c != '@'

structure Credentials (chars user password after : List Char) : Prop where
  whole : chars = ':' :: '/' :: '/' :: (user ++ ':' :: (password ++ '@' :: after))
  named : user ≠ []
  users : ∀ c ∈ user, userChar c = true
  held : password ≠ []
  passwords : ∀ c ∈ password, passwordChar c = true

-- Its first group and what follows it. Each group ends at the only place it can.
def credentials : List Char → Option (List Char × List Char)
  | ':' :: '/' :: '/' :: rest => match rest.dropWhile userChar with
      | ':' :: more => match more.dropWhile passwordChar with
        | '@' :: after =>
            if rest.takeWhile userChar = [] ∨ more.takeWhile passwordChar = [] then none
            else some (rest.takeWhile userChar, after)
        | _ => none
      | _ => none
  | _ => none

def hiddenUser (user : List Char) : List Char := ':' :: '/' :: '/' :: (user ++ [':', '*', '*', '*', '@'])

-- re.sub with ://\1:***@; the count is what is left of the last match.
def hide : Nat → List Char → List Char
  | _, [] => []
  | count + 1, _ :: rest => hide count rest
  | 0, c :: rest => match credentials (c :: rest) with
      | some (user, after) => hiddenUser user ++ hide (rest.length - after.length) rest
      | none => c :: hide 0 rest

def hidePassword (url : String) : String := String.ofList (hide 0 url.toList)

theorem take_while_stop (keep : Char → Bool) (chars rest : List Char) (stop : Char) (kept : ∀ c ∈ chars, keep c = true)
    (stops : keep stop = false) :
    (chars ++ stop :: rest).takeWhile keep = chars ∧ (chars ++ stop :: rest).dropWhile keep = stop :: rest := by
  rw [List.takeWhile_append_of_pos kept, List.dropWhile_append_of_pos kept]
  simp [stops]

theorem credentials_found (chars user password after : List Char) (fits : Credentials chars user password after) :
    credentials chars = some (user, after) := by
  obtain ⟨rfl, named, users, held, passwords⟩ := fits
  obtain ⟨taken, dropped⟩ := take_while_stop userChar user (password ++ '@' :: after) ':' users rfl
  obtain ⟨takenPassword, droppedPassword⟩ := take_while_stop passwordChar password after '@' passwords rfl
  simp only [credentials, taken, dropped, takenPassword, droppedPassword, named, held, or_self, if_false]

theorem credentials_fit (chars user after : List Char) (found : credentials chars = some (user, after)) :
    ∃ password, Credentials chars user password after := by
  rw [credentials.eq_def] at found
  split at found
  · rename_i rest
    split at found
    · rename_i more stopped
      split at found
      · rename_i left ended
        split at found
        · cases found
        · rename_i both
          rw [not_or] at both
          cases found
          refine ⟨more.takeWhile passwordChar, ?_, both.1, fun c member => List.mem_takeWhile_imp member, both.2,
            fun c member => List.mem_takeWhile_imp member⟩
          rw [← ended, List.takeWhile_append_dropWhile, ← stopped, List.takeWhile_append_dropWhile]
      · cases found
    · cases found
  · cases found

theorem hide_skip (count : Nat) (chars : List Char) : hide count chars = hide 0 (chars.drop count) := by
  induction chars generalizing count with
  | nil => simp [hide]
  | cons c rest ih =>
      cases count with
      | zero => rfl
      | succ count => exact ih count

theorem hide_found (chars user password after : List Char) (fits : Credentials chars user password after) :
    hide 0 chars = hiddenUser user ++ hide 0 after := by
  have found := credentials_found chars user password after fits
  have whole := fits.whole
  cases chars with
  | nil => cases whole
  | cons c rest =>
      have rest_eq := (List.cons.inj whole).2
      rw [hide, found]
      dsimp only
      rw [hide_skip, rest_eq]
      have length : ('/' :: '/' :: (user ++ ':' :: (password ++ '@' :: after))).length - after.length =
          ('/' :: '/' :: (user ++ ':' :: (password ++ ['@']))).length := by
        simp only [List.length_cons, List.length_append, List.length_nil]
        omega
      have cut : '/' :: '/' :: (user ++ ':' :: (password ++ '@' :: after)) =
          '/' :: '/' :: (user ++ ':' :: (password ++ ['@'])) ++ after := by simp
      rw [length, cut, List.drop_left]

theorem hide_plain (c : Char) (rest : List Char) (plain : credentials (c :: rest) = none) :
    hide 0 (c :: rest) = c :: hide 0 rest := by
  rw [hide, plain]

inductive SameShown : List Char → List Char → Prop where
  | done : SameShown [] []
  | shown (c : Char) (left right : List Char) (leftPlain : credentials (c :: left) = none)
      (rightPlain : credentials (c :: right) = none) (rest : SameShown left right) : SameShown (c :: left) (c :: right)
  | hidden (left right user leftPassword rightPassword leftAfter rightAfter : List Char)
      (leftFits : Credentials left user leftPassword leftAfter) (rightFits : Credentials right user rightPassword rightAfter)
      (rest : SameShown leftAfter rightAfter) : SameShown left right

theorem same_shown_hides (left right : List Char) (same : SameShown left right) : hide 0 left = hide 0 right := by
  induction same with
  | done => rfl
  | shown c left right leftPlain rightPlain rest ih => rw [hide_plain c left leftPlain, hide_plain c right rightPlain, ih]
  | hidden left right user leftPassword rightPassword leftAfter rightAfter leftFits rightFits rest ih =>
      rw [hide_found left user leftPassword leftAfter leftFits, hide_found right user rightPassword rightAfter rightFits, ih]

theorem hide_shown (chars rest : List Char) (c : Char) (other : c ≠ ':') (shows : hide 0 chars = c :: rest) :
    ∃ left, chars = c :: left ∧ hide 0 left = rest := by
  cases chars with
  | nil => cases shows
  | cons first left =>
      cases found : credentials (first :: left) with
      | none =>
          rw [hide_plain first left found, List.cons.injEq] at shows
          exact ⟨left, by rw [shows.1], shows.2⟩
      | some pair =>
          rw [hide, found] at shows
          exact absurd (List.cons.inj shows).1.symm other

theorem hide_shown_all (front chars rest : List Char) (plain : ∀ c ∈ front, c ≠ ':') (shows : hide 0 chars = front ++ rest) :
    ∃ left, chars = front ++ left ∧ hide 0 left = rest := by
  induction front generalizing chars with
  | nil => exact ⟨chars, rfl, shows⟩
  | cons c front ih =>
      obtain ⟨left, chars_eq, later⟩ := hide_shown chars (front ++ rest) c (plain c List.mem_cons_self) shows
      obtain ⟨last, left_eq, done⟩ := ih left (fun d member => plain d (List.mem_cons_of_mem _ member)) later
      exact ⟨last, by rw [chars_eq, left_eq, List.cons_append], done⟩

theorem user_plain (c : Char) (user : userChar c = true) : c ≠ ':' := by
  intro colon
  rw [colon] at user
  cases user

-- A text that shows a replacement at its head matched there.
theorem hide_matched (chars user rest : List Char) (named : user ≠ []) (users : ∀ c ∈ user, userChar c = true)
    (shows : hide 0 chars = hiddenUser user ++ rest) : ∃ pair, credentials chars = some pair := by
  cases chars with
  | nil => cases shows
  | cons first left =>
      cases found : credentials (first :: left) with
      | some pair => exact ⟨pair, rfl⟩
      | none =>
          rw [hide_plain first left found, hiddenUser, List.cons_append, List.cons.injEq] at shows
          obtain ⟨first_eq, shows⟩ := shows
          have slashes : ∀ c ∈ '/' :: '/' :: user, c ≠ ':' := by
            intro c member
            rcases List.mem_cons.mp member with same | member
            · rw [same]
              decide
            · rcases List.mem_cons.mp member with same | member
              · rw [same]
                decide
              · exact user_plain c (users c member)
          obtain ⟨middle, left_eq, shows⟩ := hide_shown_all ('/' :: '/' :: user) left _ slashes
            (shows.trans (show _ = '/' :: '/' :: user ++ (':' :: (['*', '*', '*', '@'] ++ rest)) by simp))
          cases middle with
          | nil => cases shows
          | cons colon tail =>
              cases inner : credentials (colon :: tail) with
              | some pair =>
                  rw [hide, inner] at shows
                  exact absurd (List.cons.inj (List.cons.inj shows).2).1 (by decide)
              | none =>
                  rw [hide_plain colon tail inner, List.cons.injEq] at shows
                  obtain ⟨colon_eq, shows⟩ := shows
                  obtain ⟨after, tail_eq, -⟩ := hide_shown_all ['*', '*', '*', '@'] tail rest (by simp) shows
                  have fits : Credentials (first :: left) user ['*', '*', '*'] after := by
                    refine ⟨?_, named, users, by simp, by simp [passwordChar]⟩
                    rw [first_eq, left_eq, colon_eq, tail_eq]
                    simp
                  rw [credentials_found _ _ _ _ fits] at found
                  cases found

theorem hidden_user_same (left right leftRest rightRest : List Char) (leftUsers : ∀ c ∈ left, userChar c = true)
    (rightUsers : ∀ c ∈ right, userChar c = true) (same : hiddenUser left ++ leftRest = hiddenUser right ++ rightRest) :
    left = right ∧ leftRest = rightRest := by
  have shape : ∀ user rest : List Char,
      hiddenUser user ++ rest = ':' :: '/' :: '/' :: (user ++ ':' :: (['*', '*', '*', '@'] ++ rest)) :=
    fun user rest => by simp [hiddenUser]
  rw [shape, shape] at same
  have tails := (List.cons.inj (List.cons.inj (List.cons.inj same).2).2).2
  have left_eq := take_while_stop userChar left (['*', '*', '*', '@'] ++ leftRest) ':' leftUsers rfl
  have right_eq := take_while_stop userChar right (['*', '*', '*', '@'] ++ rightRest) ':' rightUsers rfl
  rw [tails] at left_eq
  have users : left = right := left_eq.1.symm.trans right_eq.1
  have rests := left_eq.2.symm.trans right_eq.2
  exact ⟨users, List.append_cancel_left (List.cons.inj rests).2⟩

theorem hide_empty (chars : List Char) (empty : hide 0 chars = []) : chars = [] := by
  cases chars with
  | nil => rfl
  | cons c rest =>
      rw [hide] at empty
      split at empty <;> cases empty

theorem after_shorter (chars user password after : List Char) (fits : Credentials chars user password after) :
    after.length < chars.length := by
  rw [fits.whole]
  simp only [List.length_cons, List.length_append]
  omega

-- On the length of the left text: a match is passed over in one step.
theorem hides_same_shown (left right : List Char) (same : hide 0 left = hide 0 right) : SameShown left right := by
  induction size : left.length using Nat.strong_induction_on generalizing left right with
  | _ bound ih =>
      subst size
      cases foundLeft : credentials left with
      | some pair =>
          obtain ⟨user, after⟩ := pair
          obtain ⟨password, fits⟩ := credentials_fit left user after foundLeft
          rw [hide_found left user password after fits] at same
          obtain ⟨pair, foundRight⟩ := hide_matched right user (hide 0 after) fits.named fits.users same.symm
          obtain ⟨otherUser, otherAfter⟩ := pair
          obtain ⟨otherPassword, otherFits⟩ := credentials_fit right otherUser otherAfter foundRight
          rw [hide_found right otherUser otherPassword otherAfter otherFits] at same
          obtain ⟨users, rests⟩ := hidden_user_same user otherUser _ _ fits.users otherFits.users same
          subst users
          exact .hidden left right user password otherPassword after otherAfter fits otherFits
            (ih after.length (after_shorter left user password after fits) after otherAfter rests rfl)
      | none =>
          cases left with
          | nil =>
              rw [hide_empty right same.symm]
              exact .done
          | cons c rest =>
              rw [hide_plain c rest foundLeft] at same
              cases foundRight : credentials right with
              | some pair =>
                  obtain ⟨user, after⟩ := pair
                  obtain ⟨password, fits⟩ := credentials_fit right user after foundRight
                  rw [hide_found right user password after fits, ← hide_plain c rest foundLeft] at same
                  obtain ⟨pair, found⟩ := hide_matched (c :: rest) user (hide 0 after) fits.named fits.users same
                  rw [foundLeft] at found
                  cases found
              | none =>
                  cases right with
                  | nil => cases same
                  | cons d others =>
                      rw [hide_plain d others foundRight, List.cons.injEq] at same
                      obtain ⟨rfl, same⟩ := same
                      exact .shown c rest others foundLeft foundRight (ih rest.length (by simp) rest others same rfl)

theorem hide_same_iff (left right : List Char) : hide 0 left = hide 0 right ↔ SameShown left right :=
  ⟨hides_same_shown left right, same_shown_hides left right⟩

end Tempmail.Config
