import Tempmail.Api.Creation

set_option autoImplicit false

namespace Tempmail.Api

structure PlainUsername (username : String) : Prop where
  chars : ∀ c ∈ username.toList, isUsernameChar c = true
  noUpper : ∀ c ∈ username.toList, c.isUpper = false

theorem username_char_code (c : Char) (allowed : isUsernameChar c = true) : 45 ≤ c.toNat ∧ c.toNat ≤ 122 ∧ c.toNat ≠ 64 := by
  simp only [isUsernameChar, isAlnum, Bool.or_eq_true, Text.letter_iff, Text.digit_iff, beq_iff_eq] at allowed
  rcases allowed with (((letter | digit) | dot) | underscore) | hyphen
  · omega
  · omega
  · subst dot
    decide
  · subst underscore
    decide
  · subst hyphen
    decide

theorem username_char_plain (c : Char) (allowed : isUsernameChar c = true) :
    c.toNat < 128 ∧ isBlank c = false ∧ c ≠ '@' := by
  have code := username_char_code c allowed
  refine ⟨by omega, ?_, ?_⟩
  · simp only [isBlank, Bool.or_eq_false_iff, Bool.and_eq_false_iff, decide_eq_false_iff_not, beq_eq_false_iff_ne]
    omega
  · intro same
    subst same
    exact absurd allowed (by decide)

theorem lower_username_char (c : Char) (allowed : isUsernameChar c = true) : isUsernameChar c.toLower = true := by
  by_cases upper : c.isUpper = true
  · simp [isUsernameChar, isAlnum, Text.lower_letter c upper]
  · rwa [Text.lower_same c upper]

theorem match_line_solid (whole : List Char → Bool) (text : String) (last : text.toList.getLast? ≠ some '\n') :
    matchLine whole text = whole text.toList := by
  simp [matchLine, last]

theorem match_line_stripped (text : String) (matched : matchLine usernamePattern text = true)
    (last : text.toList.getLast? ≠ some '\n') : ∀ c ∈ text.toList, isUsernameChar c = true := by
  rw [match_line_solid usernamePattern text last] at matched
  simp only [usernamePattern, Bool.and_eq_true, List.all_eq_true] at matched
  exact matched.2

theorem strip_last (text : String) : (strip text).toList.getLast? ≠ some '\n' := by
  intro last
  exact absurd (Text.trim_last isBlank text '\n' last) (by decide)

theorem lower_stripped_last (python : Python) (text : String) : (python.lower (strip text)).toList.getLast? ≠ some '\n' :=
  fun newline => strip_last text (python.newline _ newline)

section Shape

variable (python : Python)

theorem python_lower_plain (username : String) (chars : ∀ c ∈ username.toList, isUsernameChar c = true) :
    PlainUsername (python.lower username) := by
  have ascii := python.ascii username (fun c member => (username_char_plain c (chars c member)).1)
  constructor
  · intro c member
    rw [ascii, Text.map_chars_list] at member
    obtain ⟨original, known, same⟩ := List.mem_map.mp member
    exact same ▸ lower_username_char original (chars original known)
  · exact python.noUpper username

theorem python_lower_same (username : String) (plain : PlainUsername username) : python.lower username = username := by
  rw [python.ascii username (fun c member => (username_char_plain c (plain.chars c member)).1)]
  apply Text.map_chars_id
  intro c member
  exact Text.lower_same c (by simp [plain.noUpper c member])

theorem strip_same (username : String) (plain : PlainUsername username) : strip username = username :=
  Text.trim_solid isBlank username (fun c member => (username_char_plain c (plain.chars c member)).2.1)

theorem validated_username (settings : CreationSettings) (body request : AddressCreate) (username : String)
    (valid : body.validate python settings = .ok request) (named : request.username = some username) :
    PlainUsername username := by
  unfold AddressCreate.validate at valid
  cases checked : AddressCreate.validateUsername python settings body.username with
  | error message => simp [checked] at valid
  | ok found =>
      cases located : validateDomainFormat python body.domain with
      | error message => simp [checked, located] at valid
      | ok domain =>
          simp only [checked, located, Except.ok.injEq] at valid
          subst valid
          dsimp only at named
          subst named
          cases given : body.username with
          | none => simp [given, AddressCreate.validateUsername] at checked
          | some v =>
              simp only [given, AddressCreate.validateUsername] at checked
              split at checked
              · cases checked
              · split at checked
                · cases checked
                · split at checked
                  · rename_i matched
                    cases checked
                    exact python_lower_plain python (strip v) (match_line_stripped (strip v) matched (strip_last v))
                  · cases checked

theorem validated_permanent (body request : PermanentAddressCreate)
    (valid : PermanentAddressCreate.validate python body = .ok request) : PlainUsername request.username := by
  unfold PermanentAddressCreate.validate at valid
  cases checked : PermanentAddressCreate.validateUsername python body.username with
  | error message => simp [checked] at valid
  | ok found =>
      cases located : validateDomainFormat python body.domain with
      | error message => simp [checked, located] at valid
      | ok domain =>
          simp only [checked, located, Except.ok.injEq] at valid
          subst valid
          simp only [PermanentAddressCreate.validateUsername] at checked
          split at checked
          · cases checked
          · split at checked
            · cases checked
            · split at checked
              · rename_i matched
                cases checked
                exact ⟨match_line_stripped _ matched (lower_stripped_last python body.username), python.noUpper _⟩
              · cases checked

theorem random_plain (text : String) (drawn : isLocalPart text = true) : PlainUsername text := by
  simp only [isLocalPart, Bool.and_eq_true, List.all_eq_true, Bool.or_eq_true] at drawn
  constructor
  · intro c member
    rcases drawn.2 c member with lower | digit
    · simp [isUsernameChar, isAlnum, Text.alpha_cases, lower]
    · simp [isUsernameChar, isAlnum, digit]
  · intro c member
    by_contra upper
    have bounds := (Text.upper_iff c).mp (by simpa using upper)
    rcases drawn.2 c member with lower | digit
    · have above := (Text.lower_iff c).mp lower
      omega
    · have low := (Text.digit_iff c).mp digit
      omega

theorem prepared_email (settings : CreationSettings) (db : Store.Db) (draws : Draws)
    (dependencies : Except HTTPException Unit) (route : CreationRoute) (creation : Creation)
    (prepared : route.prepare python settings dependencies db draws = .ok creation) :
    ∃ username domain, creation.email = username ++ "@" ++ domain ∧ PlainUsername username ∧ domain ∈ settings.domains := by
  rcases prepare_cases python settings db draws dependencies route creation prepared with
    ⟨body, request, -, valid, checked⟩ | ⟨body, request, valid, checked⟩
  · obtain ⟨-, -, -, domain, located, shape⟩ := prepare_address_spec python settings db draws request creation checked
    have listed := address_domain_listed settings request.domain domain located
    rcases shape with ⟨index, email⟩ | ⟨username, named, email⟩
    · exact ⟨_, domain, email, random_plain _ (draws.drawn index), listed⟩
    · exact ⟨username, domain, email, validated_username python settings body request username valid named, listed⟩
  · obtain ⟨-, -, -, domain, located, email⟩ := prepare_permanent_spec python settings db draws request creation checked
    have plain := validated_permanent python body request valid
    rw [strip_same _ plain, python_lower_same python _ plain] at email
    exact ⟨request.username, domain, email, plain, permanent_domain_listed settings request.domain domain located⟩

end Shape

end Tempmail.Api
