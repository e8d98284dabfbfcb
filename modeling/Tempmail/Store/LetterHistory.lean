import Tempmail.Store.Refinement

set_option autoImplicit false

namespace Tempmail.Store

namespace PostOffice

section History

variable {IP : Type} (runes : Mx.Runes) (services : Mx.Services IP) (python : Api.Python) (emailStr : String → Bool)
variable (office : PostOffice)

def Delivers (delivery : Delivery) (letter : Letter) : Prop :=
  commits delivery = true ∧ office.addressee runes delivery = some letter.mailbox ∧
    letter = letterOf runes services delivery letter.mailbox ∧ ∀ other ∈ office.letters, other.row.id ≠ delivery.emailId

def Removes (operation : Operation) (letter : Letter) : Prop :=
  office.takes operation letter = true ∨ ∃ row ∈ office.mailboxes, row.id = letter.mailbox ∧
    office.closes python operation row = true

theorem stays_iff (operation : Operation) (letter : Letter) :
    office.stays (office.closes python operation) (office.takes operation) letter = true ↔
      ¬ office.Removes python operation letter := by
  rw [Removes, not_or, stays, Bool.and_eq_true, Bool.not_eq_true', Bool.not_eq_true', ← Bool.not_eq_true, ← Bool.not_eq_true]
  refine and_congr_right fun _ => not_congr ?_
  simp only [List.any_eq_true, List.mem_filter, beq_iff_eq, and_assoc]
  exact exists_congr fun row => and_congr_right fun _ => and_comm

theorem opened_letters (row : Option AddressRow) : (office.opened row).letters = office.letters := by
  cases row with
  | none => rfl
  | some row =>
      rw [opened, Option.elim_some, enrol]
      split <;> rfl

theorem received_none (operation : Operation) (none_arrives : office.arrival runes services operation = none) :
    (office.step runes services python operation).letters =
      office.letters.filter (office.stays (office.closes python operation) (office.takes operation)) := by
  rw [step, none_arrives, received, Option.elim_none, opened_letters]
  rfl

theorem arrival_letters (delivery : Delivery) (letter : Letter) :
    letter ∈ (office.received (office.arrival runes services (.storeEmail delivery))).letters ↔
      office.Delivers runes services delivery letter ∨ letter ∈ office.letters := by
  have absent : office.arrival runes services (.storeEmail delivery) = none → ¬ office.Delivers runes services delivery letter →
      (letter ∈ (office.received (office.arrival runes services (.storeEmail delivery))).letters ↔
        office.Delivers runes services delivery letter ∨ letter ∈ office.letters) := by
    intro none_arrives undelivered
    rw [none_arrives]
    exact ⟨Or.inr, fun either => either.resolve_left undelivered⟩
  by_cases commit : commits delivery = true
  · cases home : office.addressee runes delivery with
    | none =>
        refine absent (by rw [arrival, if_pos commit, home]; rfl) fun delivered => ?_
        rw [delivered.2.1] at home
        cases home
    | some mailbox =>
        obtain ⟨row, found, same⟩ := Option.map_eq_some_iff.mp home
        have arrives : office.arrival runes services (.storeEmail delivery) =
          some (letterOf runes services delivery mailbox) := by
          rw [arrival, if_pos commit, home]
          rfl
        rw [arrives]
        change letter ∈ (office.deliver (letterOf runes services delivery mailbox)).letters ↔ _
        by_cases fresh : ∀ other ∈ office.letters, other.row.id ≠ delivery.emailId
        · have fits : office.Fits (letterOf runes services delivery mailbox) :=
            ⟨fresh, row, List.mem_of_find?_eq_some found, same⟩
          rw [deliver, dif_pos fits, List.mem_append, List.mem_singleton, or_comm]
          refine or_congr_left ⟨fun made => ?_, fun delivered => ?_⟩
          · rw [made]
            exact ⟨commit, home, rfl, fresh⟩
          · have own := delivered.2.1
            rw [home, Option.some.injEq] at own
            rw [own]
            exact delivered.2.2.1
        · have unfit : ¬ office.Fits (letterOf runes services delivery mailbox) := fun fits => fresh fits.1
          rw [deliver, dif_neg unfit]
          exact ⟨Or.inr, fun either => either.resolve_left fun delivered => fresh delivered.2.2.2⟩
  · refine absent (by rw [arrival, if_neg commit]) fun delivered => ?_
    exact commit delivered.1

-- One step: a letter comes with its delivery and goes with an operation that removes it.
theorem step_letters (operation : Operation) (letter : Letter) :
    letter ∈ (office.step runes services python operation).letters ↔
      (∃ delivery, operation = .storeEmail delivery ∧ office.Delivers runes services delivery letter) ∨
        (letter ∈ office.letters ∧ ¬ office.Removes python operation letter) := by
  rw [← stays_iff]
  by_cases delivers : ∃ delivery, operation = .storeEmail delivery
  · obtain ⟨delivery, kind⟩ := delivers
    subst kind
    have idle : office.clear (office.closes python (.storeEmail delivery)) (office.takes (.storeEmail delivery)) = office :=
      clear_idle office _ _ (fun _ _ => rfl) fun _ _ => rfl
    have spared : office.stays (office.closes python (.storeEmail delivery))
      (office.takes (.storeEmail delivery)) letter = true := by
      rw [stays_iff]
      rintro (taken | ⟨row, -, -, closed⟩)
      · cases taken
      · cases closed
    rw [spared, step, idle]
    refine (arrival_letters runes services office delivery letter).trans (or_congr ?_ (by simp))
    constructor
    · exact fun delivered => ⟨delivery, rfl, delivered⟩
    · rintro ⟨other, kind, delivered⟩
      rw [Operation.storeEmail.injEq] at kind
      exact kind ▸ delivered
  · have none_arrives : office.arrival runes services operation = none := by
      cases operation with
      | storeEmail delivery => exact absurd ⟨delivery, rfl⟩ delivers
      | _ => rfl
    rw [received_none runes services python office operation none_arrives, List.mem_filter]
    constructor
    · exact Or.inr
    · rintro (⟨delivery, kind, -⟩ | here)
      · exact absurd ⟨delivery, kind⟩ delivers
      · exact here

def holding : Machine.Holding (offices runes services python) Letter where
  holds office letter := letter ∈ office.letters
  brings office operation letter := ∃ delivery, operation = .storeEmail delivery ∧ office.Delivers runes services delivery letter
  takes office operation letter := office.Removes python operation letter
  step office operation letter := step_letters runes services python office operation letter

structure Stored (db : Db) (letter : Letter) : Prop where
  row : letter.row ∈ db.emails
  link : letter.link ∈ db.recipients
  files : (db.attachments.filter (fun file => file.emailId == letter.row.id)).map AttachmentRow.file = letter.files

theorem letter_files (letter : Letter) (member : letter ∈ office.letters) :
    (office.layout.attachments.filter (fun file => file.emailId == letter.row.id)).map AttachmentRow.file = letter.files := by
  have agree : ∀ other ∈ office.letters, (other.row.id == letter.row.id) = (other == letter) := by
    intro other known
    rw [Bool.eq_iff_iff, beq_iff_eq, beq_iff_eq]
    exact ⟨same_letter office other letter known member, fun same => by rw [same]⟩
  have own := filter_attachments office.letters (fun other => other == letter) (fun emailId => emailId == letter.row.id) agree
  have distinct : office.letters.Nodup := List.Nodup.of_map _ office.letterIds
  have alone : office.letters.filter (fun other => other == letter) = [letter] := by
    rw [List.filter_beq, List.count_eq_one_of_mem distinct member, List.replicate_one]
  rw [layout, own, alone]
  simp [Letter.attachments, List.map_map, Function.comp_def]

theorem stored_iff (letter : Letter) : Stored office.layout letter ↔ letter ∈ office.letters := by
  constructor
  · intro stored
    obtain ⟨other, known, made⟩ := List.mem_map.mp stored.row
    obtain ⟨holder, present, linked⟩ := List.mem_map.mp stored.link
    have sameOther : holder = other := by
      refine same_letter office holder other present known ?_
      rw [made]
      exact congrArg RecipientRow.emailId linked
    have files := stored.files
    rw [← made, letter_files office other known] at files
    rw [sameOther] at linked
    have equal : other = letter := by
      cases other
      cases letter
      simp_all [Letter.link]
    exact equal ▸ known
  · intro member
    exact ⟨List.mem_map_of_mem member, List.mem_map_of_mem member, letter_files office letter member⟩

theorem reached_letters (operations : List Operation) (letter : Letter) :
    letter ∈ ((offices runes services python).final empty operations).letters ↔
      ∃ before delivery after, operations = before ++ .storeEmail delivery :: after ∧
        ((offices runes services python).final empty before).Delivers runes services delivery letter ∧
        ∀ earlier operation later, after = earlier ++ operation :: later →
          ¬ ((offices runes services python).final empty
            (before ++ .storeEmail delivery :: earlier)).Removes python operation letter := by
  refine ((holding runes services python).holds_final_iff empty operations letter).trans ?_
  constructor
  · rintro (⟨here, -⟩ | ⟨before, event, after, split, ⟨delivery, kind, delivered⟩, spared⟩)
    · cases here
    · subst kind
      refine ⟨before, delivery, after, split, delivered, fun earlier operation later later_split => ?_⟩
      have kept := spared earlier operation later later_split
      rwa [← Machine.final_append, List.append_assoc, List.singleton_append] at kept
  · rintro ⟨before, delivery, after, split, delivered, spared⟩
    refine Or.inr ⟨before, .storeEmail delivery, after, split, ⟨delivery, rfl, delivered⟩, ?_⟩
    intro earlier operation later later_split
    rw [← Machine.final_append, List.append_assoc, List.singleton_append]
    exact spared earlier operation later later_split

end History

end PostOffice

open PostOffice in
-- A message is in its mailbox, with the files it came with, exactly when some
-- delivery put it there and nothing since has removed it.
theorem letter_history {IP : Type} (runes : Mx.Runes) (services : Mx.Services IP) (python : Api.Python) (emailStr : String → Bool)
    (operations : List Operation) (genuine : ∀ operation ∈ operations, operation.Genuine) (letter : Letter) :
    Stored ((mailboxes runes services python emailStr).final {} operations) letter ↔
      ∃ before delivery after, operations = before ++ .storeEmail delivery :: after ∧
        ((offices runes services python).final empty before).Delivers runes services delivery letter ∧
        ∀ earlier operation later, after = earlier ++ operation :: later →
          ¬ ((offices runes services python).final empty
            (before ++ .storeEmail delivery :: earlier)).Removes python operation letter := by
  rw [← empty_layout, run_layout runes services python emailStr empty operations genuine, stored_iff]
  exact reached_letters runes services python operations letter

open PostOffice in
theorem greeting_delivered : Stored
    ((mailboxes Mx.asciiRunes Mx.quietServices Api.asciiPython Api.plainEmailStr).final {} (aliceMade ++ [.storeEmail greeting]))
    (letterOf Mx.asciiRunes Mx.quietServices greeting 1) := by
  have genuine : ∀ operation ∈ aliceMade ++ [.storeEmail greeting], operation.Genuine := by
    intro operation member
    simp only [aliceMade, List.cons_append, List.nil_append, List.mem_cons, List.not_mem_nil, or_false] at member
    rcases member with made | stored
    · rw [made]
      exact trivial
    · rw [stored]
      exact trivial
  refine (letter_history Mx.asciiRunes Mx.quietServices Api.asciiPython Api.plainEmailStr _ genuine _).mpr
    ⟨aliceMade, greeting, [], rfl, ⟨rfl, ?_, rfl, ?_⟩, ?_⟩
  · rfl
  · decide
  · intro earlier operation later split
    exact absurd split (by simp)

end Tempmail.Store
