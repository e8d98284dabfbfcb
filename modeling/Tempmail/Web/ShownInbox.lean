import Tempmail.Web.HomeSteps

set_option autoImplicit false

namespace Tempmail.Web.Home

open Store (Uuid)
open Api (EmailSummary EmailListResponse)

abbrev History := List (Machine.Moment HomePage Event (List Effect))

def returned (token : String) (moment : Machine.Moment HomePage Event (List Effect)) : Option (List EmailSummary) :=
  match moment.event with
  | .answered id (.emails (.ok data)) _ =>
      match moment.before.flight.find id with
      | some (.listEmails _ asked _ _) => if asked = token then some data.emails else none
      | _ => none
  | _ => none

def Returned (past : History) (token : String) (emails : List EmailSummary) : Prop :=
  ∃ moment ∈ past, returned token moment = some emails

inductive Edited (source : List EmailSummary) : List EmailSummary → Prop where
  | returned : Edited source source
  | read (emailId : Uuid) (emails : List EmailSummary) (edited : Edited source emails) :
      Edited source (HomePage.markRead emailId emails)
  | deleted (emailId : Uuid) (emails : List EmailSummary) (edited : Edited source emails) :
      Edited source (HomePage.without emailId emails)

def Belongs (past : History) (address : Option AddressResponse) (emails : List EmailSummary) : Prop :=
  emails = [] ∨ ∃ shown source, address = some shown ∧ Returned past shown.token source ∧ Edited source emails

-- The token a request was made for is that of the address shown, or its answer
-- leaves the list empty.
def Fits (page : HomePage) (token : String) (emails : List EmailSummary) : Prop :=
  page.render.address.map AddressResponse.token = some token ∨ emails = []

-- The list an answer writes, and the token its request was made for.
def writes (page : HomePage) : Event → Option (String × List EmailSummary)
  | .answered id (.emails (.ok data)) _ =>
      match page.flight.find id with
      | some (.listEmails _ token _ _) => some (token, data.emails)
      | _ => none
  | .answered id (.email (.ok _)) _ =>
      match page.flight.find id with
      | some (.getEmail render token emailId) => some (token, HomePage.markRead emailId render.emails)
      | _ => none
  | .answered id (.deleted (.ok ())) _ =>
      match page.flight.find id with
      | some (.deleteEmail render token emailId) => some (token, HomePage.without emailId render.emails)
      | _ => none
  | _ => none

def Clear (page : HomePage) (event : Event) : Prop := ∀ written ∈ writes page event, Fits page written.1 written.2

instance (page : HomePage) (token : String) (emails : List EmailSummary) : Decidable (Fits page token emails) :=
  inferInstanceAs (Decidable (_ ∨ _))

instance (page : HomePage) (event : Event) : Decidable (Clear page event) :=
  inferInstanceAs (Decidable (∀ written ∈ writes page event, Fits page written.1 written.2))

-- Before initInbox nothing else is under way and nothing is shown.
def Untouched (page : HomePage) (id : Nat) : Prop :=
  page.render.address = none ∧ page.interval = none ∧ page.showNewEmailDialog = false ∧
    ∀ other call, page.flight.find other = some call → other = id

def Rendered (past : History) : Call → Prop
  | .getEmail render token _ => render.address.map AddressResponse.token = some token ∧ Belongs past render.address render.emails
  | .deleteEmail render token _ => render.address.map AddressResponse.token = some token ∧
    Belongs past render.address render.emails
  | _ => True

structure Inv (past : History) (page : HomePage) : Prop where
  shown : Belongs past page.render.address page.render.emails
  rendered : ∀ id call, page.flight.find id = some call → Rendered past call
  untouched : ∀ id render, page.flight.find id = some (.getSetupStatus render) → Untouched page id

section Renders

variable (page : HomePage) (render : Render)

theorem fetch_render (token : String) (silent : Bool) : (page.fetchEmails render token silent).render = page.render := by
  cases silent <;> rfl

theorem expired_render : (page.handleExpiredAddress render).render = page.render := by
  rw [HomePage.handleExpiredAddress]
  split <;> rfl

theorem info_render (asker : Asker) (answer : Answer AddressInfo) :
    (page.infoAnswered render asker answer).render = page.render := by
  rw [HomePage.infoAnswered]
  split
  · split
    · exact finish_render page asker
    · exact expired_render page render
  · exact finish_render page asker

theorem interval_render (now : Int) : (page.intervalPassed now).render = page.render := by
  rw [HomePage.intervalPassed]
  split
  · rfl
  · split
    · rfl
    · split
      · exact expired_render page _
      · exact fetch_render page _ _ _

theorem acted_shown (event : Event) : (page.acted event).render.address = page.render.address ∧
    (page.acted event).render.emails = page.render.emails := by
  unfold HomePage.acted
  split
  · split
    · exact ⟨rfl, rfl⟩
    · split <;> exact ⟨rfl, rfl⟩
  · split <;> exact ⟨rfl, rfl⟩
  · split <;> exact ⟨rfl, rfl⟩
  · split <;> exact ⟨rfl, rfl⟩
  · split <;> exact ⟨rfl, rfl⟩
  · split <;> exact ⟨rfl, rfl⟩
  · split <;> exact ⟨rfl, rfl⟩
  · split <;> exact ⟨rfl, rfl⟩
  · split
    · rw [HomePage.handleEmailClick]
      split <;> exact ⟨rfl, rfl⟩
    · exact ⟨rfl, rfl⟩
  · split
    · exact ⟨rfl, rfl⟩
    · rw [HomePage.handleDeleteEmail]
      split
      · exact ⟨rfl, rfl⟩
      · split <;> exact ⟨rfl, rfl⟩
  · exact ⟨rfl, rfl⟩

theorem init_emails (now : Int) : (page.initInbox render now).render.emails = page.render.emails := by
  rw [HomePage.initInbox]
  split
  · split <;> rfl
  · rfl

theorem setup_emails (answer : Answer SetupStatus) (now : Int) :
    (page.setupStatusAnswered render answer now).1.render.emails = page.render.emails := by
  rw [HomePage.setupStatusAnswered]
  split
  · split
    · exact init_emails page render now
    · rfl
  · exact init_emails page render now

end Renders

section Histories

variable (past later : History)

theorem returned_later (token : String) (emails : List EmailSummary) (returned : Returned past token emails) :
    Returned (past ++ later) token emails := by
  obtain ⟨moment, member, answered⟩ := returned
  exact ⟨moment, List.mem_append_left _ member, answered⟩

theorem belongs_later (address : Option AddressResponse) (emails : List EmailSummary) (belongs : Belongs past address emails) :
    Belongs (past ++ later) address emails := by
  rcases belongs with nothing | ⟨shown, source, given, returned, edited⟩
  · exact Or.inl nothing
  · exact Or.inr ⟨shown, source, given, returned_later past later _ _ returned, edited⟩

theorem rendered_later (call : Call) (rendered : Rendered past call) : Rendered (past ++ later) call := by
  cases call with
  | getEmail render token emailId => exact ⟨rendered.1, belongs_later past later _ _ rendered.2⟩
  | deleteEmail render token emailId => exact ⟨rendered.1, belongs_later past later _ _ rendered.2⟩
  | _ => trivial

theorem untouched_still (page : HomePage) (event : Event) (id : Nat) (untouched : Untouched page id) (here : event ≠ .reload)
    (other : ∀ reply now, event ≠ .answered id reply now) : page.step event = (page, []) := by
  obtain ⟨nowhere, idle, closed, alone⟩ := untouched
  cases event with
  | answered asked reply now =>
      cases found : page.flight.find asked with
      | none => simp [HomePage.step, found]
      | some call =>
          rw [alone asked call found] at other
          exact absurd rfl (other reply now)
  | interval now => simp [HomePage.step, HomePage.intervalPassed, idle]
  | reload => exact absurd rfl here
  | clickEmail emailId => simp [HomePage.step, HomePage.acted, HomePage.handleEmailClick, nowhere]
  | clickDelete confirmed =>
      cases selected : page.render.selectedEmail <;>
        simp [HomePage.step, HomePage.acted, HomePage.handleDeleteEmail, nowhere, selected]
  | _ => simp [HomePage.step, HomePage.acted, nowhere, closed]

theorem edited_belongs (page : HomePage) (render : Render) (token : String) (edit : List EmailSummary → List EmailSummary)
    (made : render.address.map AddressResponse.token = some token) (belongs : Belongs past render.address render.emails)
    (empty : edit [] = []) (edits : ∀ source, Edited source render.emails → Edited source (edit render.emails))
    (shown : page.render.address.map AddressResponse.token = some token) :
    Belongs past page.render.address (edit render.emails) := by
  rcases belongs with nothing | ⟨address, source, given, returned, edited⟩
  · rw [nothing, empty]
    exact Or.inl rfl
  · obtain ⟨current, here, same⟩ := Option.map_eq_some_iff.mp shown
    rw [given, Option.map_some, Option.some.injEq] at made
    refine Or.inr ⟨current, source, here, ?_, edits source edited⟩
    rw [same, ← made]
    exact returned

section Handlers

variable (page : HomePage) (render : Render) (token : String) (emailId : Uuid)

theorem emails_shown (silent : Bool) (answer : Answer EmailListResponse)
    (before : Belongs past page.render.address page.render.emails)
    (came : ∀ data, answer = .ok data → Belongs past page.render.address data.emails) :
    Belongs past (page.emailsAnswered render token silent answer).render.address
      (page.emailsAnswered render token silent answer).render.emails := by
  rw [HomePage.emailsAnswered]
  split
  · rename_i data answered
    rw [finish_render]
    exact came data ((call_ok_iff _ _ _ _).mp answered)
  · split
    · exact before
    · rw [finish_render]
      exact before

theorem email_shown (answer : Answer Api.EmailDetail) (before : Belongs past page.render.address page.render.emails)
    (came : ∀ detail, answer = .ok detail → Belongs past page.render.address (HomePage.markRead emailId render.emails)) :
    Belongs past (page.emailAnswered render token emailId answer).1.render.address
      (page.emailAnswered render token emailId answer).1.render.emails := by
  rw [HomePage.emailAnswered]
  split
  · rename_i detail answered
    exact came detail ((call_ok_iff _ _ _ _).mp answered)
  · split <;> exact before

theorem deleted_shown (answer : Answer Unit) (before : Belongs past page.render.address page.render.emails)
    (came : answer = .ok () → Belongs past page.render.address (HomePage.without emailId render.emails)) :
    Belongs past (page.deletedAnswered render token emailId answer).1.render.address
      (page.deletedAnswered render token emailId answer).1.render.emails := by
  rw [HomePage.deletedAnswered]
  split
  · rename_i answered
    have belongs := came ((call_ok_iff _ _ _ _).mp answered)
    dsimp only
    split <;> exact belongs
  · split <;> exact before

end Handlers

theorem answered_shown (page : HomePage) (id : Nat) (call : Call) (reply : Reply) (now : Int) (inv : Inv past page)
    (found : page.flight.find id = some call) (clear : Clear page (.answered id reply now)) :
    Belongs (past ++ [⟨page, .answered id reply now, (page.step (.answered id reply now)).2⟩])
      (page.answered id call reply now).1.render.address (page.answered id call reply now).1.render.emails := by
  have before := belongs_later past [⟨page, .answered id reply now, (page.step (.answered id reply now)).2⟩] _ _ inv.shown
  have rendered := rendered_later past [⟨page, .answered id reply now, (page.step (.answered id reply now)).2⟩] call
    (inv.rendered id call found)
  unfold HomePage.answered
  dsimp only
  split
  · rename_i render answer
    have nowhere := (inv.untouched id render found).1
    rw [setup_emails]
    rw [nowhere] at before
    rcases before with nothing | ⟨_, _, given, _⟩
    · exact Or.inl nothing
    · exact absurd given.symm (Option.some_ne_none _)
  · rw [HomePage.domainsAnswered]
    split <;> exact before
  · rw [HomePage.addressAnswered]
    split
    · exact Or.inl rfl
    · exact before
  · rename_i render token search silent answer
    refine emails_shown _ { page with flight := page.flight.close id } render token silent answer before (fun data ok => ?_)
    subst ok
    rcases clear (token, data.emails) (by simp [writes, found]) with shown | nothing
    · obtain ⟨current, here, same⟩ := Option.map_eq_some_iff.mp shown
      refine Or.inr ⟨current, data.emails, here, ⟨_, List.mem_append_right _ List.mem_cons_self, ?_⟩, Edited.returned⟩
      simp [returned, found, same]
    · exact Or.inl nothing
  · rename_i render token emailId answer
    refine email_shown _ { page with flight := page.flight.close id } render token emailId answer before (fun detail ok => ?_)
    subst ok
    rcases clear (token, HomePage.markRead emailId render.emails) (by simp [writes, found]) with shown | nothing
    · exact edited_belongs _ page render token (HomePage.markRead emailId) rendered.1 rendered.2 rfl
        (fun source edited => Edited.read emailId _ edited) shown
    · exact Or.inl nothing
  · rename_i render token emailId answer
    refine deleted_shown _ { page with flight := page.flight.close id } render token emailId answer before (fun ok => ?_)
    subst ok
    rcases clear (token, HomePage.without emailId render.emails) (by simp [writes, found]) with shown | nothing
    · exact edited_belongs _ page render token (HomePage.without emailId) rendered.1 rendered.2 rfl
        (fun source edited => Edited.deleted emailId _ edited) shown
    · exact Or.inl nothing
  · rw [info_render]
    exact before
  · exact before

theorem inv_mounted (saved : Option (Stored AddressResponse)) : Inv past (HomePage.mounted saved) := by
  have only : ∀ id call, (HomePage.mounted saved).flight.find id = some call → id = 0 ∧ call = .getSetupStatus .initial := by
    intro id call found
    rw [HomePage.mounted, Flight.find_send] at found
    split at found
    · rename_i same
      cases found
      exact ⟨same, rfl⟩
    · cases found
  refine ⟨Or.inl rfl, fun id call found => ?_, fun id render found => ⟨rfl, rfl, rfl, fun other call also => ?_⟩⟩
  · rw [(only id call found).2]
    trivial
  · rw [(only other call also).1, (only id _ found).1]

theorem step_shown (page : HomePage) (event : Event) (here : event ≠ .reload) (clear : Clear page event) (inv : Inv past page) :
    Belongs (past ++ [⟨page, event, (page.step event).2⟩]) (page.step event).1.render.address
      (page.step event).1.render.emails := by
  have before := belongs_later past [⟨page, event, (page.step event).2⟩] _ _ inv.shown
  cases event with
  | answered id reply now =>
      cases found : page.flight.find id with
      | none =>
          have same : page.step (.answered id reply now) = (page, []) := by simp [HomePage.step, found]
          rw [same] at before ⊢
          exact before
      | some call =>
          have shown := answered_shown past page id call reply now inv found clear
          have step_eq : page.step (.answered id reply now) = page.answered id call reply now := by simp [HomePage.step, found]
          rw [step_eq] at shown ⊢
          exact shown
  | interval now =>
      rw [show (page.step (.interval now)).1 = page.intervalPassed now from rfl, interval_render]
      exact before
  | reload => exact absurd rfl here
  | _ =>
      simp only [HomePage.step, acted_shown]
      exact before

theorem step_rendered (page : HomePage) (event : Event) (here : event ≠ .reload) (inv : Inv past page) (id : Nat) (call : Call)
    (found : (page.step event).1.flight.find id = some call) : Rendered past call := by
  rcases step_found page event id call here found with earlier | sent
  · exact inv.rendered id call earlier
  · cases call with
    | getEmail render token emailId =>
        obtain ⟨rfl, made⟩ := sent
        exact ⟨made, inv.shown⟩
    | deleteEmail render token emailId =>
        obtain ⟨rfl, made⟩ := sent
        exact ⟨made, inv.shown⟩
    | _ => trivial

theorem step_untouched (page : HomePage) (event : Event) (here : event ≠ .reload) (inv : Inv past page) (id : Nat)
    (render : Render) (found : (page.step event).1.flight.find id = some (.getSetupStatus render)) :
    Untouched (page.step event).1 id := by
  have earlier : page.flight.find id = some (.getSetupStatus render) :=
    (step_found page event id _ here found).resolve_right (fun sent => sent)
  have untouched := inv.untouched id render earlier
  by_cases answer : ∃ reply now, event = .answered id reply now
  · obtain ⟨reply, now, rfl⟩ := answer
    have step_eq : page.step (.answered id reply now) = page.answered id (.getSetupStatus render) reply now := by
      simp [HomePage.step, earlier]
    rw [step_eq] at found ⊢
    cases reply with
    | setupStatus status =>
        obtain ⟨calls, flight_eq, sent⟩ := setup_sends { page with flight := page.flight.close id } page.render render
          (fun _ _ _ => False) status now
        have closed : (page.flight.close id).find id = none := by rw [Flight.find_close, if_pos rfl]
        rw [show (page.answered id (.getSetupStatus render) (.setupStatus status) now).1.flight = _ from flight_eq] at found
        rcases Flight.sent_adds _ calls id _ found with still | again
        · rw [closed] at still
          cases still
        · exact (sent _ again).elim
    | _ => exact untouched
  · rw [untouched_still page event id untouched here (fun reply now same => answer ⟨reply, now, same⟩)]
    exact untouched

theorem inv_step (page : HomePage) (event : Event) (clear : Clear page event) (inv : Inv past page) :
    Inv (past ++ [⟨page, event, (page.step event).2⟩]) (page.step event).1 := by
  by_cases here : event = .reload
  · subst here
    exact inv_mounted _ page.saved
  · exact ⟨step_shown past page event here clear inv,
      fun id call found => rendered_later past _ call (step_rendered past page event here inv id call found),
      step_untouched past page event here inv⟩

end Histories

-- The inbox shown is empty or came for the token of the address shown, in every
-- state of a run in which what writes the list is for that token.
theorem inbox_belongs (saved : Option (Stored AddressResponse)) (events : List Event)
    (clear : ∀ moment ∈ machine.trace (HomePage.mounted saved) events, Clear moment.before moment.event)
    (earlier later : List Event) (split : events = earlier ++ later) :
    Belongs (machine.trace (HomePage.mounted saved) earlier)
      (machine.final (HomePage.mounted saved) earlier).render.address
      (machine.final (HomePage.mounted saved) earlier).render.emails := by
  have during : ∀ moment ∈ machine.trace (HomePage.mounted saved) earlier, Clear moment.before moment.event := by
    intro moment member
    apply clear moment
    rw [split]
    exact Machine.trace_prefix machine _ earlier later moment member
  exact (Machine.invariant_history machine Inv Clear inv_step [] _ earlier during (inv_mounted [] saved)).shown

section Late

def oldAddress : AddressResponse := ⟨1, "old@mail.example", "a1", 0, 86400000⟩
def newAddress : AddressResponse := ⟨2, "new@mail.example", "b2", 0, 86400000⟩
def oldMail : EmailSummary := ⟨7, "Your code", "shop@store.example", "old@mail.example", 0, false, false, 300⟩

-- The timer asks for the old address's list, the user takes a new address, and
-- the old list comes last.
def lateList : List Event :=
  [.answered 0 (.setupStatus (.ok ⟨true⟩)) 5, .answered 1 (.emails (.ok ⟨[], 0, 1, 50, false, false⟩)) 6, .interval 15000,
    .showDialog true, .generate, .answered 4 (.address (.ok newAddress)) 15020,
    .answered 3 (.emails (.ok ⟨[oldMail], 1, 1, 50, false, false⟩)) 15030]

theorem late_list_shown :
    ¬ ∀ (saved : Option (Stored AddressResponse)) (events : List Event),
      Belongs (machine.trace (HomePage.mounted saved) events) (machine.final (HomePage.mounted saved) events).render.address
        (machine.final (HomePage.mounted saved) events).render.emails := by
  intro belongs
  have listed : (machine.final (HomePage.mounted (some (.value oldAddress))) lateList).render.emails ≠ [] := by decide +kernel
  have current : (machine.final (HomePage.mounted (some (.value oldAddress))) lateList).render.address = some newAddress := by
    decide +kernel
  have never : ∀ moment ∈ machine.trace (HomePage.mounted (some (.value oldAddress))) lateList,
    returned newAddress.token moment = none := by
    decide +kernel
  rcases belongs (some (.value oldAddress)) lateList with nothing | ⟨shown, source, given, came, _⟩
  · exact listed nothing
  · rw [current, Option.some.injEq] at given
    obtain ⟨moment, member, answered⟩ := came
    rw [← given, never moment member] at answered
    exact Option.some_ne_none _ answered.symm

def promptList : List Event :=
  [.answered 0 (.setupStatus (.ok ⟨true⟩)) 5, .answered 1 (.emails (.ok ⟨[oldMail], 1, 1, 50, false, false⟩)) 6]

theorem prompt_list_shown :
    (∀ moment ∈ machine.trace (HomePage.mounted (some (.value oldAddress))) promptList, Clear moment.before moment.event) ∧
      Belongs (machine.trace (HomePage.mounted (some (.value oldAddress))) promptList)
        (machine.final (HomePage.mounted (some (.value oldAddress))) promptList).render.address
        (machine.final (HomePage.mounted (some (.value oldAddress))) promptList).render.emails :=
  ⟨by decide +kernel, inbox_belongs _ promptList (by decide +kernel) promptList [] rfl⟩

end Late

end Tempmail.Web.Home
