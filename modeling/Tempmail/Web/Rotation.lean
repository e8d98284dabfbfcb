import Tempmail.Web.HomeSteps

set_option autoImplicit false

namespace Tempmail.Web.Home

-- The answer to an /info request that asks whether the address is gone.
def Confirms (page : HomePage) (event : Event) (answer : Answer AddressInfo) : Prop :=
  ∃ id now render token asker, event = .answered id (.info answer) now ∧
    page.flight.find id = some (.getAddressInfo render token asker)

def Replaces (page : HomePage) (event : Event) : Prop :=
  ∃ id, page.flight.find id = none ∧ ∀ later data now,
    (∀ next ∈ later, next ≠ .reload ∧ ∀ reply then', next ≠ .answered id reply then') →
      (machine.final (page.step event).1 (later ++ [.answered id (.address (.ok data)) now])).saved = some (.value data)

structure Rotates (page : HomePage) (event : Event) (answer : Answer AddressInfo) : Prop where
  replaced : Replaces page event ↔ NotFound answer
  kept : ¬ NotFound answer → (page.step event).1.saved = page.saved ∧ (page.step event).1.render.address = page.render.address

theorem not_found_asks (page : HomePage) (id : Nat) (reply : Reply) (now : Int) (render : Render) (token : String) (asker : Asker)
    (gone : TokenGone page id reply render token asker) :
    (page.step (.answered id reply now)).1.flight.find page.flight.next = some (.getAddressInfo render token asker) := by
  cases asker with
  | fetchEmails silent =>
      obtain ⟨search, answer, found, rfl, error, rfl, missing⟩ := gone
      simp [HomePage.step, found, HomePage.answered, HomePage.emailsAnswered, listEmails, call, missing,
        HomePage.send, Flight.find_send]
  | handleEmailClick =>
      obtain ⟨emailId, answer, found, rfl, error, rfl, missing⟩ := gone
      simp [HomePage.step, found, HomePage.answered, HomePage.emailAnswered, getEmail, call, missing,
        HomePage.send, Flight.find_send]
  | handleDeleteEmail =>
      obtain ⟨emailId, answer, found, rfl, error, rfl, missing⟩ := gone
      simp [HomePage.step, found, HomePage.answered, HomePage.deletedAnswered, deleteEmail, call, missing, HomePage.send,
        Flight.find_send]

theorem asks_not_found (page : HomePage) (event : Event) (id : Nat) (render : Render) (token : String) (asker : Asker)
    (here : event ≠ .reload) (new : page.flight.find id = none)
    (found : (page.step event).1.flight.find id = some (.getAddressInfo render token asker)) :
    ∃ asked reply now, event = .answered asked reply now ∧ TokenGone page asked reply render token asker := by
  rcases step_found page event id _ here found with earlier | sent
  · rw [new] at earlier
    exact absurd earlier.symm (Option.some_ne_none _)
  · cases event with
    | answered asked reply now => exact ⟨asked, reply, now, rfl, sent⟩
    | _ => exact sent.elim

theorem never_confirmed (answer : Answer AddressInfo) : HomePage.confirmAddressGone answer = false := by
  rw [HomePage.confirmAddressGone]
  split
  · rfl
  · rename_i thrown raised
    rw [status_dropped false answer thrown raised]
    rfl

theorem info_finishes (page : HomePage) (id : Nat) (answer : Answer AddressInfo) (now : Int) (render : Render) (token : String)
    (asker : Asker) (found : page.flight.find id = some (.getAddressInfo render token asker)) :
    (page.step (.answered id (.info answer) now)).1 = { page with flight := page.flight.close id }.finish asker := by
  simp [HomePage.step, found, HomePage.answered, HomePage.infoAnswered, never_confirmed]

theorem unanswered_same (page : HomePage) (id : Nat) (reply : Reply) (now : Int) (absent : page.flight.find id = none) :
    page.step (.answered id reply now) = (page, []) := by
  simp [HomePage.step, absent]

theorem silent_keeps (page : HomePage) (event : Event)
    (silent : ∀ id, page.flight.find id = none → (page.step event).1.flight.find id = none) : ¬ Replaces page event := by
  intro replaces
  obtain ⟨id, new, replaced⟩ := replaces
  have stored : ∀ data, (page.step event).1.saved = some (.value data) := by
    intro data
    have last := replaced [] data 0 (by simp)
    rw [List.nil_append, Machine.final_cons, Machine.final_nil] at last
    rwa [show machine.step (page.step event).1 (.answered id (.address (.ok data)) 0) = _ from
      unanswered_same _ id _ 0 (silent id new)] at last
  have one := stored ⟨0, "", "", 0, 0⟩
  rw [stored ⟨1, "", "", 0, 0⟩] at one
  exact absurd one (by decide)

theorem address_replaces (page : HomePage) (id : Nat) (data : AddressResponse) (now : Int) (render : Render)
    (payload : AddressCreate) (old : Option String) (found : page.flight.find id = some (.createAddress render payload old)) :
    (page.step (.answered id (.address (.ok data)) now)).1.saved = some (.value data) := by
  simp [HomePage.step, found, HomePage.answered, HomePage.addressAnswered, createAddress, call, HomePage.fetchEmails,
    HomePage.setLoading, HomePage.send, HomePage.restartInterval]

theorem create_replaces (page : HomePage) (event : Event) (id : Nat) (render : Render) (payload : AddressCreate)
    (old : Option String) (new : page.flight.find id = none)
    (sent : (page.step event).1.flight.find id = some (.createAddress render payload old)) : Replaces page event := by
  refine ⟨id, new, fun later data now quiet => ?_⟩
  have waiting := (Machine.invariant_run machine (fun page => page.flight.find id = some (.createAddress render payload old))
    (fun next => next ≠ .reload ∧ ∀ reply then', next ≠ .answered id reply then')
    (fun page next quiet found => step_keeps page next id _ found quiet.1 quiet.2) _ later quiet sent).1
  rw [Machine.final_append, Machine.final_cons, Machine.final_nil]
  exact address_replaces _ id data now render payload old waiting

theorem expired_replaces (page : HomePage) (render : Render) (address : AddressResponse) (now : Int)
    (running : page.interval = some render) (given : render.address = some address) (past : address.expiresAt ≤ now)
    (named : address.email ≠ "") : Replaces page (.interval now) := by
  have old : HomePage.oldEmail render = address.email := by rw [HomePage.oldEmail, given]; rfl
  refine create_replaces page _ page.flight.next render (HomePage.payload render) (some (HomePage.oldEmail render))
    (Flight.find_late _ _ (Nat.le_refl _)) ?_
  simp only [HomePage.step, HomePage.intervalPassed, running, given, if_pos past,
    HomePage.handleExpiredAddress, old, if_neg named,
    create_flight, Flight.find_send, if_true]

theorem rotates_iff (page : HomePage) (event : Event) (answer : Answer AddressInfo) (confirms : Confirms page event answer) :
    Rotates page event answer ↔ ¬ NotFound answer := by
  obtain ⟨id, now, render, token, asker, rfl, found⟩ := confirms
  have finishes := info_finishes page id answer now render token asker found
  have never : ¬ Replaces page (.answered id (.info answer) now) := by
    apply silent_keeps
    intro other new
    rw [finishes, finish_flight, Flight.find_close]
    split
    · rfl
    · exact new
  refine ⟨fun rotates missing => never (rotates.replaced.mpr missing), fun present => ⟨iff_of_false never present, fun _ => ?_⟩⟩
  rw [finishes, finish_saved, finish_render]
  exact ⟨rfl, rfl⟩

section Dead

def deadAddress : AddressResponse := ⟨1, "old@mail.example", "a1", 0, 86400000⟩

def deadInbox : List Event :=
  [.answered 0 (.setupStatus (.ok ⟨true⟩)) 5, .answered 1 (.emails (.ok ⟨[], 0, 1, 50, false, false⟩)) 6, .refresh,
    .answered 3 (.emails (.refused Api.addressNotFound)) 8]

theorem dead_inbox_kept :
    ¬ ∀ (saved : Option (Stored AddressResponse)) (events : List Event),
      ∀ moment ∈ machine.trace (HomePage.mounted saved) events, ∀ answer,
        Confirms moment.before moment.event answer → Rotates moment.before moment.event answer := by
  intro rotates
  have confirms : Confirms (machine.final (HomePage.mounted (some (.value deadAddress))) deadInbox)
      (.answered 4 (.info (.refused Api.addressNotFound)) 9) (.refused Api.addressNotFound) :=
    ⟨4, 9, { Render.initial with address := some deadAddress }, "a1", .fetchEmails false, rfl, by decide +kernel⟩
  have last := rotates (some (.value deadAddress)) (deadInbox ++ [.answered 4 (.info (.refused Api.addressNotFound)) 9]) _
    (Machine.trace_here machine _ deadInbox _ []) _ confirms
  exact (rotates_iff _ _ _ confirms).mp last ⟨Api.addressNotFound, rfl, rfl⟩

end Dead

-- Over a whole run: the page rotates exactly when the mailbox is gone as long as
-- no follow-up says so.
theorem rotation_iff (saved : Option (Stored AddressResponse)) (events : List Event) :
    (∀ moment ∈ machine.trace (HomePage.mounted saved) events, ∀ answer,
        Confirms moment.before moment.event answer → Rotates moment.before moment.event answer) ↔
      ∀ moment ∈ machine.trace (HomePage.mounted saved) events, ∀ answer,
        Confirms moment.before moment.event answer → ¬ NotFound answer := by
  refine forall₂_congr fun moment _ => forall₂_congr fun answer confirms => ?_
  exact rotates_iff moment.before moment.event answer confirms

end Tempmail.Web.Home
