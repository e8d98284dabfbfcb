import Tempmail.Web.HomePage

set_option autoImplicit false

namespace Tempmail.Web.Home

open Store (Uuid)

def TokenGone (page : HomePage) (id : Nat) (reply : Reply) (render : Render) (token : String) : Asker → Prop
  | .fetchEmails silent =>
      ∃ search answer, page.flight.find id = some (.listEmails render token search silent) ∧ reply =
        .emails answer ∧ NotFound answer
  | .handleEmailClick =>
      ∃ emailId answer, page.flight.find id = some (.getEmail render token emailId) ∧ reply = .email answer ∧ NotFound answer
  | .handleDeleteEmail =>
      ∃ emailId answer, page.flight.find id = some (.deleteEmail render token emailId) ∧ reply = .deleted answer ∧ NotFound answer

-- What a step of the page may send: opening and deleting an email are asked for
-- by the user alone, so with the render shown and its token, and whether an
-- address is gone where the answer at hand is the 404 of a token request.
def Sent (render : Render) (asks : Render → String → Asker → Prop) : Call → Prop
  | .getSetupStatus _ => False
  | .getEmail asked token _ => asked = render ∧ render.address.map AddressResponse.token = some token
  | .deleteEmail asked token _ => asked = render ∧ render.address.map AddressResponse.token = some token
  | .getAddressInfo asked token asker => asks asked token asker
  | _ => True

def SendsOnly (render : Render) (asks : Render → String → Asker → Prop) (before after : Flight Call) : Prop :=
  ∃ calls, after = before.sendAll calls ∧ ∀ call ∈ calls, Sent render asks call

section Sends

variable (render : Render) (asks : Render → String → Asker → Prop) (flight : Flight Call)

theorem sends_nothing : SendsOnly render asks flight flight := ⟨[], rfl, by simp⟩

theorem sends_one (call : Call) (sent : Sent render asks call) : SendsOnly render asks flight (flight.send call) :=
  ⟨[call], rfl, by simpa using sent⟩

theorem sends_two (first second : Call) (one : Sent render asks first) (two : Sent render asks second) :
    SendsOnly render asks flight ((flight.send first).send second) :=
  ⟨[first, second], rfl, by simpa using ⟨one, two⟩⟩

end Sends

section Handlers

variable (page : HomePage) (shown render : Render) (asks : Render → String → Asker → Prop)

theorem fetch_flight (token : String) (silent : Bool) :
    (page.fetchEmails render token silent).flight = page.flight.send (.listEmails render token render.searchQuery silent) := by
  cases silent <;> rfl

theorem create_flight (old : Option String) :
    (page.createNewAddress render old).flight = page.flight.send (.createAddress render (HomePage.payload render) old) := rfl

theorem finish_loading (asker : Asker) : ∃ loading, page.finish asker = page.setLoading loading := by
  cases asker with
  | fetchEmails silent => cases silent <;> exact ⟨_, rfl⟩
  | handleEmailClick => exact ⟨false, rfl⟩
  | handleDeleteEmail => exact ⟨page.loading, rfl⟩

theorem finish_flight (asker : Asker) : (page.finish asker).flight = page.flight := by
  obtain ⟨loading, finished⟩ := finish_loading page asker
  rw [finished, HomePage.setLoading]

theorem finish_render (asker : Asker) : (page.finish asker).render = page.render := by
  obtain ⟨loading, finished⟩ := finish_loading page asker
  rw [finished, HomePage.setLoading]

theorem finish_saved (asker : Asker) : (page.finish asker).saved = page.saved := by
  obtain ⟨loading, finished⟩ := finish_loading page asker
  rw [finished, HomePage.setLoading]

theorem expired_sends : SendsOnly shown asks page.flight (page.handleExpiredAddress render).flight := by
  rw [HomePage.handleExpiredAddress]
  split
  · exact sends_nothing shown asks _
  · exact sends_one shown asks _ _ trivial

theorem init_sends (now : Int) : SendsOnly shown asks page.flight (page.initInbox render now).flight := by
  rw [HomePage.initInbox]
  split
  · split
    · exact sends_two shown asks _ _ _ trivial trivial
    · exact sends_two shown asks _ _ _ trivial trivial
  · exact sends_two shown asks _ _ _ trivial trivial

theorem setup_sends (answer : Answer SetupStatus) (now : Int) :
    SendsOnly shown asks page.flight (page.setupStatusAnswered render answer now).1.flight := by
  rw [HomePage.setupStatusAnswered]
  split
  · split
    · exact init_sends page shown render asks now
    · exact sends_nothing shown asks _
  · exact init_sends page shown render asks now

theorem domains_sends (answer : Answer (List String)) :
    SendsOnly shown asks page.flight (page.domainsAnswered answer).flight := by
  rw [HomePage.domainsAnswered]
  split <;> exact sends_nothing shown asks _

theorem address_sends (old : Option String) (answer : Answer AddressResponse) :
    SendsOnly shown asks page.flight (page.addressAnswered render old answer).1.flight := by
  rw [HomePage.addressAnswered]
  split
  · exact sends_one shown asks _ _ trivial
  · exact sends_nothing shown asks _

theorem emails_sends (token : String) (silent : Bool) (answer : Answer Api.EmailListResponse)
    (asked : NotFound answer → asks render token (.fetchEmails silent)) :
    SendsOnly shown asks page.flight (page.emailsAnswered render token silent answer).flight := by
  rw [HomePage.emailsAnswered]
  split
  · rw [finish_flight]
    exact sends_nothing shown asks _
  · rename_i thrown raised
    split
    · rename_i missing
      exact sends_one shown asks _ _ (asked ((thrown_iff true answer thrown raised).mp missing))
    · rw [finish_flight]
      exact sends_nothing shown asks _

theorem email_sends (token : String) (emailId : Uuid) (answer : Answer Api.EmailDetail)
    (asked : NotFound answer → asks render token .handleEmailClick) :
    SendsOnly shown asks page.flight (page.emailAnswered render token emailId answer).1.flight := by
  rw [HomePage.emailAnswered]
  split
  · exact sends_nothing shown asks _
  · rename_i thrown raised
    split
    · rename_i missing
      exact sends_one shown asks _ _ (asked ((thrown_iff true answer thrown raised).mp missing))
    · exact sends_nothing shown asks _

theorem deleted_sends (token : String) (emailId : Uuid) (answer : Answer Unit)
    (asked : NotFound answer → asks render token .handleDeleteEmail) :
    SendsOnly shown asks page.flight (page.deletedAnswered render token emailId answer).1.flight := by
  rw [HomePage.deletedAnswered]
  split
  · dsimp only
    split <;> exact sends_nothing shown asks _
  · rename_i thrown raised
    split
    · rename_i missing
      exact sends_one shown asks _ _ (asked ((thrown_iff true answer thrown raised).mp missing))
    · exact sends_nothing shown asks _

theorem info_sends (asker : Asker) (answer : Answer AddressInfo) :
    SendsOnly shown asks page.flight (page.infoAnswered render asker answer).flight := by
  rw [HomePage.infoAnswered]
  split
  · split
    · rw [finish_flight]
      exact sends_nothing shown asks _
    · exact expired_sends page shown render asks
  · rw [finish_flight]
    exact sends_nothing shown asks _

theorem interval_sends (now : Int) : SendsOnly shown asks page.flight (page.intervalPassed now).flight := by
  rw [HomePage.intervalPassed]
  split
  · exact sends_nothing shown asks _
  · split
    · exact sends_nothing shown asks _
    · split
      · exact expired_sends page shown _ asks
      · rw [fetch_flight]
        exact sends_one shown asks _ _ trivial

theorem click_sends (emailId : Uuid) : SendsOnly page.render asks page.flight (page.handleEmailClick emailId).flight := by
  rw [HomePage.handleEmailClick]
  split
  · exact sends_nothing _ asks _
  · rename_i address given
    exact sends_one _ asks _ _ ⟨rfl, by rw [given]; rfl⟩

theorem delete_sends (emailId : Uuid) (confirmed : Bool) :
    SendsOnly page.render asks page.flight (page.handleDeleteEmail emailId confirmed).flight := by
  rw [HomePage.handleDeleteEmail]
  split
  · exact sends_nothing _ asks _
  · rename_i address given
    split
    · exact sends_one _ asks _ _ ⟨rfl, by rw [given]; rfl⟩
    · exact sends_nothing _ asks _

theorem acted_sends (event : Event) : SendsOnly page.render asks page.flight (page.acted event).flight := by
  unfold HomePage.acted
  split
  · split
    · exact sends_nothing _ asks _
    · split
      · exact sends_nothing _ asks _
      · exact sends_one _ asks _ _ trivial
  · split <;> exact sends_nothing _ asks _
  · split
    · exact sends_nothing _ asks _
    · exact sends_one _ asks _ _ trivial
  · split <;> exact sends_nothing _ asks _
  · split <;> exact sends_nothing _ asks _
  · split <;> exact sends_nothing _ asks _
  · split <;> exact sends_nothing _ asks _
  · split
    · exact sends_one _ asks _ _ trivial
    · exact sends_nothing _ asks _
  · split
    · exact click_sends page asks _
    · exact sends_nothing _ asks _
  · split
    · exact sends_nothing _ asks _
    · exact delete_sends page asks _ _
  · exact sends_nothing _ asks _

theorem answered_sends (id : Nat) (call : Call) (reply : Reply) (now : Int) (found : page.flight.find id = some call) :
    SendsOnly shown (TokenGone page id reply) (page.flight.close id) (page.answered id call reply now).1.flight ∨
      page.answered id call reply now = (page, []) := by
  unfold HomePage.answered
  dsimp only
  split
  · exact Or.inl (setup_sends _ shown _ _ _ now)
  · exact Or.inl (domains_sends _ shown _ _)
  · exact Or.inl (address_sends _ shown _ _ _ _)
  · exact Or.inl (emails_sends _ shown _ _ _ _ _ (fun missing => ⟨_, _, found, rfl, missing⟩))
  · exact Or.inl (email_sends _ shown _ _ _ _ _ (fun missing => ⟨_, _, found, rfl, missing⟩))
  · exact Or.inl (deleted_sends _ shown _ _ _ _ _ (fun missing => ⟨_, _, found, rfl, missing⟩))
  · exact Or.inl (info_sends _ shown _ _ _ _)
  · exact Or.inr rfl

end Handlers

def Event.asks (page : HomePage) : Event → Render → String → Asker → Prop
  | .answered id reply _ => TokenGone page id reply
  | _ => fun _ _ _ => False

theorem step_sends (page : HomePage) (event : Event) (here : event ≠ .reload) :
    ∃ before, (before = page.flight ∨ ∃ id reply now, event = .answered id reply now ∧ before = page.flight.close id) ∧
      SendsOnly page.render (event.asks page) before (page.step event).1.flight := by
  unfold HomePage.step
  split
  · rename_i id reply now
    split
    · exact ⟨_, Or.inl rfl, sends_nothing _ _ _⟩
    · rename_i call found
      rcases answered_sends page page.render id call reply now found with sends | same
      · exact ⟨_, Or.inr ⟨id, reply, now, rfl, rfl⟩, sends⟩
      · rw [same]
        exact ⟨_, Or.inl rfl, sends_nothing _ _ _⟩
  · exact ⟨_, Or.inl rfl, interval_sends page page.render _ _⟩
  · exact absurd rfl here
  · exact ⟨_, Or.inl rfl, acted_sends page _ _⟩

theorem step_keeps (page : HomePage) (event : Event) (id : Nat) (call : Call) (found : page.flight.find id = some call)
    (here : event ≠ .reload) (other : ∀ reply now, event ≠ .answered id reply now) :
    (page.step event).1.flight.find id = some call := by
  obtain ⟨before, base, calls, flight_eq, _⟩ := step_sends page event here
  rw [flight_eq]
  apply Flight.sent_keeps
  rcases base with rfl | ⟨closed, reply, now, rfl, rfl⟩
  · exact found
  · rw [Flight.closed_keeps _ closed id (fun same => other reply now (by rw [same]))]
    exact found

theorem step_found (page : HomePage) (event : Event) (id : Nat) (call : Call) (here : event ≠ .reload)
    (found : (page.step event).1.flight.find id = some call) :
    page.flight.find id = some call ∨ Sent page.render (event.asks page) call := by
  obtain ⟨before, base, calls, flight_eq, sent⟩ := step_sends page event here
  rw [flight_eq] at found
  rcases Flight.sent_adds before calls id call found with earlier | later
  · left
    rcases base with rfl | ⟨closed, reply, now, rfl, rfl⟩
    · exact earlier
    · exact (Flight.closed_found _ closed id call earlier).2
  · exact Or.inr (sent call later)

end Tempmail.Web.Home
