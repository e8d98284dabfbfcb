import Tempmail.Web.MailboxPage

set_option autoImplicit false

namespace Tempmail.Web.Mailbox

open Store (Uuid)
open Api (HTTPException)

abbrev History := List (Machine.Moment MailboxPage Event (List Effect))

def Disowning (error : HTTPException) : Prop := error = Api.addressNotFound ∨ error = Api.addressExpired

def refusal : Call → Reply → Option (String × HTTPException)
  | .getAddressInfo token, .info (.refused error) => some (token, error)
  | .listEmails token _ _, .emails (.refused error) => some (token, error)
  | .getEmail token _ _, .email (.refused error) => some (token, error)
  | .deleteEmail token _ _ _, .deleted (.refused error) => some (token, error)
  | _, _ => none

def refused (page : MailboxPage) : Event → Option (String × HTTPException)
  | .answered id reply => (page.flight.find id).bind (fun call => refusal call reply)
  | _ => none

def Disowned (token : String) (moment : Machine.Moment MailboxPage Event (List Effect)) : Prop :=
  ∃ refusal ∈ refused moment.before moment.event, refusal.1 = token ∧ Disowning refusal.2

instance (error : HTTPException) : Decidable (Disowning error) := inferInstanceAs (Decidable (_ ∨ _))

instance (token : String) (moment : Machine.Moment MailboxPage Event (List Effect)) : Decidable (Disowned token moment) :=
  inferInstanceAs (Decidable (∃ refusal ∈ refused moment.before moment.event, refusal.1 = token ∧ Disowning refusal.2))

def missing : Call → Reply → Bool
  | .listEmails _ _ _, .emails (.refused error) => error.statusCode == 404
  | .getEmail _ _ _, .email (.refused error) => error.statusCode == 404
  | .deleteEmail _ _ _ _, .deleted (.refused error) => error.statusCode == 404
  | _, _ => false

def Missing (page : MailboxPage) (event : Event) : Prop :=
  ∃ id reply call, event = .answered id reply ∧ page.flight.find id = some call ∧ missing call reply = true

-- The saved token is removed by the user's own logout or once the server has
-- disowned it.
def Kept (past : History) (page : MailboxPage) (event : Event) : Prop :=
  ∀ session, page.saved = some (.value session) → (page.step event).1.saved = none →
    event = .logout ∨ ∃ moment ∈ past ++ [⟨page, event, (page.step event).2⟩], Disowned session.token moment

-- While a token is saved, a 404 comes to the inbox only with or after the word
-- that this token is unknown or expired.
def Warranted (past : History) (page : MailboxPage) (event : Event) : Prop :=
  ∀ session, page.saved = some (.value session) → Missing page event →
    ∃ moment ∈ past ++ [⟨page, event, (page.step event).2⟩], Disowned session.token moment

theorem api_missing (python : Api.Python) (executor : Api.Executor) (inbox : Store.Inbox) (address : Store.AddressRow)
    (now : Store.Time) (request : Api.TokenRequest) (error : HTTPException)
    (refused : (request.answer python executor inbox address now).1 = .error error) :
    error = Api.emailNotFound ∨ error = Api.attachmentNotFound := by
  cases request with
  | info => cases refused
  | listEmails page unreadOnly search => cases refused
  | getEmail emailId markRead =>
      simp only [Api.TokenRequest.answer, Api.getEmail] at refused
      split at refused <;> cases refused
      exact Or.inl rfl
  | downloadRaw emailId =>
      simp only [Api.TokenRequest.answer, Api.downloadRawEmail] at refused
      split at refused <;> cases refused
      exact Or.inl rfl
  | downloadAttachment emailId attachmentId =>
      simp only [Api.TokenRequest.answer, Api.downloadAttachment] at refused
      split at refused
      · cases refused
        exact Or.inl rfl
      · split at refused <;> cases refused
        exact Or.inr rfl
  | deleteEmail emailId =>
      simp only [Api.TokenRequest.answer, Api.deleteEmail] at refused
      split at refused
      · cases refused
        exact Or.inl rfl
      · split at refused <;> cases refused

theorem api_disowning_iff (python : Api.Python) (executor : Api.Executor) (request : Api.TokenRequest) (token : String)
    (now : Store.Time) (inbox : Store.Inbox) (error : HTTPException)
    (refused : (request.handle python executor (.ok ()) token now inbox).1 = .error error) :
    Disowning error ↔ ∀ address, Api.getAddressByToken inbox token now ≠ .ok address := by
  cases authorised : Api.getAddressByToken inbox token now with
  | error refusal =>
      simp only [Api.TokenRequest.handle, authorised, Except.error.injEq] at refused
      subst refused
      refine iff_of_true ?_ (fun address => by simp)
      rw [Api.getAddressByToken] at authorised
      split at authorised
      · cases authorised
        exact Or.inl rfl
      · split at authorised
        · cases authorised
          exact Or.inr rfl
        · cases authorised
  | ok address =>
      simp only [Api.TokenRequest.handle, authorised] at refused
      refine iff_of_false ?_ (fun unknown => unknown address rfl)
      rcases api_missing python executor inbox address now request error refused with rfl | rfl
      · simp [Disowning, Api.emailNotFound, Api.addressNotFound, Api.addressExpired]
      · simp [Disowning, Api.attachmentNotFound, Api.addressNotFound, Api.addressExpired]

section Saved

variable (page : MailboxPage)

theorem fetch_saved (token search : String) (silent : Bool) : (page.fetchEmails token search silent).saved = page.saved := by
  cases silent <;> rfl

theorem finish_saved (silent : Bool) : (page.finish silent).saved = page.saved := by
  cases silent <;> rfl

theorem restore_saved : page.restore.saved = page.saved := by
  rw [MailboxPage.restore]
  split <;> rfl

theorem setup_saved (answer : Answer SetupStatus) : (page.setupStatusAnswered answer).1.saved = page.saved := by
  rw [MailboxPage.setupStatusAnswered]
  split
  · split
    · exact restore_saved page
    · rfl
  · exact restore_saved page

theorem domains_saved (answer : Answer (List String)) : (page.domainsAnswered answer).saved = page.saved := by
  rw [MailboxPage.domainsAnswered]
  split <;> rfl

theorem created_saved (answer : Answer PermanentResponse) : (page.createdAnswered answer).saved = page.saved ∨
    ∃ data, answer = .ok data ∧ (page.createdAnswered answer).saved = some (.value ⟨data.email, data.token⟩) := by
  rw [MailboxPage.createdAnswered]
  split
  · rename_i data answered
    exact Or.inr ⟨data, (call_ok_iff _ _ _ _).mp answered, rfl⟩
  · exact Or.inl rfl

theorem info_saved (token : String) (answer : Answer AddressInfo) : (page.infoAnswered token answer).saved = page.saved ∨
    ∃ info, answer = .ok info ∧ (page.infoAnswered token answer).saved = some (.value ⟨info.email, token⟩) := by
  rw [MailboxPage.infoAnswered]
  split
  · rename_i info answered
    exact Or.inr ⟨info, (call_ok_iff _ _ _ _).mp answered, rfl⟩
  · exact Or.inl rfl

theorem emails_removed (silent : Bool) (answer : Answer Api.EmailListResponse) (held : page.saved ≠ none) :
    (page.emailsAnswered silent answer).saved = none ↔ NotFound answer := by
  rw [MailboxPage.emailsAnswered]
  split
  · rename_i data answered
    rw [finish_saved]
    rw [(call_ok_iff _ _ _ _).mp answered]
    exact iff_of_false held (ok_found _)
  · rename_i thrown raised
    rw [finish_saved, ← thrown_iff true answer thrown raised]
    split
    · rename_i missing
      exact iff_of_true rfl missing
    · rename_i other
      exact iff_of_false held other

theorem email_removed (emailId : Uuid) (emails : List Api.EmailSummary) (answer : Answer Api.EmailDetail)
    (held : page.saved ≠ none) :
    (page.emailAnswered emailId emails answer).saved = none ↔ NotFound answer := by
  rw [MailboxPage.emailAnswered]
  split
  · rename_i detail answered
    rw [(call_ok_iff _ _ _ _).mp answered]
    exact iff_of_false held (ok_found _)
  · rename_i thrown raised
    rw [← thrown_iff true answer thrown raised]
    split
    · rename_i missing
      exact iff_of_true rfl missing
    · rename_i other
      exact iff_of_false held other

theorem deleted_removed (emailId : Uuid) (emails : List Api.EmailSummary) (detail : Option Api.EmailDetail) (answer : Answer Unit)
    (held : page.saved ≠ none) : (page.deletedAnswered emailId emails detail answer).saved = none ↔ NotFound answer := by
  rw [MailboxPage.deletedAnswered]
  split
  · rename_i answered
    rw [(call_ok_iff _ _ _ _).mp answered]
    exact iff_of_false held (ok_found _)
  · rename_i thrown raised
    rw [← thrown_iff true answer thrown raised]
    split
    · rename_i missing
      exact iff_of_true rfl missing
    · rename_i other
      exact iff_of_false held other

theorem create_saved : page.handleCreate.saved = page.saved := by
  rw [MailboxPage.handleCreate]
  split <;> rfl

theorem login_saved : page.handleLogin.saved = page.saved := by
  rw [MailboxPage.handleLogin]
  split <;> rfl

theorem acted_saved (event : Event) (other : event ≠ .logout) : (page.acted event).saved = page.saved := by
  unfold MailboxPage.acted
  split
  · split <;> rfl
  · split <;> rfl
  · split <;> rfl
  · split <;> rfl
  · split <;> rfl
  · split <;> rfl
  · split
    · rfl
    · split <;> rfl
  · exact absurd rfl other
  · split <;> rfl
  · split <;> rfl
  · split <;> rfl
  · split
    · exact create_saved page
    · rfl
  · split
    · exact login_saved page
    · rfl
  · rfl

theorem missing_false (call : Call) (reply : Reply)
    (list : ∀ token search silent answer, call = .listEmails token search silent → reply = .emails answer → False)
    (email : ∀ token emailId emails answer, call = .getEmail token emailId emails → reply = .email answer → False)
    (deleted : ∀ token emailId emails detail answer, call = .deleteEmail token emailId emails detail →
      reply = .deleted answer → False) : missing call reply = false := by
  unfold missing
  split
  · exact (list _ _ _ _ rfl rfl).elim
  · exact (email _ _ _ _ rfl rfl).elim
  · exact (deleted _ _ _ _ _ rfl rfl).elim
  · rfl

theorem answered_removed (id : Nat) (call : Call) (reply : Reply) (held : page.saved ≠ none) :
    (page.answered id call reply).1.saved = none ↔ missing call reply = true := by
  unfold MailboxPage.answered
  dsimp only
  split
  · rw [setup_saved]
    exact iff_of_false held (by simp [missing])
  · rw [domains_saved]
    exact iff_of_false held (by simp [missing])
  · rename_i username domain answer
    refine iff_of_false ?_ (by simp [missing])
    rcases created_saved { page with flight := page.flight.close id } answer with same | ⟨data, _, new⟩
    · rw [same]
      exact held
    · rw [new]
      exact Option.some_ne_none _
  · rename_i token answer
    refine iff_of_false ?_ (by simp [missing])
    rcases info_saved { page with flight := page.flight.close id } token answer with same | ⟨info, _, new⟩
    · rw [same]
      exact held
    · rw [new]
      exact Option.some_ne_none _
  · rename_i token search silent answer
    rw [emails_removed { page with flight := page.flight.close id } silent answer held]
    cases answer <;> simp [missing, NotFound]
  · rename_i token emailId emails answer
    rw [email_removed { page with flight := page.flight.close id } emailId emails answer held]
    cases answer <;> simp [missing, NotFound]
  · rename_i token emailId emails detail answer
    rw [deleted_removed { page with flight := page.flight.close id } emailId emails detail answer held]
    cases answer <;> simp [missing, NotFound]
  · rename_i list email deleted
    exact iff_of_false held (Bool.eq_false_iff.mp (missing_false call reply list email deleted))

theorem step_removed (event : Event) (held : page.saved ≠ none) :
    (page.step event).1.saved = none ↔ (event = .logout ∧ page.token ≠ "") ∨ Missing page event := by
  cases event with
  | answered id reply =>
      cases found : page.flight.find id with
      | none => simp [MailboxPage.step, Missing, found, held]
      | some call =>
          have removed := answered_removed page id call reply held
          simpa [MailboxPage.step, Missing, found] using removed
  | interval =>
      cases running : page.interval with
      | none => simp [MailboxPage.step, Missing, running, held]
      | some closure => simp [MailboxPage.step, Missing, running, fetch_saved, held]
  | reload => simp [MailboxPage.step, Missing, MailboxPage.mounted, held]
  | logout =>
      by_cases outside : page.token = ""
      · simp [MailboxPage.step, MailboxPage.acted, Missing, outside, held]
      · simp [MailboxPage.step, MailboxPage.acted, Missing, outside, MailboxPage.logout, MailboxPage.restartInterval]
  | _ => simp [MailboxPage.step, Missing, acted_saved, held]

end Saved

theorem kept_iff (past : History) (page : MailboxPage) (event : Event) : Kept past page event ↔ Warranted past page event := by
  refine ⟨fun kept session held missing => ?_, fun warranted session held removed => ?_⟩
  · have gone := (step_removed page event (by rw [held]; exact Option.some_ne_none _)).mpr (Or.inr missing)
    rcases kept session held gone with logout | disowned
    · obtain ⟨id, reply, call, answered, _⟩ := missing
      rw [logout] at answered
      cases answered
    · exact disowned
  · rcases (step_removed page event (by rw [held]; exact Option.some_ne_none _)).mp removed with logout | missing
    · exact Or.inl logout.1
    · exact Or.inr (warranted session held missing)

-- Over a whole run: the page throws no valid token away exactly as long as every
-- 404 that comes to the inbox is warranted.
theorem credential_iff (saved : Option (Stored Session)) (events : List Event) :
    (∀ before event after, events = before ++ event :: after →
        Kept (machine.trace (MailboxPage.mounted saved) before) (machine.final (MailboxPage.mounted saved) before) event) ↔
      ∀ before event after, events = before ++ event :: after →
        Warranted (machine.trace (MailboxPage.mounted saved) before) (machine.final (MailboxPage.mounted saved) before) event :=
  forall₄_congr (fun before event _ _ => kept_iff (machine.trace (MailboxPage.mounted saved) before)
    (machine.final (MailboxPage.mounted saved) before) event)

section Removed

def mySession : Session := ⟨"me@mail.example", "p9"⟩
def oldMail : Api.EmailSummary := ⟨7, "Invoice", "shop@store.example", "me@mail.example", 0, false, false, 300⟩

def removedEmail : List Event :=
  [.answered 0 (.setupStatus (.ok ⟨true⟩)), .answered 1 (.emails (.ok ⟨[oldMail], 1, 1, 50, false, false⟩)), .clickEmail 7]

theorem removed_email_logs_out :
    ¬ ∀ (saved : Option (Stored Session)) (events before : List Event) (event : Event) (after : List Event),
      events = before ++ event :: after →
        Kept (machine.trace (MailboxPage.mounted saved) before) (machine.final (MailboxPage.mounted saved) before) event := by
  intro kept
  have removed := kept (some (.value mySession)) _ removedEmail (.answered 3 (.email (.refused Api.emailNotFound))) [] rfl
    mySession (by decide +kernel) (by decide +kernel)
  rcases removed with logout | disowned
  · cases logout
  · exact absurd disowned (by decide +kernel)

end Removed

end Tempmail.Web.Mailbox
