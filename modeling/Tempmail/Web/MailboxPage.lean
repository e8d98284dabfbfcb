import Tempmail.Web.Client

set_option autoImplicit false

namespace Tempmail.Web.Mailbox

open Store (Uuid)
open Api (EmailSummary EmailDetail EmailListResponse)

structure Session where
  email : String
  token : String
deriving DecidableEq

inductive Call where
  | getSetupStatus
  | getDomains
  | createPermanentAddress (username : String) (domain : Option String)
  | getAddressInfo (token : String)
  | listEmails (token search : String) (silent : Bool)
  | getEmail (token : String) (emailId : Uuid) (emails : List EmailSummary)
  | deleteEmail (token : String) (emailId : Uuid) (emails : List EmailSummary) (detail : Option EmailDetail)
deriving DecidableEq

inductive Message where
  | nothing
  | key (key : String)
  | text (text : String)
deriving DecidableEq

structure MailboxPage where
  email : String
  token : String
  domains : List String
  selectedDomain : String
  username : String
  loginToken : String
  created : Option PermanentResponse
  busy : Bool
  error : Message
  emails : List EmailSummary
  loadingEmails : Bool
  detail : Option EmailDetail
  searchQuery : String
  autoRefresh : Bool
  -- The token and the query in the closure of the auto-refresh timer.
  interval : Option (String × String)
  saved : Option (Stored Session)
  flight : Flight Call

inductive Reply where
  | setupStatus (answer : Answer SetupStatus)
  | domains (answer : Answer (List String))
  | created (answer : Answer PermanentResponse)
  | info (answer : Answer AddressInfo)
  | emails (answer : Answer EmailListResponse)
  | email (answer : Answer EmailDetail)
  | deleted (answer : Answer Unit)
deriving DecidableEq

-- The forms take Enter also while their button is disabled.
inductive Event where
  | answered (id : Nat) (reply : Reply)
  | interval
  | refresh
  | search
  | clearSearch
  | typeSearch (query : String)
  | toggleAutoRefresh
  | clickEmail (emailId : Uuid)
  | clickDelete (confirmed : Bool)
  | logout
  | typeUsername (username : String)
  | chooseDomain (domain : String)
  | typeToken (token : String)
  | create (enter : Bool)
  | login (enter : Bool)
  | reload
deriving DecidableEq

inductive Effect where
  | setup
deriving DecidableEq

def trimmed : List Nat :=
  [0x09, 0x0a, 0x0b, 0x0c, 0x0d, 0x20, 0xa0, 0x1680, 0x2000, 0x2001, 0x2002, 0x2003, 0x2004, 0x2005, 0x2006, 0x2007, 0x2008,
    0x2009, 0x200a, 0x2028, 0x2029, 0x202f, 0x205f, 0x3000, 0xfeff]

def trim (text : String) : String :=
  let start := text.toList.dropWhile (fun c => trimmed.contains c.toNat)
  String.ofList (start.reverse.dropWhile (fun c => trimmed.contains c.toNat)).reverse

namespace MailboxPage

def mounted (saved : Option (Stored Session)) : MailboxPage where
  email := ""
  token := ""
  domains := []
  selectedDomain := ""
  username := ""
  loginToken := ""
  created := none
  busy := false
  error := .nothing
  emails := []
  loadingEmails := false
  detail := none
  searchQuery := ""
  autoRefresh := true
  interval := none
  saved
  flight := Flight.empty.send .getSetupStatus

def send (page : MailboxPage) (call : Call) : MailboxPage := { page with flight := page.flight.send call }

def restartInterval (page : MailboxPage) : MailboxPage :=
  { page with interval := if page.token = "" ∨ page.autoRefresh = false then none else some (page.token, page.searchQuery) }

def showSession (page : MailboxPage) (session : Session) : MailboxPage :=
  { page with email := session.email, token := session.token }.restartInterval

def saveSession (page : MailboxPage) (address token : String) : MailboxPage :=
  { page with saved := some (.value ⟨address, token⟩) }.showSession ⟨address, token⟩

def logout (page : MailboxPage) : MailboxPage :=
  { page with saved := none, email := "", token := "", emails := [], detail := none, created := none }.restartInterval

def setError (page : MailboxPage) (error : Message) : MailboxPage := { page with error }

def setBusy (page : MailboxPage) (busy : Bool) : MailboxPage := { page with busy }

def setLoadingEmails (page : MailboxPage) (loadingEmails : Bool) : MailboxPage := { page with loadingEmails }

def fetchEmails (page : MailboxPage) (token search : String) (silent : Bool) : MailboxPage :=
  (if silent then page else page.setLoadingEmails true).send (.listEmails token search silent)

-- The rest of the effect that restores the session and loads the domains.
def restore (page : MailboxPage) : MailboxPage :=
  match page.saved with
  | some (.value session) => ((page.showSession session).fetchEmails session.token "" false).send .getDomains
  | _ => page.send .getDomains

def setupStatusAnswered (page : MailboxPage) (answer : Answer SetupStatus) : MailboxPage × List Effect :=
  match getSetupStatus answer with
  | .ok status => if status.initialized then (page.restore, []) else (page, [.setup])
  | .error _ => (page.restore, [])

def domainsAnswered (page : MailboxPage) (answer : Answer (List String)) : MailboxPage :=
  match getDomains answer with
  | .ok domains => { page with domains, selectedDomain := domains.head?.getD page.selectedDomain }
  | .error _ => page

def createError (thrown : Thrown) : Message :=
  if thrown.status = some 409 then .key "mailbox.usernameTaken"
  else if thrown.status = some 429 then .key "home.rateLimited"
  else if thrown.detail.getD "" ≠ "" then .text (thrown.detail.getD "")
  else .key "mailbox.failedCreate"

def createdAnswered (page : MailboxPage) (answer : Answer PermanentResponse) : MailboxPage :=
  match createPermanentAddress answer with
  | .ok data =>
      (({ page with created := some data }.saveSession data.email data.token).fetchEmails data.token "" false).setBusy false
  | .error thrown => (page.setError (createError thrown)).setBusy false

def infoAnswered (page : MailboxPage) (token : String) (answer : Answer AddressInfo) : MailboxPage :=
  match getAddressInfo answer with
  | .ok info => (({ page with loginToken := "" }.saveSession info.email token).fetchEmails token "" false).setBusy false
  | .error _ => (page.setError (.key "mailbox.failedLogin")).setBusy false

def failedLogin (page : MailboxPage) : MailboxPage := (page.setError (.key "mailbox.failedLogin")).logout

def finish (page : MailboxPage) (silent : Bool) : MailboxPage := if silent then page else page.setLoadingEmails false

def emailsAnswered (page : MailboxPage) (silent : Bool) (answer : Answer EmailListResponse) : MailboxPage :=
  match listEmails answer with
  | .ok data => { page with emails := data.emails }.finish silent
  | .error thrown => (if thrown.status = some 404 then page.failedLogin else page).finish silent

def emailAnswered (page : MailboxPage) (emailId : Uuid) (emails : List EmailSummary)
    (answer : Answer EmailDetail) : MailboxPage :=
  match getEmail answer with
  | .ok detail =>
      { page with
        detail := some detail
        emails := emails.map (fun email => if email.id = emailId then { email with isRead := true } else email) }
  | .error thrown => if thrown.status = some 404 then page.failedLogin else page.setError (.key "home.failedToLoad")

def deletedAnswered (page : MailboxPage) (emailId : Uuid) (emails : List EmailSummary) (detail : Option EmailDetail)
    (answer : Answer Unit) : MailboxPage :=
  match deleteEmail answer with
  | .ok () =>
      { page with
        emails := emails.filter (fun email => email.id ≠ emailId)
        detail := if detail.map EmailDetail.id = some emailId then none else page.detail }
  | .error thrown => if thrown.status = some 404 then page.failedLogin else page.setError (.key "home.failedToDelete")

def answered (page : MailboxPage) (id : Nat) (call : Call) (reply : Reply) : MailboxPage × List Effect :=
  let rest := { page with flight := page.flight.close id }
  match call, reply with
  | .getSetupStatus, .setupStatus answer => rest.setupStatusAnswered answer
  | .getDomains, .domains answer => (rest.domainsAnswered answer, [])
  | .createPermanentAddress _ _, .created answer => (rest.createdAnswered answer, [])
  | .getAddressInfo token, .info answer => (rest.infoAnswered token answer, [])
  | .listEmails _ _ silent, .emails answer => (rest.emailsAnswered silent answer, [])
  | .getEmail _ emailId emails, .email answer => (rest.emailAnswered emailId emails answer, [])
  | .deleteEmail _ emailId emails detail, .deleted answer => (rest.deletedAnswered emailId emails detail answer, [])
  | _, _ => (page, [])

def handleCreate (page : MailboxPage) : MailboxPage :=
  if trim page.username = "" then page.setError (.key "mailbox.needUsername")
  else
    ((page.setError .nothing).setBusy true).send
      (.createPermanentAddress (trim page.username) (if page.selectedDomain = "" then none else some page.selectedDomain))

def handleLogin (page : MailboxPage) : MailboxPage :=
  if trim page.loginToken = "" then page.setError .nothing
  else ((page.setError .nothing).setBusy true).send (.getAddressInfo (trim page.loginToken))

-- The inbox is there while there is a token, the two forms while there is none.
def acted (page : MailboxPage) : Event → MailboxPage
  | .refresh =>
      if page.token = "" ∨ page.loadingEmails = true then page else page.fetchEmails page.token page.searchQuery false
  | .search => if page.token = "" then page else page.fetchEmails page.token page.searchQuery false
  | .clearSearch =>
      if page.token = "" ∨ page.searchQuery = "" then page
      else { page with searchQuery := "" }.restartInterval.fetchEmails page.token "" false
  | .typeSearch query => if page.token = "" then page else { page with searchQuery := query }.restartInterval
  | .toggleAutoRefresh => if page.token = "" then page else { page with autoRefresh := !page.autoRefresh }.restartInterval
  | .clickEmail emailId =>
      if page.token = "" ∨ page.emails.any (fun email => email.id == emailId) = false then page
      else page.send (.getEmail page.token emailId page.emails)
  | .clickDelete confirmed =>
      match page.detail with
      | none => page
      | some email =>
          if page.token = "" ∨ confirmed = false then page
          else page.send (.deleteEmail page.token email.id page.emails page.detail)
  | .logout => if page.token = "" then page else page.logout
  | .typeUsername username => if page.token = "" then { page with username } else page
  | .chooseDomain domain => if page.token = "" then { page with selectedDomain := domain } else page
  | .typeToken token => if page.token = "" then { page with loginToken := token } else page
  | .create enter => if page.token = "" ∧ (enter = true ∨ page.busy = false) then page.handleCreate else page
  | .login enter =>
      if page.token = "" ∧ (enter = true ∨ page.busy = false ∧ trim page.loginToken ≠ "") then page.handleLogin else page
  | _ => page

def step (page : MailboxPage) : Event → MailboxPage × List Effect
  | .answered id reply =>
      match page.flight.find id with
      | none => (page, [])
      | some call => page.answered id call reply
  | .interval =>
      match page.interval with
      | none => (page, [])
      | some (token, search) => (page.fetchEmails token search true, [])
  | .reload => (mounted page.saved, [])
  | event => (page.acted event, [])

end MailboxPage

def machine : Machine MailboxPage Event (List Effect) := ⟨MailboxPage.step⟩

end Tempmail.Web.Mailbox
