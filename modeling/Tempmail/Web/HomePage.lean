import Tempmail.Web.Client

set_option autoImplicit false

namespace Tempmail.Web.Home

open Store (Uuid)
open Api (EmailSummary EmailDetail EmailListResponse)

-- The state of one render. A handler reads the render it was made in, also when
-- it continues after an await.
structure Render where
  address : Option AddressResponse
  emails : List EmailSummary
  selectedEmail : Option EmailDetail
  searchQuery : String
  customUsername : String
  selectedDomain : String
deriving DecidableEq

-- Who asked /info whether the address is gone.
inductive Asker where
  | fetchEmails (silent : Bool)
  | handleEmailClick
  | handleDeleteEmail
deriving DecidableEq

inductive Call where
  | getSetupStatus (render : Render)
  | getDomains
  | createAddress (render : Render) (payload : AddressCreate) (oldEmail : Option String)
  | listEmails (render : Render) (token search : String) (silent : Bool)
  | getEmail (render : Render) (token : String) (emailId : Uuid)
  | deleteEmail (render : Render) (token : String) (emailId : Uuid)
  | getAddressInfo (render : Render) (token : String) (asker : Asker)
deriving DecidableEq

structure HomePage where
  render : Render
  loading : Bool
  autoRefresh : Bool
  showNewEmailDialog : Bool
  domains : List String
  -- The render whose closure the auto-refresh timer runs.
  interval : Option Render
  -- mailbucket_address in local storage.
  saved : Option (Stored AddressResponse)
  flight : Flight Call

inductive Reply where
  | setupStatus (answer : Answer SetupStatus)
  | domains (answer : Answer (List String))
  | address (answer : Answer AddressResponse)
  | emails (answer : Answer EmailListResponse)
  | email (answer : Answer EmailDetail)
  | deleted (answer : Answer Unit)
  | info (answer : Answer AddressInfo)
deriving DecidableEq

-- The answer to a request, a turn of the auto-refresh timer, what the user can
-- do on the page, and its reload.
inductive Event where
  | answered (id : Nat) (reply : Reply) (now : Int)
  | interval (now : Int)
  | refresh
  | typeSearch (query : String)
  | search
  | toggleAutoRefresh
  | showDialog (shown : Bool)
  | typeUsername (username : String)
  | chooseDomain (domain : String)
  | generate
  | clickEmail (emailId : Uuid)
  | clickDelete (confirmed : Bool)
  | reload
deriving DecidableEq

-- What the user gets to see of a handler: a text by its key, or the setup page.
inductive Effect where
  | alert (key : String)
  | expiredNewAddress (old new : String)
  | setup
deriving DecidableEq

def Render.initial : Render where
  address := none
  emails := []
  selectedEmail := none
  searchQuery := ""
  customUsername := ""
  selectedDomain := ""

namespace HomePage

def mounted (saved : Option (Stored AddressResponse)) : HomePage where
  render := .initial
  loading := false
  autoRefresh := true
  showNewEmailDialog := false
  domains := []
  interval := none
  saved
  flight := Flight.empty.send (.getSetupStatus .initial)

def send (page : HomePage) (call : Call) : HomePage := { page with flight := page.flight.send call }

def restartInterval (page : HomePage) : HomePage :=
  { page with interval := if page.render.address.isSome && page.autoRefresh then some page.render else none }

def setAddress (page : HomePage) (address : AddressResponse) : HomePage :=
  { page with render := { page.render with address := some address } }

def setEmails (page : HomePage) (emails : List EmailSummary) : HomePage :=
  { page with render := { page.render with emails } }

def setSelectedEmail (page : HomePage) (selectedEmail : Option EmailDetail) : HomePage :=
  { page with render := { page.render with selectedEmail } }

def setCustomUsername (page : HomePage) (customUsername : String) : HomePage :=
  { page with render := { page.render with customUsername } }

def setLoading (page : HomePage) (loading : Bool) : HomePage := { page with loading }

def payload (render : Render) : AddressCreate where
  username := if render.customUsername = "" then none else some render.customUsername
  domain := if render.selectedDomain = "" then none else some render.selectedDomain

def createNewAddress (page : HomePage) (render : Render) (oldEmail : Option String) : HomePage :=
  (page.setLoading true).send (.createAddress render (payload render) oldEmail)

def fetchDomains (page : HomePage) : HomePage := page.send .getDomains

def fetchEmails (page : HomePage) (render : Render) (token : String) (silent : Bool) : HomePage :=
  (if silent then page else page.setLoading true).send (.listEmails render token render.searchQuery silent)

def oldEmail (render : Render) : String := (render.address.map AddressResponse.email).getD ""

def handleExpiredAddress (page : HomePage) (render : Render) : HomePage :=
  if oldEmail render = "" then page else page.createNewAddress render (some (oldEmail render))

def initInbox (page : HomePage) (render : Render) (now : Int) : HomePage :=
  match page.saved with
  | some (.value parsed) =>
      if parsed.expiresAt ≤ now then
        ({ page with saved := none }.createNewAddress render (some parsed.email)).fetchDomains
      else ((page.setAddress parsed).restartInterval.fetchEmails render parsed.token false).fetchDomains
  | _ => (page.createNewAddress render none).fetchDomains

def setupStatusAnswered (page : HomePage) (render : Render) (answer : Answer SetupStatus) (now : Int) : HomePage × List Effect :=
  match getSetupStatus answer with
  | .ok status => if status.initialized then (page.initInbox render now, []) else (page, [.setup])
  | .error _ => (page.initInbox render now, [])

def domainsAnswered (page : HomePage) (answer : Answer (List String)) : HomePage :=
  match getDomains answer with
  | .ok domains =>
      { page with
        domains
        render := { page.render with selectedDomain := domains.head?.getD page.render.selectedDomain } }
  | .error _ => page

def createFailure (thrown : Thrown) : String :=
  if thrown.status = some 409 then "home.usernameTaken"
  else if thrown.status = some 429 then "home.rateLimited"
  else "home.failedToCreate"

-- The rest of createNewAddress. Its finally runs before the list it asks for comes.
def addressAnswered (page : HomePage) (render : Render) (oldEmail : Option String) (answer : Answer AddressResponse) :
    HomePage × List Effect :=
  match createAddress answer with
  | .ok data =>
      let shown := (((page.setAddress data).setEmails []).setSelectedEmail none).setCustomUsername ""
      let kept := { shown with saved := some (.value data), showNewEmailDialog := false }.restartInterval
      ((kept.fetchEmails render data.token false).setLoading false,
        if oldEmail.getD "" = "" then [] else [.expiredNewAddress (oldEmail.getD "") data.email])
  | .error thrown => (page.setLoading false, [.alert (createFailure thrown)])

def finish (page : HomePage) : Asker → HomePage
  | .fetchEmails silent => if silent then page else page.setLoading false
  | .handleEmailClick => page.setLoading false
  | .handleDeleteEmail => page

def confirmAddressGone (answer : Answer AddressInfo) : Bool :=
  match getAddressInfo answer with
  | .ok _ => false
  | .error thrown => thrown.status == some 404

-- handleExpiredAddress is awaited: the finally comes after the new address.
def infoAnswered (page : HomePage) (render : Render) (asker : Asker) (answer : Answer AddressInfo) : HomePage :=
  if confirmAddressGone answer then
    if oldEmail render = "" then page.finish asker else page.handleExpiredAddress render
  else page.finish asker

def emailsAnswered (page : HomePage) (render : Render) (token : String) (silent : Bool) (answer : Answer EmailListResponse) :
    HomePage :=
  match listEmails answer with
  | .ok data => (page.setEmails data.emails).finish (.fetchEmails silent)
  | .error thrown =>
      if thrown.status = some 404 then page.send (.getAddressInfo render token (.fetchEmails silent))
      else page.finish (.fetchEmails silent)

def markRead (emailId : Uuid) (emails : List EmailSummary) : List EmailSummary :=
  emails.map (fun email => if email.id = emailId then { email with isRead := true } else email)

def without (emailId : Uuid) (emails : List EmailSummary) : List EmailSummary :=
  emails.filter (fun email => email.id ≠ emailId)

def emailAnswered (page : HomePage) (render : Render) (token : String) (emailId : Uuid) (answer : Answer EmailDetail) :
    HomePage × List Effect :=
  match getEmail answer with
  | .ok detail =>
      (((page.setSelectedEmail (some detail)).setEmails (markRead emailId render.emails)).finish .handleEmailClick, [])
  | .error thrown =>
      if thrown.status = some 404 then (page.send (.getAddressInfo render token .handleEmailClick), [])
      else (page.finish .handleEmailClick, [.alert "home.failedToLoad"])

def deletedAnswered (page : HomePage) (render : Render) (token : String) (emailId : Uuid) (answer : Answer Unit) :
    HomePage × List Effect :=
  match deleteEmail answer with
  | .ok () =>
      let left := page.setEmails (without emailId render.emails)
      (if (render.selectedEmail.map EmailDetail.id) = some emailId then left.setSelectedEmail none else left, [])
  | .error thrown =>
      if thrown.status = some 404 then (page.send (.getAddressInfo render token .handleDeleteEmail), [])
      else (page.finish .handleDeleteEmail, [.alert "home.failedToDelete"])

def answered (page : HomePage) (id : Nat) (call : Call) (reply : Reply) (now : Int) : HomePage × List Effect :=
  let rest := { page with flight := page.flight.close id }
  match call, reply with
  | .getSetupStatus render, .setupStatus answer => rest.setupStatusAnswered render answer now
  | .getDomains, .domains answer => (rest.domainsAnswered answer, [])
  | .createAddress render _ oldEmail, .address answer => rest.addressAnswered render oldEmail answer
  | .listEmails render token _ silent, .emails answer => (rest.emailsAnswered render token silent answer, [])
  | .getEmail render token emailId, .email answer => rest.emailAnswered render token emailId answer
  | .deleteEmail render token emailId, .deleted answer => rest.deletedAnswered render token emailId answer
  | .getAddressInfo render _ asker, .info answer => (rest.infoAnswered render asker answer, [])
  | _, _ => (page, [])

-- The timer's closure, made when the address or the switch last changed.
def intervalPassed (page : HomePage) (now : Int) : HomePage :=
  match page.interval with
  | none => page
  | some render =>
      match render.address with
      | none => page
      | some address =>
          if address.expiresAt ≤ now then page.handleExpiredAddress render else page.fetchEmails render address.token true

def handleEmailClick (page : HomePage) (emailId : Uuid) : HomePage :=
  match page.render.address with
  | none => page
  | some address => (page.setLoading true).send (.getEmail page.render address.token emailId)

def handleDeleteEmail (page : HomePage) (emailId : Uuid) (confirmed : Bool) : HomePage :=
  match page.render.address with
  | none => page
  | some address => if confirmed then page.send (.deleteEmail page.render address.token emailId) else page

-- The controls of the inbox are there once there is an address, those of the
-- dialog while it is open, and some buttons are disabled while loading.
def acted (page : HomePage) : Event → HomePage
  | .refresh =>
      match page.render.address with
      | none => page
      | some address => if page.loading then page else page.fetchEmails page.render address.token false
  | .typeSearch query =>
      if page.render.address.isSome then { page with render := { page.render with searchQuery := query } } else page
  | .search =>
      match page.render.address with
      | none => page
      | some address => page.fetchEmails page.render address.token false
  | .toggleAutoRefresh =>
      if page.render.address.isSome then { page with autoRefresh := !page.autoRefresh }.restartInterval else page
  | .showDialog shown => if page.render.address.isSome then { page with showNewEmailDialog := shown } else page
  | .typeUsername username => if page.showNewEmailDialog then page.setCustomUsername username else page
  | .chooseDomain domain =>
      if page.showNewEmailDialog then { page with render := { page.render with selectedDomain := domain } } else page
  | .generate => if page.showNewEmailDialog && !page.loading then page.createNewAddress page.render none else page
  | .clickEmail emailId =>
      if page.render.emails.any (fun email => email.id == emailId) then page.handleEmailClick emailId else page
  | .clickDelete confirmed =>
      match page.render.selectedEmail with
      | none => page
      | some email => page.handleDeleteEmail email.id confirmed
  | _ => page

def step (page : HomePage) : Event → HomePage × List Effect
  | .answered id reply now =>
      match page.flight.find id with
      | none => (page, [])
      | some call => page.answered id call reply now
  | .interval now => (page.intervalPassed now, [])
  | .reload => (mounted page.saved, [])
  | event => (page.acted event, [])

end HomePage

def machine : Machine HomePage Event (List Effect) := ⟨HomePage.step⟩

end Tempmail.Web.Home
