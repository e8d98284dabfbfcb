import Tempmail.Api.Creation
import Tempmail.Lib.Like
import Tempmail.Store.Inbox

set_option autoImplicit false

namespace Tempmail.Api

open Store (AddressRow AddressType EmailRow FileRow Inbox Link Uuid)

def addressNotFound : HTTPException := ⟨404, "Address not found", []⟩
def addressExpired : HTTPException := ⟨404, "Address has expired", []⟩
def emailNotFound : HTTPException := ⟨404, "Email not found", []⟩
def attachmentNotFound : HTTPException := ⟨404, "Attachment not found", []⟩

-- What a query leaves to the database: the place it meets a row at, which
-- decides between rows of one rank, and the case folding of ILIKE.
structure Executor where
  place : Uuid → Nat
  distinct : Function.Injective place
  fold : Char → Char

def escapeLike (term : String) : String :=
  let replace (c : Char) (text : List Char) := text.flatMap (fun d => if d = c then ['\\', c] else [d])
  String.ofList (replace '_' (replace '%' (replace '\\' term.toList)))

-- strftime to the microsecond, less its last three digits: milliseconds.
def stamp (time : Store.Time) : Int := time.fdiv 1000000

structure AddressInfo where
  id : Uuid
  email : String
  addressType : AddressType
  createdAt : Int
  expiresAt : Option Int
deriving DecidableEq

structure EmailSummary where
  id : Uuid
  subject : String
  fromAddress : String
  toAddress : String
  receivedAt : Int
  isRead : Bool
  hasAttachments : Bool
  sizeBytes : Nat
deriving DecidableEq

structure EmailListResponse where
  emails : List EmailSummary
  total : Nat
  page : Nat
  perPage : Nat
  hasNext : Bool
  hasPrev : Bool
deriving DecidableEq

structure AttachmentInfo where
  id : Uuid
  filename : String
  contentType : String
  sizeBytes : Nat
deriving DecidableEq

structure EmailDetail where
  id : Uuid
  messageId : String
  subject : String
  fromAddress : String
  toAddress : String
  rawHeaders : String
  bodyPlain : String
  bodyHtml : String
  sizeBytes : Nat
  dkimValid : Option Bool
  spfResult : Option Mx.SPFResult
  dmarcResult : Option Mx.DMARCResult
  hasAttachments : Bool
  receivedAt : Int
  isRead : Bool
  attachments : List AttachmentInfo
deriving DecidableEq

structure FileResponse where
  content : Mx.Bytes
  mediaType : String
  headers : List (String × String)
deriving DecidableEq

inductive TokenResponse where
  | info (info : AddressInfo)
  | emails (list : EmailListResponse)
  | email (detail : EmailDetail)
  | file (file : FileResponse)
  | noContent
deriving DecidableEq

-- Query(1, ge=1) and Query(50, ge=1, le=100).
structure Page where
  page : Nat
  perPage : Nat
  counted : 1 ≤ page
  filled : 1 ≤ perPage
  bounded : perPage ≤ 100

inductive TokenRequest where
  | info
  | listEmails (page : Page) (unreadOnly : Bool) (search : Option String)
  | getEmail (emailId : Uuid) (markRead : Bool)
  | downloadRaw (emailId : Uuid)
  | downloadAttachment (emailId attachmentId : Uuid)
  | deleteEmail (emailId : Uuid)

section Headers

def uuidText (id : Uuid) : String :=
  let digits := Nat.toDigits 16 id
  let padded := List.replicate (32 - digits.length) '0' ++ digits
  let part := fun start count => String.ofList ((padded.drop start).take count)
  part 0 8 ++ "-" ++ part 8 4 ++ "-" ++ part 12 4 ++ "-" ++ part 16 4 ++ "-" ++ part 20 12

def hexDigit (value : Nat) : Char := (Nat.toDigits 16 value).headD '0' |>.toUpper

def quoteByte (byte : UInt8) : String :=
  let c := Char.ofNat byte.toNat
  if isAlnum c || c == '_' || c == '.' || c == '-' || c == '~' then String.singleton c
  else String.ofList ['%', hexDigit (byte.toNat / 16), hexDigit (byte.toNat % 16)]

def quote (text : String) : String := String.join (text.toUTF8.toList.map quoteByte)

def contentDisposition (filename : String) : String :=
  let name := Text.mapChars (fun c => if c ∈ ['/', '\\', '\r', '\n'] then '_' else c)
    (if filename = "" then "attachment" else filename)
  let fallback := Text.mapChars (fun c => if c = '"' then '_' else if c.toNat < 128 then c else '?') name
  "attachment; filename=\"" ++ (if fallback = "" then "attachment" else fallback) ++ "\"; filename*=UTF-8''" ++ quote name

def nosniff : String × String := ("X-Content-Type-Options", "nosniff")

def renderable : List String :=
  ["image/png", "image/jpeg", "image/gif", "image/webp", "image/bmp", "application/pdf", "text/plain"]

def mediaType (python : Python) (contentType : String) : String :=
  let bare := python.lower (strip (String.ofList (contentType.toList.takeWhile (· ≠ ';'))))
  if bare ∈ renderable then bare else "application/octet-stream"

end Headers

section Routes

variable (python : Python) (executor : Executor)

def getAddressByToken (inbox : Inbox) (token : String) (now : Store.Time) : Except HTTPException AddressRow :=
  match inbox.addressByToken token with
  | none => .error addressNotFound
  | some address => if address.isExpired now then .error addressExpired else .ok address

def addressInfo (address : AddressRow) : AddressInfo where
  id := address.id
  email := address.email
  addressType := address.addressType
  createdAt := stamp address.createdAt
  expiresAt := address.expiresAt.map stamp

def joined (inbox : Inbox) (addressId : Uuid) : List (EmailRow × Link) :=
  (inbox.links.filter (fun link => link.addressId == addressId)).filterMap (fun link =>
    (inbox.emails.find? (fun row => row.id == link.emailId)).map (fun row => (row, link)))

def searched (search : Option String) (row : EmailRow) : Bool :=
  match search with
  | none => true
  | some term =>
      let searchTerm := "%" ++ escapeLike term ++ "%"
      term == "" || [row.data.subject, row.data.fromAddr, row.data.bodyPlain].any (Like.ilike executor.fold '\\' searchTerm)

theorem escape_like_list (term : String) : (escapeLike term).toList = term.toList.flatMap Like.escaped := by
  rw [escapeLike, String.toList_ofList]
  dsimp only
  rw [List.flatMap_assoc, List.flatMap_assoc]
  congr 1
  funext c
  by_cases backslash : c = '\\'
  · subst backslash
    decide
  · by_cases percent : c = '%'
    · subst percent
      decide
    · by_cases underscore : c = '_'
      · subst underscore
        decide
      · simp [Like.escaped, backslash, percent, underscore]

theorem search_pattern_list (term : String) :
    ("%" ++ escapeLike term ++ "%").toList = '%' :: (term.toList.flatMap Like.escaped ++ ['%']) := by
  rw [String.toList_append, String.toList_append, escape_like_list]
  rfl

theorem search_pattern_items (term : String) :
    Like.parse '\\' ("%" ++ escapeLike term ++ "%").toList = .any :: (term.toList.map Like.Item.char ++ [.any]) := by
  have parsed := Like.parse_escaped term.toList ['%']
  rw [search_pattern_list]
  cases rest : term.toList.flatMap Like.escaped ++ ['%'] with
  | nil => simp at rest
  | cons d more =>
      rw [Like.parse, if_neg (by decide), ← rest, parsed]
      rfl

theorem search_pattern_found (fold : Char → Char) (term text : String) :
    Like.ilike fold '\\' ("%" ++ escapeLike term ++ "%") text = true ↔ term.toList.map fold <:+: text.toList.map fold := by
  have items : (Like.parse '\\' ("%" ++ escapeLike term ++ "%").toList).map (Like.Item.folded fold) =
      .any :: ((term.toList.map fold).map Like.Item.char ++ [.any]) := by
    rw [search_pattern_items, List.map_cons, List.map_append, List.map_map, List.map_map]
    rfl
  rw [Like.ilike, items, Like.accepts_inside]

-- A search term has no wildcards: it is found where one of the columns contains
-- it, letter case apart.
theorem searched_iff (term : String) (row : EmailRow) :
    searched executor (some term) row = true ↔ term = "" ∨ ∃ column ∈ [row.data.subject, row.data.fromAddr, row.data.bodyPlain],
      term.toList.map executor.fold <:+: column.toList.map executor.fold := by
  simp only [searched, Bool.or_eq_true, beq_iff_eq, List.any_eq_true, search_pattern_found]

-- Every term, on a database that compares folded letters and on one that folds
-- the pattern and the text beforehand.
theorem search_literal (fold : Char → Char) (term text : String) :
    Like.wellFormed '\\' ("%" ++ escapeLike term ++ "%").toList = true ∧
      (Like.ilike fold '\\' ("%" ++ escapeLike term ++ "%") text = true ↔
        term.toList.map fold <:+: text.toList.map fold) ∧
      (Like.Plain fold →
        (Like.like '\\' (String.ofList (("%" ++ escapeLike term ++ "%").toList.map fold))
            (String.ofList (text.toList.map fold)) = true ↔
          term.toList.map fold <:+: text.toList.map fold)) := by
  have found := search_pattern_found fold term text
  refine ⟨?_, found, fun plain => ?_⟩
  · rw [search_pattern_list]
    cases rest : term.toList.flatMap Like.escaped ++ ['%'] with
    | nil => simp at rest
    | cons d more =>
        rw [Like.wellFormed, if_neg (by decide), ← rest, Like.well_formed_escaped]
        rfl
  · rw [Like.like_folded fold plain]
    exact found

theorem lower_plain : Like.Plain Char.toLower := by
  intro special member c
  have letterless : special.isAlpha = false ∧ special.isUpper = false := by
    simp only [List.mem_cons, List.not_mem_nil, or_false] at member
    rcases member with rfl | rfl | rfl <;> exact ⟨rfl, rfl⟩
  obtain ⟨plain, small⟩ := letterless
  by_cases upper : c.isUpper = true
  · refine iff_of_false ?_ ?_
    · intro same
      have letter := Text.lower_letter c upper
      rw [same, plain] at letter
      cases letter
    · intro same
      rw [same, small] at upper
      cases upper
  · rw [Text.lower_same c upper]

theorem discount_found :
    Like.like '\\' (String.ofList (("%" ++ escapeLike "50%_Off\\" ++ "%").toList.map Char.toLower))
        (String.ofList ("Today: 50%_off\\ shoes".toList.map Char.toLower)) = true ↔
      "50%_Off\\".toList.map Char.toLower <:+: "Today: 50%_off\\ shoes".toList.map Char.toLower :=
  (search_literal Char.toLower "50%_Off\\" "Today: 50%_off\\ shoes").2.2 lower_plain

def summary (found : EmailRow × Link) : EmailSummary where
  id := found.1.id
  subject := found.1.data.subject
  fromAddress := found.1.data.fromAddr
  toAddress := found.1.data.toAddr
  receivedAt := stamp found.1.data.receivedAt
  isRead := found.2.isRead
  hasAttachments := found.1.data.hasAttachments
  sizeBytes := found.1.data.sizeBytes

def listEmails (inbox : Inbox) (address : AddressRow) (page : Page) (unreadOnly : Bool) (search : Option String) :
    EmailListResponse :=
  let found := (joined inbox address.id).filter (fun pair => (!unreadOnly || !pair.2.isRead) && searched executor search pair.1)
  let ordered := (Rows.arrange (fun pair => executor.place pair.2.id) found).mergeSort
    (fun a b => b.1.data.receivedAt ≤ a.1.data.receivedAt)
  let results := (ordered.drop ((page.page - 1) * page.perPage)).take page.perPage
  let totalPages := (found.length + page.perPage - 1) / page.perPage
  { emails := results.map summary
    total := found.length
    page := page.page
    perPage := page.perPage
    hasNext := page.page < totalPages
    hasPrev := 1 < page.page }

def attachmentInfo (file : FileRow) : AttachmentInfo := ⟨file.id, file.file.filename, file.file.contentType, file.file.sizeBytes⟩

def attachmentsOf (inbox : Inbox) (emailId : Uuid) : List FileRow :=
  Rows.arrange (fun file => executor.place file.id) (inbox.files.filter (fun file => file.emailId == emailId))

def emailDetail (inbox : Inbox) (row : EmailRow) (isRead : Bool) : EmailDetail where
  id := row.id
  messageId := row.data.messageID
  subject := row.data.subject
  fromAddress := row.data.fromAddr
  toAddress := row.data.toAddr
  rawHeaders := row.data.rawHeaders
  bodyPlain := row.data.bodyPlain
  bodyHtml := row.data.bodyHTML
  sizeBytes := row.data.sizeBytes
  dkimValid := row.data.dkimValid
  spfResult := row.data.spfResult
  dmarcResult := row.data.dmarcResult
  hasAttachments := row.data.hasAttachments
  receivedAt := stamp row.data.receivedAt
  isRead
  attachments := (attachmentsOf executor inbox row.id).map attachmentInfo

def getEmail (inbox : Inbox) (address : AddressRow) (emailId : Uuid) (markRead : Bool) (now : Store.Time) :
    Except HTTPException TokenResponse × Inbox :=
  match inbox.received address.id emailId with
  | none => (.error emailNotFound, inbox)
  | some (row, link) =>
      let seen := if markRead && !link.isRead then inbox.markRead link.id now else inbox
      (.ok (.email (emailDetail executor seen row (link.isRead || markRead))), seen)

def downloadRawEmail (inbox : Inbox) (address : AddressRow) (emailId : Uuid) : Except HTTPException TokenResponse :=
  match inbox.received address.id emailId with
  | none => .error emailNotFound
  | some (row, _) => .ok (.file
      { content := row.data.rawMessage
        mediaType := "message/rfc822"
        headers := [("Content-Disposition", "attachment; filename=\"" ++ uuidText emailId ++ ".eml\""), nosniff] })

def downloadAttachment (inbox : Inbox) (address : AddressRow) (emailId attachmentId : Uuid) :
    Except HTTPException TokenResponse :=
  match inbox.received address.id emailId with
  | none => .error emailNotFound
  | some _ => match inbox.files.find? (fun file => file.id == attachmentId && file.emailId == emailId) with
    | none => .error attachmentNotFound
    | some file => .ok (.file
        { content := file.file.data
          mediaType := mediaType python file.file.contentType
          headers := [("Content-Disposition", contentDisposition file.file.filename), nosniff] })

def deleteEmail (inbox : Inbox) (address : AddressRow) (emailId : Uuid) : Except HTTPException TokenResponse × Inbox :=
  match inbox.links.find? (fun link => link.emailId == emailId && link.addressId == address.id) with
  | none => (.error emailNotFound, inbox)
  | some recipient =>
      let flushed := inbox.deleteLinks (fun link => link.id == recipient.id)
      if flushed.linked emailId then (.ok .noContent, flushed)
      else (.ok .noContent, (flushed.deleteFiles (fun file => file.emailId == emailId)).deleteEmails
        (fun row => row.id == emailId))

def TokenRequest.answer (inbox : Inbox) (address : AddressRow) (now : Store.Time) :
    TokenRequest → Except HTTPException TokenResponse × Inbox
  | .info => (.ok (.info (addressInfo address)), inbox)
  | .listEmails page unreadOnly search => (.ok (.emails (Api.listEmails executor inbox address page unreadOnly search)), inbox)
  | .getEmail emailId markRead => Api.getEmail executor inbox address emailId markRead now
  | .downloadRaw emailId => (downloadRawEmail inbox address emailId, inbox)
  | .downloadAttachment emailId attachmentId => (Api.downloadAttachment python inbox address emailId attachmentId, inbox)
  | .deleteEmail emailId => Api.deleteEmail inbox address emailId

-- The rate limit of the router answers first.
def TokenRequest.handle (request : TokenRequest) (dependencies : Except HTTPException Unit) (token : String) (now : Store.Time)
    (inbox : Inbox) : Except HTTPException TokenResponse × Inbox :=
  match dependencies, getAddressByToken inbox token now with
  | .error refusal, _ => (.error refusal, inbox)
  | .ok (), .error refusal => (.error refusal, inbox)
  | .ok (), .ok address => request.answer python executor inbox address now

end Routes

end Tempmail.Api
