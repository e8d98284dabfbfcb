import Tempmail.Api.AdminLists
import Tempmail.Api.Isolation
import Tempmail.Api.ReadMarks
import Tempmail.Store.LetterHistory

set_option autoImplicit false

namespace Tempmail.Api

open Store (AddressRow EmailRow FileRow Inbox Letter Link Operation PostOffice Uuid)

section Office

variable (office : PostOffice) (inbox : Inbox) (tables : inbox.db = office.layout)

include tables

theorem table_links : inbox.links.map Link.row = office.letters.map Letter.link := congrArg Store.Db.recipients tables

theorem letter_link (letter : Letter) (member : letter ∈ office.letters) : ∃ link ∈ inbox.links, link.row = letter.link := by
  have held : letter.link ∈ inbox.links.map Link.row := by
    rw [table_links office inbox tables]
    exact List.mem_map_of_mem member
  exact List.mem_map.mp held

theorem link_letter (link : Link) (member : link ∈ inbox.links) : ∃ letter ∈ office.letters, letter.link = link.row := by
  have held : link.row ∈ office.letters.map Letter.link := by
    rw [← table_links office inbox tables]
    exact List.mem_map_of_mem member
  exact List.mem_map.mp held

theorem find_letter (letter : Letter) (member : letter ∈ office.letters) :
    inbox.emails.find? (fun row => row.id == letter.row.id) = some letter.row := by
  have emails : inbox.emails = office.layout.emails := congrArg Store.Db.emails tables
  rw [emails]
  exact PostOffice.find_row office letter member

theorem received_letter (addressId emailId : Uuid) (row : EmailRow) (link : Link) :
    inbox.received addressId emailId = some (row, link) ↔ ∃ letter ∈ office.letters, letter.mailbox = addressId ∧
      letter.row.id = emailId ∧ letter.row = row ∧ link ∈ inbox.links ∧ link.row = letter.link := by
  simp only [Store.Inbox.received, bind, Option.bind_eq_some_iff, find_link]
  constructor
  · rintro ⟨_, found, _, ⟨member, email, address⟩, same⟩
    cases same
    obtain ⟨letter, known, linked⟩ := link_letter office inbox tables link member
    have id : letter.row.id = emailId := (congrArg Store.RecipientRow.emailId linked).trans email
    have own := find_letter office inbox tables letter known
    rw [id, found] at own
    exact ⟨letter, known, (congrArg Store.RecipientRow.addressId linked).trans address, id,
      (Option.some.inj own).symm, member, linked.symm⟩
  · rintro ⟨letter, known, rfl, rfl, rfl, member, linked⟩
    exact ⟨letter.row, find_letter office inbox tables letter known, link,
      ⟨member, congrArg Store.RecipientRow.emailId linked, congrArg Store.RecipientRow.addressId linked⟩, rfl⟩

theorem no_letter (addressId emailId : Uuid)
    (absent : ∀ letter ∈ office.letters, letter.mailbox = addressId → letter.row.id ≠ emailId) :
    inbox.received addressId emailId = none := by
  cases found : inbox.received addressId emailId with
  | none => rfl
  | some pair =>
      obtain ⟨letter, known, mine, id, -⟩ := (received_letter office inbox tables addressId emailId pair.1 pair.2).mp found
      exact absurd id (absent letter known mine)

theorem joined_letter (addressId : Uuid) (pair : EmailRow × Link) :
    pair ∈ joined inbox addressId ↔ ∃ letter ∈ office.letters, letter.mailbox = addressId ∧ letter.row = pair.1 ∧
      pair.2 ∈ inbox.links ∧ pair.2.row = letter.link := by
  simp only [joined, List.mem_filterMap, List.mem_filter, beq_iff_eq, Option.map_eq_some_iff]
  constructor
  · rintro ⟨link, ⟨member, mine⟩, row, found, rfl⟩
    obtain ⟨letter, known, linked⟩ := link_letter office inbox tables link member
    have own := find_letter office inbox tables letter known
    rw [show letter.row.id = link.emailId from congrArg Store.RecipientRow.emailId linked, found] at own
    exact ⟨letter, known, (congrArg Store.RecipientRow.addressId linked).trans mine,
      (Option.some.inj own).symm, member, linked.symm⟩
  · rintro ⟨letter, known, rfl, same, member, linked⟩
    refine ⟨pair.2, ⟨member, congrArg Store.RecipientRow.addressId linked⟩, pair.1, ?_, rfl⟩
    rw [show pair.2.emailId = letter.row.id from congrArg Store.RecipientRow.emailId linked, ← same]
    exact find_letter office inbox tables letter known

theorem letter_file_rows (letter : Letter) (member : letter ∈ office.letters) :
    (inbox.files.filter (fun file => file.emailId == letter.row.id)).map FileRow.file = letter.files := by
  have attachments : inbox.files.map (fun file => (⟨file.emailId, file.file⟩ : Store.AttachmentRow)) =
    office.layout.attachments :=
    congrArg Store.Db.attachments tables
  rw [← PostOffice.letter_files office letter member, ← attachments, List.filter_map, List.map_map]
  rfl

end Office

section Serving

variable (python : Python) (executor : Executor) (inbox : Inbox) (ask : TokenRequest → Except HTTPException TokenResponse × Inbox)

-- A letter is shown with its fields and its files, and each of them is there to be
-- downloaded.
structure Readable (letter : Letter) : Prop where
  raw : ask (.downloadRaw letter.row.id) = (.ok (.file
    { content := letter.row.data.rawMessage
      mediaType := "message/rfc822"
      headers := [("Content-Disposition", "attachment; filename=\"" ++ uuidText letter.row.id ++ ".eml\""), nosniff] }), inbox)
  detail : ∀ markRead, ∃ link ∈ inbox.links, link.row = letter.link ∧ ∃ seen, ask (.getEmail letter.row.id markRead) =
    (.ok (.email (emailDetail executor seen letter.row (link.isRead || markRead))), seen) ∧
      ((attachmentsOf executor seen letter.row.id).map FileRow.file).Perm letter.files
  files : ∀ file ∈ letter.files, ∃ row ∈ attachmentsOf executor inbox letter.row.id, row.file = file ∧
    ask (.downloadAttachment letter.row.id row.id) = (.ok (.file
      { content := file.data
        mediaType := mediaType python file.contentType
        headers := [("Content-Disposition", contentDisposition file.filename), nosniff] }), inbox)

def TokenRequest.Names (emailId : Uuid) : TokenRequest → Prop
  | .getEmail id _ => id = emailId
  | .downloadRaw id => id = emailId
  | .downloadAttachment id _ => id = emailId
  | .deleteEmail id => id = emailId
  | _ => False

def pageOf (answer : Except HTTPException TokenResponse × Inbox) : Pages.Answer EmailSummary :=
  match answer.1 with
  | .ok (.emails response) => ⟨response.emails, response.total, response.hasNext⟩
  | _ => ⟨[], 0, false⟩

structure Listed (size : Page) (unreadOnly : Bool) (search : Option String) (has : Letter → Prop)
    (shown : List (EmailRow × Link)) : Prop where
  members : ∀ pair, pair ∈ shown ↔ pair.2 ∈ inbox.links ∧ (unreadOnly = true → pair.2.isRead = false) ∧
    searched executor search pair.1 = true ∧ ∃ letter, has letter ∧ letter.row = pair.1 ∧ pair.2.row = letter.link
  once : (shown.map (fun pair => pair.1.id)).Nodup
  newest : shown.Pairwise (fun a b => b.1.data.receivedAt ≤ a.1.data.receivedAt)
  walked : ∃ seen, Pages.Walk (fun number => pageOf (ask (.listEmails (size.turn number) unreadOnly search))) 1 seen
  pages : ∀ seen, Pages.Walk (fun number => pageOf (ask (.listEmails (size.turn number) unreadOnly search))) 1 seen →
    seen = shown.map summary

structure Serves (has : Letter → Prop) : Prop where
  readable : ∀ letter, has letter → Readable python executor inbox ask letter
  missing : ∀ emailId, (∀ letter, has letter → letter.row.id ≠ emailId) → ∀ request : TokenRequest, request.Names emailId →
    ask request = (.error emailNotFound, inbox)
  listed : ∀ size unreadOnly search, ∃ shown, Listed executor inbox ask size unreadOnly search has shown

end Serving

section Answers

variable (python : Python) (executor : Executor) (office : PostOffice) (inbox : Inbox) (tables : inbox.db = office.layout)
    (address : AddressRow) (now : Store.Time)

theorem received_files (file : FileRow) (emailId : Uuid) : file ∈ attachmentsOf executor inbox emailId ↔
    file ∈ inbox.files ∧ file.emailId = emailId := by
  rw [attachmentsOf, Rows.arrange, List.mem_mergeSort, List.mem_filter, beq_iff_eq]

theorem find_file (file : FileRow) (emailId : Uuid) (member : file ∈ attachmentsOf executor inbox emailId) :
    inbox.files.find? (fun other => other.id == file.id && other.emailId == emailId) = some file := by
  obtain ⟨known, mine⟩ := (received_files executor inbox file emailId).mp member
  obtain ⟨other, found⟩ :
    ∃ other, inbox.files.find? (fun other => other.id == file.id && other.emailId == emailId) = some other := by
    rw [← Option.isSome_iff_exists, List.find?_isSome]
    exact ⟨file, known, by simp [mine]⟩
  have holds := List.find?_some found
  rw [Bool.and_eq_true, beq_iff_eq] at holds
  rw [found, Rows.same_row FileRow.id inbox.files inbox.fileIds other file (List.mem_of_find?_eq_some found) known holds.1]

include tables

theorem letter_attachments (letter : Letter) (member : letter ∈ office.letters) :
    ((attachmentsOf executor inbox letter.row.id).map FileRow.file).Perm letter.files := by
  rw [← letter_file_rows office inbox tables letter member]
  exact (List.mergeSort_perm _ _).map FileRow.file

theorem letter_readable (letter : Letter) (member : letter ∈ office.letters) (mine : letter.mailbox = address.id) :
    Readable python executor inbox (fun request => request.answer python executor inbox address now) letter := by
  obtain ⟨link, known, linked⟩ := letter_link office inbox tables letter member
  have received := (received_letter office inbox tables address.id letter.row.id letter.row link).mpr
    ⟨letter, member, mine, rfl, rfl, known, linked⟩
  have attachments := letter_attachments executor office inbox tables letter member
  have file_rows : ∀ markRead, (if markRead && !link.isRead then inbox.markRead link.id now else inbox).files = inbox.files := by
    intro markRead
    split <;> rfl
  refine ⟨?_, fun markRead =>
    ⟨link, known, linked, if markRead && !link.isRead then inbox.markRead link.id now else inbox, ?_, ?_⟩,
    fun file inside => ?_⟩
  · simp only [TokenRequest.answer, downloadRawEmail, received]
  · simp only [TokenRequest.answer, getEmail, received]
  · rw [attachmentsOf, file_rows markRead]
    exact attachments
  · obtain ⟨row, listed, same⟩ := List.mem_map.mp (attachments.mem_iff.mpr inside)
    refine ⟨row, listed, same, ?_⟩
    simp only [TokenRequest.answer, Api.downloadAttachment, received, find_file executor inbox row letter.row.id listed, same]

theorem missing_letter (emailId : Uuid)
    (absent : ∀ letter, letter ∈ office.letters ∧ letter.mailbox = address.id → letter.row.id ≠ emailId) (request : TokenRequest)
    (names : request.Names emailId) : request.answer python executor inbox address now = (.error emailNotFound, inbox) := by
  have none_received := no_letter office inbox tables address.id emailId fun letter known mine => absent letter ⟨known, mine⟩
  cases request with
  | info => cases names
  | listEmails page unreadOnly search => cases names
  | getEmail id markRead =>
      cases names
      simp only [TokenRequest.answer, getEmail, none_received]
  | downloadRaw id =>
      cases names
      simp only [TokenRequest.answer, downloadRawEmail, none_received]
  | downloadAttachment id attachmentId =>
      cases names
      simp only [TokenRequest.answer, Api.downloadAttachment, none_received]
  | deleteEmail id =>
      cases names
      cases found : inbox.links.find? (fun link => link.emailId == emailId && link.addressId == address.id) with
      | none => simp only [TokenRequest.answer, Api.deleteEmail, found]
      | some link =>
          obtain ⟨member, email, owner⟩ := (find_link inbox address.id emailId link).mp found
          obtain ⟨letter, known, linked⟩ := link_letter office inbox tables link member
          have id : letter.row.id = link.emailId := congrArg Store.RecipientRow.emailId linked
          have mine : letter.mailbox = link.addressId := congrArg Store.RecipientRow.addressId linked
          exact absurd (id.trans email) (absent letter ⟨known, mine.trans owner⟩)

def servedRows (unreadOnly : Bool) (search : Option String) : List (EmailRow × Link) :=
  (Rows.arrange (fun pair => executor.place pair.2.id)
    (receivedRows executor.fold inbox address unreadOnly search)).mergeSort newestReceived

omit tables in
theorem searched_matches (search : Option String) (row : EmailRow) : searched executor search row =
    matchesSearch executor.fold search [row.data.subject, row.data.fromAddr, row.data.bodyPlain] := by
  cases search <;> rfl

omit tables in
theorem listed_rows (page : Page) (unreadOnly : Bool) (search : Option String) :
    Api.listEmails executor inbox address page unreadOnly search =
      listEmailsBy executor.fold
        (fun _ _ => servedRows executor inbox address unreadOnly search) inbox address page unreadOnly search := by
  simp only [Api.listEmails, listEmailsBy, servedRows, receivedRows, searched_matches, Pages.slice]
  rfl

omit tables in
theorem served_perm (unreadOnly : Bool) (search : Option String) :
    (servedRows executor inbox address unreadOnly search).Perm (receivedRows executor.fold inbox address unreadOnly search) :=
  (List.mergeSort_perm _ _).trans (List.mergeSort_perm _ _)

omit tables in
theorem served_page (size : Page) (unreadOnly : Bool) (search : Option String) (number : Nat) (counted : 1 ≤ number) :
    pageOf (TokenRequest.answer python executor inbox address now (.listEmails (size.turn number) unreadOnly search)) =
      Pages.answer summary size.perPage number (servedRows executor inbox address unreadOnly search) := by
  have page := turn_page size number counted
  have total := (served_perm executor inbox address unreadOnly search).length_eq
  have next := next_page_total number (receivedRows executor.fold inbox address unreadOnly search).length size.perPage size.filled
  simp only [TokenRequest.answer, pageOf, listed_rows, listEmailsBy, Pages.answer, page, total]
  simp only [Page.turn, next]

theorem served_listed (size : Page) (unreadOnly : Bool) (search : Option String) :
    Listed executor inbox (fun request => request.answer python executor inbox address now) size unreadOnly search
      (fun letter => letter ∈ office.letters ∧ letter.mailbox = address.id)
      (servedRows executor inbox address unreadOnly search) := by
  have rows := served_perm executor inbox address unreadOnly search
  have pages : ∀ number, 1 ≤ number →
      pageOf (TokenRequest.answer python executor inbox address now (.listEmails (size.turn number) unreadOnly search)) =
        Pages.answer summary size.perPage number (servedRows executor inbox address unreadOnly search) :=
    served_page python executor inbox address now size unreadOnly search
  refine ⟨fun pair => ?_, ?_, ?_, ?_, fun seen walk => ?_⟩
  · rw [rows.mem_iff, receivedRows, List.mem_filter, joined_letter office inbox tables, Bool.and_eq_true, Bool.or_eq_true,
      Bool.not_eq_true', Bool.not_eq_true', ← searched_matches]
    grind
  · exact (rows.map (fun pair => pair.1.id)).nodup_iff.mpr (received_distinct executor.fold inbox search address unreadOnly)
  · have sorted := (Pages.allowed_sort newestReceived newest_received_ranks _ _
      (List.Perm.refl (Rows.arrange (fun pair : EmailRow × Link => executor.place pair.2.id)
        (receivedRows executor.fold inbox address unreadOnly search)))).sorted
    exact sorted.imp fun newer => by simpa [newestReceived, newestEmail] using newer
  · obtain ⟨seen, walk⟩ := Pages.walk_ends summary size.perPage _ (fun _ => servedRows executor inbox address unreadOnly search)
      (fun _ => rfl) size.filled 1
    exact ⟨seen, Pages.walk_congr _ _ (fun number counted => (pages number counted).symm) 1 (Nat.le_refl 1) seen walk⟩
  · have whole := Pages.steady_walk summary size.perPage
      (servedRows executor inbox address unreadOnly search) 1 seen (Nat.le_refl 1)
      (Pages.walk_congr _ _ pages 1 (Nat.le_refl 1) seen walk)
    rwa [Nat.sub_self, Nat.zero_mul, List.drop_zero] at whole

theorem token_serves : Serves python executor inbox (fun request => request.answer python executor inbox address now)
    (fun letter => letter ∈ office.letters ∧ letter.mailbox = address.id) where
  readable letter own := letter_readable python executor office inbox tables address now letter own.1 own.2
  missing := missing_letter python executor office inbox tables address now
  listed size unreadOnly search := ⟨_, served_listed python executor office inbox tables address now size unreadOnly search⟩

end Answers

open Store Store.PostOffice in
-- What a token is served, after any run: the messages delivered to its mailbox and
-- not removed since.
theorem mail_served {IP : Type} (runes : Mx.Runes) (services : Mx.Services IP) (python : Python) (executor : Executor)
    (emailStr : String → Bool) (operations : List Operation)
    (genuine : ∀ operation ∈ operations, operation.Genuine) (inbox : Inbox)
    (tables : inbox.db = (mailboxes runes services python emailStr).final {} operations) (token : String) (now : Store.Time)
    (address : AddressRow) (opened : getAddressByToken inbox token now = .ok address) :
    Serves python executor inbox (fun request => request.handle python executor (.ok ()) token now inbox) (fun letter =>
      letter.mailbox = address.id ∧ ∃ before delivery after, operations = before ++ .storeEmail delivery :: after ∧
        ((offices runes services python).final empty before).Delivers runes services delivery letter ∧
        ∀ earlier operation later, after = earlier ++ operation :: later →
          ¬ ((offices runes services python).final empty
            (before ++ .storeEmail delivery :: earlier)).Removes python operation letter) := by
  rw [← empty_layout, run_layout runes services python emailStr empty operations genuine] at tables
  have answers : (fun request : TokenRequest => request.handle python executor (.ok ()) token now inbox) =
      fun request => request.answer python executor inbox address now := by
    funext request
    simp only [TokenRequest.handle, opened]
  have letters := reached_letters runes services python operations
  simp only [← letters, and_comm (a := _ = address.id)]
  rw [answers]
  exact token_serves python executor _ inbox tables address now

def aliceRun : List Operation := Store.aliceMade ++ [.storeEmail Store.greeting]

def aliceTables : Store.Db := (Store.mailboxes Mx.asciiRunes Mx.quietServices asciiPython plainEmailStr).final {} aliceRun

def aliceInbox : Inbox where
  addresses := aliceTables.addresses
  emails := aliceTables.emails
  links := [⟨11, 7, 1, false, none⟩]
  files := []
  addressIds := by decide
  tokens := by decide
  emailIds := by decide
  linkIds := by decide
  linkPairs := by decide
  fileIds := List.nodup_nil

theorem alice_run_genuine : ∀ operation ∈ aliceRun, operation.Genuine := by
  intro operation member
  simp only [aliceRun, Store.aliceMade, List.cons_append, List.nil_append, List.mem_cons, List.not_mem_nil, or_false] at member
  rcases member with made | stored
  · rw [made]
    exact trivial
  · rw [stored]
    exact trivial

theorem alice_served : ∃ address, getAddressByToken aliceInbox "token" 5 = .ok address ∧
    Serves asciiPython byId aliceInbox
      (fun request => request.handle asciiPython byId (.ok ()) "token" 5 aliceInbox) (fun letter =>
      letter.mailbox = address.id ∧ ∃ before delivery after, aliceRun = before ++ .storeEmail delivery :: after ∧
        ((Store.PostOffice.offices Mx.asciiRunes Mx.quietServices asciiPython).final Store.PostOffice.empty before).Delivers
          Mx.asciiRunes Mx.quietServices delivery letter ∧
        ∀ earlier operation later, after = earlier ++ operation :: later →
          ¬ ((Store.PostOffice.offices Mx.asciiRunes Mx.quietServices asciiPython).final Store.PostOffice.empty
            (before ++ .storeEmail delivery :: earlier)).Removes asciiPython operation letter) := by
  have opened : getAddressByToken aliceInbox "token" 5 = .ok (aliceTables.addresses.head (by decide)) := by decide
  exact ⟨_, opened, mail_served Mx.asciiRunes Mx.quietServices asciiPython byId plainEmailStr aliceRun alice_run_genuine
    aliceInbox rfl "token" 5 _ opened⟩

end Tempmail.Api
