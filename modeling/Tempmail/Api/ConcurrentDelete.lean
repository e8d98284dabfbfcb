import Tempmail.Api.TokenRoutes
import Tempmail.Lib.Machine
import Tempmail.Lib.RowLocks
import Tempmail.Store.Triggers

set_option autoImplicit false

namespace Tempmail.Api

open RowLocks (Locks free take release take_own_iff take_other_iff release_own release_other_iff)
open Store (AddressRow EmailRow FileRow Inbox Link Uuid)

inductive RowKey where
  | link (id : Uuid)
  | email (id : Uuid)
  | file (id : Uuid)
deriving DecidableEq

structure DeleteRequest where
  dependencies : Except HTTPException Unit
  token : String
  emailId : Uuid
  now : Store.Time

inductive DeletePhase where
  | received
  | verified (address : AddressRow)
  | selected (link : Link)
  | triggered (link : Link)
  | flushed (link : Link)
  | unreferenced (link : Link)
  | filesDeleted (link : Link)
  | finished (link : Link) (stillReferenced : Bool)
  | answered (answer : Except HTTPException Unit)

def DeletePhase.link : DeletePhase → Option Link
  | .selected link => some link
  | .triggered link => some link
  | .flushed link => some link
  | .unreferenced link => some link
  | .filesDeleted link => some link
  | .finished link _ => some link
  | _ => none

-- An open transaction's deletes are the rows it holds.
structure DeleteWorld (Client : Type) where
  committed : Inbox
  locks : Locks Client RowKey
  phase : Client → DeletePhase

section Statements

variable {Client : Type} [DecidableEq Client] (requests : Client → DeleteRequest)

namespace DeleteWorld

variable (world : DeleteWorld Client) (client : Client)

-- READ COMMITTED: a statement sees what is committed when it starts, less what
-- its own transaction has deleted.
def seen : Inbox :=
  world.committed.keep (fun row => world.locks (.email row.id) != some client)
    (fun link => world.locks (.link link.id) != some client)
    (fun file => world.locks (.file file.id) != some client)

def enter (phase : DeletePhase) : DeleteWorld Client := { world with phase := Function.update world.phase client phase }

def hold (rows : List RowKey) : DeleteWorld Client := { world with locks := take world.locks client rows }

def commit : DeleteWorld Client := { world with committed := world.seen client, locks := release world.locks client }

-- A DELETE waits while another transaction holds one of its rows.
def delete (rows : List RowKey) (next : DeletePhase) : DeleteWorld Client :=
  if free world.locks client rows then (world.hold client rows).enter client next else world

end DeleteWorld

-- DELETE FROM emails with the cascades to its links and attachments.
def dropRows (inbox : Inbox) (doomed : EmailRow → Bool) : List RowKey :=
  let dropped := inbox.emails.filter doomed
  dropped.map (fun row => .email row.id) ++
    (inbox.links.filter (fun link => dropped.any (fun row => row.id == link.emailId))).map (fun link => .link link.id) ++
    (inbox.files.filter (fun file => dropped.any (fun row => row.id == file.emailId))).map (fun file => .file file.id)

theorem delete_enter_here (world : DeleteWorld Client) (client : Client) (phase : DeletePhase) :
    (world.enter client phase).phase client = phase := Function.update_self ..

theorem delete_enter_other (world : DeleteWorld Client) (client other : Client) (phase : DeletePhase) (apart : other ≠ client) :
    (world.enter client phase).phase other = world.phase other := Function.update_of_ne apart ..

def advanceDelete (world : DeleteWorld Client) (client : Client) : DeleteWorld Client :=
  let request := requests client
  let seen := world.seen client
  match world.phase client with
  | .received => match request.dependencies, getAddressByToken seen request.token request.now with
      | .error refusal, _ => world.enter client (.answered (.error refusal))
      | .ok (), .error refusal => world.enter client (.answered (.error refusal))
      | .ok (), .ok address => world.enter client (.verified address)
  | .verified address => match seen.links.find? (fun link => link.emailId == request.emailId && link.addressId == address.id) with
      | none => world.enter client (.answered (.error emailNotFound))
      | some link => world.enter client (.selected link)
  | .selected link =>
      let removed := seen.links.filter (fun other => other.id == link.id)
      world.delete client (removed.map (fun other => .link other.id)) (if removed.isEmpty then .flushed link else .triggered link)
  | .triggered link =>
      world.delete client (dropRows seen (fun row => row.id == link.emailId && !seen.linked link.emailId)) (.flushed link)
  | .flushed link =>
      if seen.linked request.emailId then world.enter client (.finished link true) else world.enter client (.unreferenced link)
  | .unreferenced link =>
      let files := seen.files.filter (fun file => file.emailId == request.emailId)
      world.delete client (files.map (fun file => .file file.id)) (.filesDeleted link)
  | .filesDeleted link => world.delete client (dropRows seen (fun row => row.id == request.emailId)) (.finished link false)
  | .finished _ _ => (world.commit client).enter client (.answered (.ok ()))
  | .answered _ => world

def deletions : Machine (DeleteWorld Client) Client Unit where
  step world client := (advanceDelete requests world client, ())

def beforeDeletes (inbox : Inbox) : DeleteWorld Client := ⟨inbox, fun _ => none, fun _ => .received⟩

end Statements

section Rows

variable {Client : Type} [DecidableEq Client] (world : DeleteWorld Client) (client : Client)

def Owns (row : RowKey) : Prop := world.locks row = some client

def Unlinked (emailId : Uuid) : Prop := ∀ link ∈ world.committed.links, link.emailId = emailId → Owns world client (.link link.id)

theorem seen_link_iff (link : Link) :
    link ∈ (world.seen client).links ↔ link ∈ world.committed.links ∧ ¬ Owns world client (.link link.id) := by
  simp [DeleteWorld.seen, Inbox.keep, Owns]

theorem seen_email_iff (row : EmailRow) :
    row ∈ (world.seen client).emails ↔ row ∈ world.committed.emails ∧ ¬ Owns world client (.email row.id) := by
  simp [DeleteWorld.seen, Inbox.keep, Owns]

theorem seen_file_iff (file : FileRow) :
    file ∈ (world.seen client).files ↔ file ∈ world.committed.files ∧ ¬ Owns world client (.file file.id) := by
  simp [DeleteWorld.seen, Inbox.keep, Owns]

theorem seen_unlinked_iff (emailId : Uuid) : (world.seen client).linked emailId = false ↔ Unlinked world client emailId := by
  rw [Inbox.linked, List.any_eq_false]
  constructor
  · intro none link member same
    by_contra spared
    exact none link ((seen_link_iff world client link).mpr ⟨member, spared⟩) (by simpa using same)
  · intro unlinked link member same
    obtain ⟨known, spared⟩ := (seen_link_iff world client link).mp member
    exact spared (unlinked link known (by simpa using same))

variable (inbox : Inbox) (doomed : EmailRow → Bool)

theorem drop_rows_email (id : Uuid) :
    .email id ∈ dropRows inbox doomed ↔ ∃ row ∈ inbox.emails, doomed row = true ∧ row.id = id := by
  simp [dropRows, and_assoc]

theorem drop_rows_link (id : Uuid) : .link id ∈ dropRows inbox doomed ↔
    ∃ link ∈ inbox.links, link.id = id ∧ ∃ row ∈ inbox.emails, doomed row = true ∧ row.id = link.emailId := by
  simp only [dropRows, List.mem_append, List.mem_map, List.mem_filter, List.any_eq_true, beq_iff_eq, reduceCtorEq,
    and_false, exists_false,
    false_or, or_false, RowKey.link.injEq]
  grind

theorem drop_rows_file (id : Uuid) : .file id ∈ dropRows inbox doomed ↔
    ∃ file ∈ inbox.files, file.id = id ∧ ∃ row ∈ inbox.emails, doomed row = true ∧ row.id = file.emailId := by
  simp only [dropRows, List.mem_append, List.mem_map, List.mem_filter, List.any_eq_true, beq_iff_eq, reduceCtorEq,
    and_false, exists_false,
    false_or, or_false, RowKey.file.injEq]
  grind

end Rows

def DeletePhase.unreferencing : DeletePhase → Bool
  | .unreferenced _ => true
  | .filesDeleted _ => true
  | .finished _ stillReferenced => !stillReferenced
  | _ => false

section Invariant

variable {Client : Type} [DecidableEq Client] (start : Inbox)

structure Holds (request : DeleteRequest) (world : DeleteWorld Client) (client : Client) (phase : DeletePhase) : Prop where
  chosen : ∀ link, phase.link = some link → link ∈ start.links ∧ link.emailId = request.emailId
  own : ∀ id, Owns world client (.link id) → ∃ link ∈ world.committed.links, link.id = id ∧ phase.link = some link
  dropped : ∀ id, Owns world client (.email id) → id = request.emailId ∧ Unlinked world client id ∧
    ∀ file ∈ world.committed.files, file.emailId = id → Owns world client (.file file.id)
  files : ∀ file ∈ world.committed.files, Owns world client (.file file.id) → file.emailId = request.emailId ∧
    (Owns world client (.email file.emailId) ∨ ∃ link, phase = .filesDeleted link)
  unlinked : phase.unreferencing = true → Unlinked world client request.emailId
  gone : ∀ link, phase = .finished link false → ∀ row ∈ world.committed.emails, row.id = request.emailId →
    Owns world client (.email row.id)
  kept : ∀ link, phase = .finished link true → ¬ Owns world client (.email request.emailId)

structure Disciplined (requests : Client → DeleteRequest) (world : DeleteWorld Client) : Prop where
  links : ∀ link ∈ world.committed.links, link ∈ start.links
  linkEmail : ∀ link ∈ world.committed.links, ∃ row ∈ world.committed.emails, row.id = link.emailId
  fileEmail : ∀ file ∈ world.committed.files, ∃ row ∈ world.committed.emails, row.id = file.emailId
  whole : ∀ row ∈ world.committed.emails, world.committed.files.filter (fun file => file.emailId == row.id) =
    start.files.filter (fun file => file.emailId == row.id)
  holds : ∀ client, Holds start (requests client) world client (world.phase client)

omit [DecidableEq Client] in
theorem holds_undisturbed (request : DeleteRequest) (before after : DeleteWorld Client) (client : Client) (phase : DeletePhase)
    (owns : ∀ row, Owns after client row ↔ Owns before client row)
    (links : ∀ link ∈ after.committed.links, link ∈ before.committed.links)
    (emails : ∀ row ∈ after.committed.emails, row ∈ before.committed.emails)
    (files : ∀ file ∈ after.committed.files, file ∈ before.committed.files)
    (held : ∀ link ∈ before.committed.links, Owns before client (.link link.id) → link ∈ after.committed.links)
    (holds : Holds start request before client phase) : Holds start request after client phase := by
  have unlinked : ∀ emailId, Unlinked before client emailId → Unlinked after client emailId :=
    fun emailId all link member same => (owns _).mpr (all link (links link member) same)
  refine ⟨holds.chosen, ?_, ?_, ?_, fun unreferencing => unlinked _ (holds.unlinked unreferencing), ?_, ?_⟩
  · intro id mine
    obtain ⟨link, known, same, chosen⟩ := holds.own id ((owns _).mp mine)
    exact ⟨link, held link known (same ▸ (owns _).mp mine), same, chosen⟩
  · intro id mine
    obtain ⟨same, none, all⟩ := holds.dropped id ((owns _).mp mine)
    exact ⟨same, unlinked id none, fun file member here => (owns _).mpr (all file (files file member) here)⟩
  · intro file member mine
    obtain ⟨same, why⟩ := holds.files file (files file member) ((owns _).mp mine)
    exact ⟨same, why.imp_left (owns _).mpr⟩
  · intro link standing row member same
    exact (owns _).mpr (holds.gone link standing row (emails row member) same)
  · intro link standing mine
    exact holds.kept link standing ((owns _).mp mine)

omit [DecidableEq Client] in
theorem holds_steady (request : DeleteRequest) (before after : DeleteWorld Client) (client : Client) (phase : DeletePhase)
    (same : after.committed = before.committed) (owns : ∀ row, Owns after client row ↔ Owns before client row)
    (holds : Holds start request before client phase) : Holds start request after client phase := by
  refine holds_undisturbed start request before after client phase owns ?_ ?_ ?_ ?_ holds
  · exact fun link member => same ▸ member
  · exact fun row member => same ▸ member
  · exact fun file member => same ▸ member
  · exact fun link known _ => same ▸ known

omit [DecidableEq Client] in
theorem holds_carried (request : DeleteRequest) (world : DeleteWorld Client) (client : Client) (phase : DeletePhase)
    (holds : Holds start request world client phase) (working : ∀ link, phase ≠ .filesDeleted link) (file : FileRow)
    (member : file ∈ world.committed.files) (owned : Owns world client (.file file.id)) :
    file.emailId = request.emailId ∧ Owns world client (.email file.emailId) := by
  obtain ⟨same, email | ⟨link, standing⟩⟩ := holds.files file member owned
  · exact ⟨same, email⟩
  · exact absurd standing (working link)

section Hold

variable (request : DeleteRequest) (world : DeleteWorld Client) (client : Client) (rows : List RowKey) (phase next : DeletePhase)

omit [DecidableEq Client] in
theorem owns_hold_iff (row : RowKey) : Owns (world.hold client rows) client row ↔ row ∈ rows ∨ Owns world client row :=
  take_own_iff world.locks client rows row

omit [DecidableEq Client] in
-- One DELETE, by what its rows are.
theorem holds_hold (holds : Holds start request world client phase) (same : next.link = phase.link)
    (own : ∀ id, .link id ∈ rows → ∃ link ∈ world.committed.links, link.id = id ∧ phase.link = some link)
    (dropped : ∀ id, .email id ∈ rows → id = request.emailId ∧ Unlinked world client id ∧
      ∀ file ∈ world.committed.files, file.emailId = id → Owns (world.hold client rows) client (.file file.id))
    (files : ∀ file ∈ world.committed.files, .file file.id ∈ rows → file.emailId = request.emailId)
    (covered : ∀ file ∈ world.committed.files, Owns (world.hold client rows) client (.file file.id) →
      Owns (world.hold client rows) client (.email file.emailId) ∨ ∃ link, next = .filesDeleted link)
    (unlinked : next.unreferencing = true → Unlinked world client request.emailId)
    (gone : ∀ link, next = .finished link false → ∀ row ∈ world.committed.emails, row.id = request.emailId →
      Owns (world.hold client rows) client (.email row.id))
    (kept : ∀ link, next ≠ .finished link true) : Holds start request (world.hold client rows) client next := by
  have grows : ∀ row, Owns world client row → Owns (world.hold client rows) client row :=
    fun row mine => (owns_hold_iff world client rows row).mpr (Or.inr mine)
  have stays : ∀ emailId, Unlinked world client emailId → Unlinked (world.hold client rows) client emailId :=
    fun emailId all link member here => grows _ (all link member here)
  refine ⟨?_, ?_, ?_, ?_, fun unreferencing => stays _ (unlinked unreferencing), gone,
    fun link standing => absurd standing (kept link)⟩
  · intro link standing
    exact holds.chosen link (same ▸ standing)
  · intro id mine
    rw [same]
    rcases (owns_hold_iff world client rows _).mp mine with taken | before
    · exact own id taken
    · exact holds.own id before
  · intro id mine
    rcases (owns_hold_iff world client rows _).mp mine with taken | before
    · obtain ⟨here, none, all⟩ := dropped id taken
      exact ⟨here, stays id none, all⟩
    · obtain ⟨here, none, all⟩ := holds.dropped id before
      exact ⟨here, stays id none, fun file member same => grows _ (all file member same)⟩
  · intro file member mine
    refine ⟨?_, covered file member mine⟩
    rcases (owns_hold_iff world client rows _).mp mine with taken | before
    · exact files file member taken
    · exact (holds.files file member before).1

-- A DELETE on emails takes the one row asked for, when it has no link left, and
-- all its attachments.
theorem holds_drop (holds : Holds start request world client phase) (same : next.link = phase.link) (doomed : EmailRow → Bool)
    (bare : ∀ row ∈ (world.seen client).emails, doomed row = true → row.id = request.emailId ∧ Unlinked world client row.id)
    (covered : ∀ file ∈ world.committed.files, Owns world client (.file file.id) →
      Owns (world.hold client (dropRows (world.seen client) doomed)) client (.email file.emailId))
    (unlinked : next.unreferencing = true → Unlinked world client request.emailId)
    (gone : ∀ link, next = .finished link false → ∀ row ∈ world.committed.emails, row.id = request.emailId →
      Owns (world.hold client (dropRows (world.seen client) doomed)) client (.email row.id))
    (kept : ∀ link, next ≠ .finished link true) :
    Holds start request (world.hold client (dropRows (world.seen client) doomed)) client next := by
  have fileKey : ∀ file ∈ world.committed.files, .file file.id ∈ dropRows (world.seen client) doomed →
      ∃ row ∈ (world.seen client).emails, doomed row = true ∧ row.id = file.emailId := by
    intro file member taken
    obtain ⟨other, found, same, why⟩ := (drop_rows_file (world.seen client) doomed file.id).mp taken
    have known := ((seen_file_iff world client other).mp found).1
    rw [Rows.same_row FileRow.id world.committed.files world.committed.fileIds other file known member same] at why
    exact why
  refine holds_hold start request world client _ phase next holds same ?_ ?_ ?_ ?_ unlinked gone kept
  · intro id taken
    obtain ⟨link, found, -, row, member, falls, here⟩ := (drop_rows_link (world.seen client) doomed id).mp taken
    obtain ⟨known, spared⟩ := (seen_link_iff world client link).mp found
    exact absurd ((bare row member falls).2 link known here.symm) spared
  · intro id taken
    obtain ⟨row, member, falls, here⟩ := (drop_rows_email (world.seen client) doomed id).mp taken
    obtain ⟨mine, none⟩ := bare row member falls
    refine ⟨here ▸ mine, here ▸ none, fun file known same => (owns_hold_iff world client _ _).mpr ?_⟩
    by_cases before : Owns world client (.file file.id)
    · exact Or.inr before
    · refine Or.inl ((drop_rows_file (world.seen client) doomed file.id).mpr
        ⟨file, ?_, rfl, row, member, falls, here.trans same.symm⟩)
      exact (seen_file_iff world client file).mpr ⟨known, before⟩
  · intro file member taken
    obtain ⟨row, found, falls, here⟩ := fileKey file member taken
    exact here ▸ (bare row found falls).1
  · intro file member mine
    rcases (owns_hold_iff world client _ _).mp mine with taken | before
    · obtain ⟨row, found, falls, here⟩ := fileKey file member taken
      exact Or.inl ((owns_hold_iff world client _ _).mpr (Or.inl ((drop_rows_email _ _ _).mpr ⟨row, found, falls, here⟩)))
    · exact Or.inl (covered file member before)

end Hold

section Steps

variable (requests : Client → DeleteRequest) (world : DeleteWorld Client) (client : Client)
variable (disciplined : Disciplined start requests world)

include disciplined

theorem disciplined_enter (next : DeletePhase) (holds : Holds start (requests client) world client next) :
    Disciplined start requests (world.enter client next) := by
  refine ⟨disciplined.links, disciplined.linkEmail, disciplined.fileEmail, disciplined.whole, fun other => ?_⟩
  refine holds_steady start _ world _ other _ rfl (fun _ => Iff.rfl) ?_
  by_cases same : other = client
  · subst same
    rw [delete_enter_here]
    exact holds
  · rw [delete_enter_other _ _ _ _ same]
    exact disciplined.holds other

theorem disciplined_delete (rows : List RowKey) (next : DeletePhase)
    (holds : Holds start (requests client) (world.hold client rows) client next) :
    Disciplined start requests (world.delete client rows next) := by
  by_cases unheld : free world.locks client rows = true
  · rw [DeleteWorld.delete, if_pos unheld]
    refine ⟨disciplined.links, disciplined.linkEmail, disciplined.fileEmail, disciplined.whole, fun other => ?_⟩
    by_cases same : other = client
    · subst same
      rw [delete_enter_here]
      exact holds_steady start _ (world.hold other rows) _ other _ rfl (fun _ => Iff.rfl) holds
    · rw [delete_enter_other _ _ _ _ same]
      exact holds_steady start _ world _ other _ rfl (fun row => take_other_iff world.locks client other rows row same unheld)
        (disciplined.holds other)
  · rw [DeleteWorld.delete, if_neg unheld]
    exact disciplined

-- A row of the committed tables that the client has deleted is gone with what
-- refers to it.
theorem disciplined_commit (link : Link) (stillReferenced : Bool) (standing : world.phase client = .finished link stillReferenced)
    (answer : Except HTTPException Unit) :
    Disciplined start requests ((world.commit client).enter client (.answered answer)) := by
  have mine := disciplined.holds client
  have spared : ∀ row ∈ world.committed.emails, ¬ Owns world client (.email row.id) →
      ∀ file ∈ world.committed.files, file.emailId = row.id → ¬ Owns world client (.file file.id) := by
    intro row _ kept file member same owned
    rcases (mine.files file member owned).2 with email | waiting
    · exact kept (same ▸ email)
    · obtain ⟨other, impossible⟩ := waiting
      rw [standing] at impossible
      cases impossible
  have emailLeft : ∀ row ∈ world.committed.emails, ¬ Owns world client (.email row.id) → row ∈ (world.seen client).emails :=
    fun row member kept => (seen_email_iff world client row).mpr ⟨member, kept⟩
  refine ⟨?_, ?_, ?_, ?_, fun other => ?_⟩
  · intro link member
    exact disciplined.links link ((seen_link_iff world client link).mp member).1
  · intro link member
    obtain ⟨known, kept⟩ := (seen_link_iff world client link).mp member
    obtain ⟨row, found, same⟩ := disciplined.linkEmail link known
    exact ⟨row, emailLeft row found fun owned => kept ((mine.dropped row.id owned).2.1 link known same.symm), same⟩
  · intro file member
    obtain ⟨known, kept⟩ := (seen_file_iff world client file).mp member
    obtain ⟨row, found, same⟩ := disciplined.fileEmail file known
    exact ⟨row, emailLeft row found fun owned => kept ((mine.dropped row.id owned).2.2 file known same.symm), same⟩
  · intro row member
    obtain ⟨known, kept⟩ := (seen_email_iff world client row).mp member
    rw [← disciplined.whole row known]
    change (world.committed.files.filter _).filter _ = _
    refine Inbox.filter_kept _ _ _ fun file found same => ?_
    simpa [Owns] using spared row known kept file found (by simpa using same)
  · by_cases same : other = client
    · subst same
      have nothing : ∀ row, ¬ Owns ((world.commit other).enter other (.answered answer)) other row :=
        fun row => release_own world.locks other row
      rw [delete_enter_here]
      refine ⟨?_, fun id owned => absurd owned (nothing _), fun id owned => absurd owned (nothing _),
        fun file _ owned => absurd owned (nothing _), ?_, ?_, fun _ _ owned => nothing _ owned⟩
      · intro link chosen
        cases chosen
      · intro unreferencing
        cases unreferencing
      · intro link finished
        cases finished
    · rw [delete_enter_other _ _ _ _ same]
      refine holds_undisturbed start _ world _ other _
        (fun row => release_other_iff world.locks client other row same) ?_ ?_ ?_ ?_
        (disciplined.holds other)
      · exact fun link member => ((seen_link_iff world client link).mp member).1
      · exact fun row member => ((seen_email_iff world client row).mp member).1
      · exact fun file member => ((seen_file_iff world client file).mp member).1
      · intro link known owned
        refine (seen_link_iff world client link).mpr ⟨known, fun both => same ?_⟩
        exact Option.some.inj (owned.symm.trans both)

theorem settle_disciplined (next : DeletePhase) (bare : (world.phase client).link = none) (nextBare : next.link = none)
    (working : ∀ link, world.phase client ≠ .filesDeleted link) (idle : next.unreferencing = false)
    (unfinished : ∀ link flag, next ≠ .finished link flag) : Disciplined start requests (world.enter client next) := by
  have mine := disciplined.holds client
  refine disciplined_enter start requests world client disciplined next ⟨?_, ?_, mine.dropped, ?_, ?_, ?_, ?_⟩
  · intro link chosen
    rw [nextBare] at chosen
    cases chosen
  · intro id owned
    obtain ⟨link, -, -, chosen⟩ := mine.own id owned
    rw [bare] at chosen
    cases chosen
  · exact fun file member owned => (holds_carried start _ world client _ mine working file member owned).imp_right Or.inl
  · intro unreferencing
    rw [idle] at unreferencing
    cases unreferencing
  · exact fun link finished => absurd finished (unfinished link false)
  · exact fun link finished => absurd finished (unfinished link true)

theorem received_disciplined (standing : world.phase client = .received) :
    Disciplined start requests (advanceDelete requests world client) := by
  have bare : (world.phase client).link = none := by rw [standing]; rfl
  have working : ∀ link, world.phase client ≠ .filesDeleted link := fun _ => by rw [standing]; nofun
  simp only [advanceDelete, standing]
  split
  · exact settle_disciplined start requests world client disciplined _ bare rfl working rfl (fun _ _ => nofun)
  · exact settle_disciplined start requests world client disciplined _ bare rfl working rfl (fun _ _ => nofun)
  · exact settle_disciplined start requests world client disciplined _ bare rfl working rfl (fun _ _ => nofun)

theorem verified_disciplined (address : AddressRow) (standing : world.phase client = .verified address) :
    Disciplined start requests (advanceDelete requests world client) := by
  have mine := disciplined.holds client
  have bare : (world.phase client).link = none := by rw [standing]; rfl
  have working : ∀ link, world.phase client ≠ .filesDeleted link := fun _ => by rw [standing]; nofun
  simp only [advanceDelete, standing]
  split
  · exact settle_disciplined start requests world client disciplined _ bare rfl working rfl (fun _ _ => nofun)
  · rename_i link found
    obtain ⟨known, -⟩ := (seen_link_iff world client link).mp (List.mem_of_find?_eq_some found)
    have named := List.find?_some found
    rw [Bool.and_eq_true, beq_iff_eq] at named
    rw [standing] at mine
    refine disciplined_enter start requests world client disciplined _ ⟨?_, ?_, mine.dropped, ?_, nofun, nofun, nofun⟩
    · intro other chosen
      cases chosen
      exact ⟨disciplined.links link known, named.1⟩
    · intro id owned
      obtain ⟨_, -, -, chosen⟩ := mine.own id owned
      cases chosen
    · exact fun file member owned => (holds_carried start _ world client _ mine nofun file member owned).imp_right Or.inl

theorem selected_disciplined (link : Link) (standing : world.phase client = .selected link) :
    Disciplined start requests (advanceDelete requests world client) := by
  have mine := disciplined.holds client
  rw [standing] at mine
  obtain ⟨chosen, named⟩ := mine.chosen link rfl
  have removes : ∀ next : DeletePhase, next.link = some link → next.unreferencing = false →
      (∀ other flag, next ≠ .finished other flag) →
      Disciplined start requests (world.delete client
        (((world.seen client).links.filter (fun other => other.id == link.id)).map (fun other => .link other.id)) next) := by
    intro next same idle unfinished
    refine disciplined_delete start requests world client disciplined _ next
      (holds_hold start _ world client _ _ next mine same ?_ ?_ ?_ ?_ ?_ ?_ ?_)
    · intro id taken
      obtain ⟨other, found, here⟩ := List.mem_map.mp taken
      obtain ⟨seen, alike⟩ := List.mem_filter.mp found
      obtain ⟨known, -⟩ := (seen_link_iff world client other).mp seen
      have row := Rows.same_row Link.id start.links start.linkIds other link (disciplined.links other known) chosen
        (by simpa using alike)
      subst row
      exact ⟨other, known, RowKey.link.inj here, rfl⟩
    · intro id taken
      simp at taken
    · intro file _ taken
      simp at taken
    · intro file member owned
      rcases (owns_hold_iff world client _ _).mp owned with taken | before
      · simp at taken
      · have email := (holds_carried start _ world client _ mine nofun file member before).2
        exact Or.inl ((owns_hold_iff world client _ _).mpr (Or.inr email))
    · intro unreferencing
      rw [idle] at unreferencing
      cases unreferencing
    · exact fun other finished => absurd finished (unfinished other false)
    · exact fun other => unfinished other true
  simp only [advanceDelete, standing]
  split
  · exact removes _ rfl rfl (fun _ _ => nofun)
  · exact removes _ rfl rfl (fun _ _ => nofun)

theorem triggered_disciplined (link : Link) (standing : world.phase client = .triggered link) :
    Disciplined start requests (advanceDelete requests world client) := by
  have mine := disciplined.holds client
  rw [standing] at mine
  simp only [advanceDelete, standing]
  refine disciplined_delete start requests world client disciplined _ _
    (holds_drop start _ world client _ (.flushed link) mine rfl _ ?_ ?_ nofun nofun (fun _ => nofun))
  · intro row _ falls
    rw [Bool.and_eq_true, beq_iff_eq, Bool.not_eq_true'] at falls
    exact ⟨falls.1.trans (mine.chosen link rfl).2, falls.1 ▸ (seen_unlinked_iff world client _).mp falls.2⟩
  · intro file member owned
    exact (owns_hold_iff world client _ _).mpr (Or.inr (holds_carried start _ world client _ mine nofun file member owned).2)

theorem flushed_disciplined (link : Link) (standing : world.phase client = .flushed link) :
    Disciplined start requests (advanceDelete requests world client) := by
  have mine := disciplined.holds client
  rw [standing] at mine
  have carried := holds_carried start _ world client _ mine nofun
  simp only [advanceDelete, standing]
  split
  · rename_i linked
    refine disciplined_enter start requests world client disciplined _ ⟨mine.chosen, mine.own, mine.dropped,
      fun file member owned => (carried file member owned).imp_right Or.inl, nofun, nofun, fun _ _ owned => ?_⟩
    have none := (seen_unlinked_iff world client _).mpr (mine.dropped _ owned).2.1
    rw [none] at linked
    cases linked
  · rename_i none
    exact disciplined_enter start requests world client disciplined _ ⟨mine.chosen, mine.own, mine.dropped,
      fun file member owned => (carried file member owned).imp_right Or.inl,
      fun _ => (seen_unlinked_iff world client _).mp (by simpa using none), nofun, nofun⟩

theorem unreferenced_disciplined (link : Link) (standing : world.phase client = .unreferenced link) :
    Disciplined start requests (advanceDelete requests world client) := by
  have mine := disciplined.holds client
  rw [standing] at mine
  simp only [advanceDelete, standing]
  refine disciplined_delete start requests world client disciplined _ _
    (holds_hold start _ world client _ _ _ mine rfl ?_ ?_ ?_ (fun _ _ _ => Or.inr ⟨link, rfl⟩)
      (fun _ => mine.unlinked rfl) nofun (fun _ => nofun))
  · intro id taken
    simp at taken
  · intro id taken
    simp at taken
  · intro file member taken
    obtain ⟨other, found, same⟩ := List.mem_map.mp taken
    obtain ⟨seen, named⟩ := List.mem_filter.mp found
    obtain ⟨known, -⟩ := (seen_file_iff world client other).mp seen
    have row := Rows.same_row FileRow.id world.committed.files world.committed.fileIds other file known member
      (RowKey.file.inj same)
    subst row
    simpa using named

theorem files_deleted_disciplined (link : Link) (standing : world.phase client = .filesDeleted link) :
    Disciplined start requests (advanceDelete requests world client) := by
  have mine := disciplined.holds client
  rw [standing] at mine
  have none := mine.unlinked rfl
  have emailTaken : ∀ row ∈ world.committed.emails, row.id = (requests client).emailId →
      Owns (world.hold client
        (dropRows (world.seen client) (fun row => row.id == (requests client).emailId))) client (.email row.id) := by
    intro row member same
    refine (owns_hold_iff world client _ _).mpr ?_
    by_cases before : Owns world client (.email row.id)
    · exact Or.inr before
    · exact Or.inl ((drop_rows_email _ _ _).mpr
        ⟨row, (seen_email_iff world client row).mpr ⟨member, before⟩, by simpa using same, rfl⟩)
  simp only [advanceDelete, standing]
  refine disciplined_delete start requests world client disciplined _ _
    (holds_drop start _ world client _ (.finished link false) mine rfl _ ?_ ?_ (fun _ => none) (fun _ _ => emailTaken)
      (fun _ => nofun))
  · intro row _ falls
    rw [beq_iff_eq] at falls
    exact ⟨falls, falls ▸ none⟩
  · intro file member owned
    obtain ⟨row, found, same⟩ := disciplined.fileEmail file member
    exact same ▸ emailTaken row found (same.trans (mine.files file member owned).1)

theorem advance_disciplined : Disciplined start requests (advanceDelete requests world client) := by
  cases standing : world.phase client with
  | received => exact received_disciplined start requests world client disciplined standing
  | verified address => exact verified_disciplined start requests world client disciplined address standing
  | selected link => exact selected_disciplined start requests world client disciplined link standing
  | triggered link => exact triggered_disciplined start requests world client disciplined link standing
  | flushed link => exact flushed_disciplined start requests world client disciplined link standing
  | unreferenced link => exact unreferenced_disciplined start requests world client disciplined link standing
  | filesDeleted link => exact files_deleted_disciplined start requests world client disciplined link standing
  | finished link stillReferenced =>
      simp only [advanceDelete, standing]
      exact disciplined_commit start requests world client disciplined link stillReferenced standing _
  | answered answer =>
      simp only [advanceDelete, standing]
      exact disciplined

end Steps

end Invariant

section Orphans

variable {Client : Type} [DecidableEq Client] (start : Inbox) (requests : Client → DeleteRequest) (emailId : Uuid)

structure Settled (inbox : Inbox) : Prop where
  email : (∃ row ∈ inbox.emails, row.id = emailId) ↔ inbox.linked emailId = true
  files : inbox.files.filter (fun file => file.emailId == emailId) =
    if inbox.linked emailId then start.files.filter (fun file => file.emailId == emailId) else []

-- Where a transaction that deleted its link commits and leaves the message, the
-- reference that it found is still there.
def Current (world : DeleteWorld Client) (client : Client) : Prop :=
  ∀ link, world.phase client = .finished link true → (requests client).emailId = emailId → Owns world client (.link link.id) →
    (world.seen client).linked emailId = true

def current (world : DeleteWorld Client) (client : Client) : Bool :=
  match world.phase client with
  | .finished link true => (requests client).emailId != emailId || world.locks (.link link.id) != some client ||
      (world.seen client).linked emailId
  | _ => true

theorem current_checked (world : DeleteWorld Client) (client : Client) (checked : current requests emailId world client = true) :
    Current requests emailId world client := by
  intro link standing named owned
  rw [Owns] at owned
  simpa [current, standing, named, owned] using checked

variable (world : DeleteWorld Client) (client : Client)

theorem delete_committed (rows : List RowKey) (next : DeletePhase) :
    (world.delete client rows next).committed = world.committed := by
  rw [DeleteWorld.delete]
  split <;> rfl

theorem advance_committed (going : ∀ link flag, world.phase client ≠ .finished link flag) :
    (advanceDelete requests world client).committed = world.committed := by
  cases standing : world.phase client with
  | received =>
      simp only [advanceDelete, standing]
      split <;> rfl
  | verified address =>
      simp only [advanceDelete, standing]
      split <;> rfl
  | flushed link =>
      simp only [advanceDelete, standing]
      split <;> rfl
  | finished link flag => exact absurd standing (going link flag)
  | answered answer => simp only [advanceDelete, standing]
  | _ =>
      simp only [advanceDelete, standing]
      exact delete_committed world client _ _

variable (disciplined : Disciplined start requests world)

include disciplined

omit [DecidableEq Client] in
theorem settled_iff : Settled start emailId world.committed ↔
    ∀ row ∈ world.committed.emails, row.id = emailId → world.committed.linked emailId = true := by
  constructor
  · intro settled row member same
    exact settled.email.mp ⟨row, member, same⟩
  · intro linked
    refine ⟨⟨fun found => ?_, fun referenced => ?_⟩, ?_⟩
    · obtain ⟨row, member, same⟩ := found
      exact linked row member same
    · obtain ⟨link, member, same⟩ := List.any_eq_true.mp referenced
      exact (beq_iff_eq.mp same) ▸ disciplined.linkEmail link member
    · cases referenced : world.committed.linked emailId with
      | true =>
          obtain ⟨link, member, same⟩ := List.any_eq_true.mp referenced
          obtain ⟨row, known, named⟩ := disciplined.linkEmail link member
          rw [← beq_iff_eq.mp same, ← named]
          exact disciplined.whole row known
      | false =>
          refine List.filter_eq_nil_iff.mpr fun file member here => ?_
          obtain ⟨row, known, named⟩ := disciplined.fileEmail file member
          rw [linked row known (named.trans (beq_iff_eq.mp here))] at referenced
          cases referenced

-- One statement keeps the message and its links together exactly when it does
-- not commit on an answer that has passed.
theorem advance_settled_iff (settled : Settled start emailId world.committed) :
    Settled start emailId (advanceDelete requests world client).committed ↔ Current requests emailId world client := by
  have mine := disciplined.holds client
  rw [settled_iff start requests emailId _ (advance_disciplined start requests world client disciplined)]
  by_cases committing : ∃ link flag, world.phase client = .finished link flag
  · obtain ⟨link, flag, standing⟩ := committing
    have stored : (advanceDelete requests world client).committed = world.seen client := by
      simp only [advanceDelete, standing]
      rfl
    rw [stored]
    rw [standing] at mine
    constructor
    · intro linked other same named owned
      rw [standing, DeletePhase.finished.injEq] at same
      obtain ⟨rfl, rfl⟩ := same
      obtain ⟨_, known, -, chosen⟩ := mine.own link.id owned
      cases chosen
      obtain ⟨row, member, same⟩ := disciplined.linkEmail link known
      have here := same.trans ((mine.chosen link rfl).2.trans named)
      refine linked row ((seen_email_iff world client row).mpr ⟨member, fun gone => ?_⟩) here
      rw [here, ← named] at gone
      exact mine.kept link rfl gone
    · intro current row member same
      obtain ⟨known, spared⟩ := (seen_email_iff world client row).mp member
      obtain ⟨other, held, here⟩ := List.any_eq_true.mp (settled.email.mp ⟨row, known, same⟩)
      rw [beq_iff_eq] at here
      by_cases owned : Owns world client (.link other.id)
      · obtain ⟨found, kept, alike, chosen⟩ := mine.own other.id owned
        cases chosen
        have row_eq := Rows.same_row Link.id world.committed.links world.committed.linkIds link other kept held alike
        subst row_eq
        have named := (mine.chosen link rfl).2.symm.trans here
        cases flag with
        | true => exact current link standing named owned
        | false => exact absurd (mine.gone link rfl row known (same.trans named.symm)) spared
      · exact List.any_eq_true.mpr ⟨other, (seen_link_iff world client other).mpr ⟨held, owned⟩, by simpa using here⟩
  · have going : ∀ link flag, world.phase client ≠ .finished link flag :=
      fun link flag standing => committing ⟨link, flag, standing⟩
    rw [advance_committed requests world client going]
    refine iff_of_true (fun row member same => settled.email.mp ⟨row, member, same⟩) ?_
    exact fun link standing => absurd standing (going link true)

end Orphans

-- Along every interleaving the message is stored exactly as long as it is linked,
-- if and only if no transaction commits on an answer that has passed.
theorem no_orphan_iff {Client : Type} [DecidableEq Client] (requests : Client → DeleteRequest) (start : Inbox) (emailId : Uuid)
    (turns : List Client) (valid : Store.SchemaValid start.db) (linked : start.linked emailId = true) :
    (∀ earlier later, turns = earlier ++ later →
        Settled start emailId ((deletions requests).final (beforeDeletes start) earlier).committed) ↔
      ∀ moment ∈ (deletions requests).trace (beforeDeletes start) turns, Current requests emailId moment.before moment.event := by
  have linkEmail : ∀ link ∈ start.links, ∃ row ∈ start.emails, row.id = link.emailId :=
    fun link member => valid.linkEmail link.row (List.mem_map_of_mem member)
  have fileEmail : ∀ file ∈ start.files, ∃ row ∈ start.emails, row.id = file.emailId :=
    fun file member => valid.fileEmail ⟨file.emailId, file.file⟩ (List.mem_map.mpr ⟨file, member, rfl⟩)
  have initial : Disciplined start requests (beforeDeletes start) := by
    refine ⟨fun _ known => known, linkEmail, fileEmail, fun _ _ => rfl, fun client => ?_⟩
    exact ⟨nofun, nofun, nofun, nofun, nofun, nofun, nofun⟩
  refine Machine.held_iff_clear (deletions requests) (Disciplined start requests)
    (fun world => Settled start emailId world.committed)
    (Current requests emailId) ?_ ?_ (beforeDeletes start) turns initial ?_
  · exact fun world client disciplined => advance_disciplined start requests world client disciplined
  · exact fun world client disciplined settled => advance_settled_iff start requests emailId world client disciplined settled
  · exact (settled_iff start requests emailId (beforeDeletes start) initial).mpr fun _ _ _ => linked

section Sample

open Store (sampleAddress sized)

def sharedMessage : Inbox where
  addresses := [sampleAddress 7 "left@example.com" "left" .permanent none (by decide +kernel) (by decide +kernel),
    sampleAddress 8 "right@example.com" "right" .permanent none (by decide +kernel) (by decide +kernel)]
  emails := [sized 1 0 10]
  links := [⟨3, 1, 7, false, none⟩, ⟨4, 1, 8, false, none⟩]
  files := [⟨5, 1, ⟨"note.txt", "text/plain", 1, [0]⟩⟩]
  addressIds := by decide
  tokens := by decide +kernel
  emailIds := by decide
  linkIds := by decide
  linkPairs := by decide
  fileIds := by decide

def bothDelete : Bool → DeleteRequest
  | false => ⟨.ok (), "left", 1, 0⟩
  | true => ⟨.ok (), "right", 1, 0⟩

def leftThenRight : List Bool := List.replicate 8 false ++ List.replicate 8 true

def byTurns : List Bool := (List.replicate 8 [false, true]).flatten

theorem left_then_right_settled :
    Settled sharedMessage 1 ((deletions bothDelete).final (beforeDeletes sharedMessage) leftThenRight).committed := by
  refine (no_orphan_iff bothDelete sharedMessage 1 leftThenRight ?_ rfl).mpr ?_ leftThenRight [] rfl
  · exact ⟨by decide, by decide, by decide, by decide, by decide, by decide⟩
  · have checked : ((deletions bothDelete).trace (beforeDeletes sharedMessage) leftThenRight).all
        (fun moment => current bothDelete 1 moment.before moment.event) = true := by decide +kernel
    exact fun moment member => current_checked bothDelete 1 moment.before moment.event (List.all_eq_true.mp checked moment member)

-- Both are told that the message is deleted, and it stays with no mailbox.
theorem message_orphaned :
    Store.SchemaValid sharedMessage.db ∧
      (∀ client, ((deletions bothDelete).final (beforeDeletes sharedMessage) byTurns).phase client = .answered (.ok ())) ∧
      ((deletions bothDelete).final (beforeDeletes sharedMessage) byTurns).committed.emails = sharedMessage.emails ∧
      ((deletions bothDelete).final (beforeDeletes sharedMessage) byTurns).committed.files = sharedMessage.files ∧
      ((deletions bothDelete).final (beforeDeletes sharedMessage) byTurns).committed.linked 1 = false := by
  refine ⟨⟨by decide, by decide, by decide, by decide, by decide, by decide⟩,
    fun client => ?_, by decide +kernel, by decide +kernel,
    by decide +kernel⟩
  cases client <;> rfl

end Sample

end Tempmail.Api
