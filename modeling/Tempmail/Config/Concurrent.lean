import Tempmail.Api.Atomicity
import Tempmail.Config.Commit
import Tempmail.Lib.Serial

set_option autoImplicit false

namespace Tempmail.Config

open Api (HTTPException Python)

namespace Phase

def wrote : Phase → Bool
  | .written _ => true
  | .reloaded => true
  | .answered (.ok ()) => true
  | _ => false

def settled : Phase → Bool
  | .reloaded => true
  | .answered (.ok ()) => true
  | _ => false

def failing : Phase → Bool
  | .reverting _ => true
  | .reverted => true
  | .answered (.error _) => true
  | _ => false

end Phase

variable (yaml : Yaml) (python : Python) {Client : Type} [DecidableEq Client] (requests : Client → AdminRequest)

-- The request's change of what was there, in a form PyYAML and reload_settings take.
structure Commits (client : Client) (before after : Value) : Prop where
  change : (requests client).change python before = .ok after
  accepted : accepted after
  reads : yaml.Reads after

-- A handler about to write holds the change of what config.yaml now holds.
def UpToDate (world : World Client) (turn : Turn Client) : Prop :=
  ∀ config previous, world.phase turn.client = .staged config previous →
    ∃ current, readConfig yaml world.files = .ok current ∧
      (requests turn.client).change python current = .ok config ∧ accepted config

def ReadsBack (world : World Client) (turn : Turn Client) : Prop :=
  ∀ config previous, world.phase turn.client = .staged config previous → yaml.Reads config

structure Untouched (files : ConfigFiles) (world : World Client) : Prop where
  files : world.files = files
  unwritten : ∀ client, (world.phase client).wrote = false

structure Committed (files : ConfigFiles) (world : World Client) (done : List Client) (last : Client) (base current : Value) :
    Prop where
  read : readConfig yaml files = .ok base
  serial : Serial (Commits yaml python requests) base (done ++ [last]) current
  main : world.files.main = some (yaml.safeDump current)
  settled : (world.phase last).settled = true → world.settings = settingsOf current
  distinct : (done ++ [last]).Nodup
  wrote : ∀ client, client ∈ done ++ [last] ↔ (world.phase client).wrote = true

def Failing (world : World Client) : Prop := ∃ client, (world.phase client).failing = true

def Sound (files : ConfigFiles) (world : World Client) : Prop :=
  Failing world ∨ Untouched files world ∨ ∃ done last base current,
    Committed yaml python requests files world done last base current

theorem handlers_step (world : World Client) (turn : Turn Client) :
    ((handlers yaml python requests).step world turn).1 = advance yaml python requests world turn := rfl

section Entering

@[simp] theorem enter_files (world : World Client) (client : Client) (phase : Phase) :
  (world.enter client phase).files = world.files :=
  rfl

@[simp] theorem enter_settings (world : World Client) (client : Client) (phase : Phase) :
    (world.enter client phase).settings = world.settings := rfl

omit [DecidableEq Client] in
@[simp] theorem store_phase (world : World Client) (files : ConfigFiles) : (world.store files).phase = world.phase := rfl

omit [DecidableEq Client] in
@[simp] theorem adopt_phase (world : World Client) (settings : Settings) : (world.adopt settings).phase = world.phase := rfl

omit [DecidableEq Client] in
@[simp] theorem store_files (world : World Client) (files : ConfigFiles) : (world.store files).files = files := rfl

omit [DecidableEq Client] in
@[simp] theorem adopt_files (world : World Client) (settings : Settings) : (world.adopt settings).files = world.files := rfl

@[simp] theorem enter_store (world : World Client) (client : Client) (phase : Phase) (files : ConfigFiles) :
    (world.enter client phase).store files = (world.store files).enter client phase := rfl

@[simp] theorem enter_adopt (world : World Client) (client : Client) (phase : Phase) (settings : Settings) :
    (world.enter client phase).adopt settings = (world.adopt settings).enter client phase := rfl

@[simp] theorem enter_here (world : World Client) (client : Client) (phase : Phase) :
    (world.enter client phase).phase client = phase := by
  simp [World.enter]

theorem enter_other (world : World Client) (client other : Client) (phase : Phase) (apart : other ≠ client) :
    (world.enter client phase).phase other = world.phase other := by
  simp [World.enter, apart]

theorem enter_same (flag : Phase → Bool) (world : World Client) (client other : Client) (phase : Phase)
    (same : flag phase = flag (world.phase client)) :
    flag ((world.enter client phase).phase other) = flag (world.phase other) := by
  by_cases here : other = client
  · subst here
    rw [enter_here, same]
  · rw [enter_other world client other phase here]

@[simp] theorem enter_enter (world : World Client) (client : Client) (first second : Phase) :
    (world.enter client first).enter client second = world.enter client second := by
  simp [World.enter]

theorem enter_failing (world : World Client) (client : Client) (phase : Phase) (failing : phase.failing = true) :
    Failing (world.enter client phase) := ⟨client, by rw [enter_here, failing]⟩

end Entering

theorem sound_enter (files : ConfigFiles) (world : World Client) (client : Client) (phase : Phase)
    (same : phase.failing = false → phase.wrote = (world.phase client).wrote ∧ phase.settled = (world.phase client).settled)
    (sound : Untouched files world ∨ ∃ done last base current,
      Committed yaml python requests files world done last base current) :
    Sound yaml python requests files (world.enter client phase) := by
  by_cases failing : phase.failing = true
  · exact Or.inl (enter_failing world client phase failing)
  obtain ⟨sameWrote, sameSettled⟩ := same (by simpa using failing)
  have wrote := fun other => enter_same Phase.wrote world client other phase sameWrote
  rcases sound with untouched | ⟨done, last, base, current, committed⟩
  · refine Or.inr (Or.inl ⟨untouched.files, fun other => ?_⟩)
    rw [wrote, untouched.unwritten]
  · refine Or.inr (Or.inr
      ⟨done, last, base, current, committed.read, committed.serial, committed.main, ?_, committed.distinct, ?_⟩)
    · rw [enter_same Phase.settled world client last phase sameSettled]
      exact committed.settled
    · intro other
      rw [committed.wrote, wrote]

theorem failing_stays (world : World Client) (turn : Turn Client) (failing : Failing world) :
    Failing (advance yaml python requests world turn) := by
  obtain ⟨client, fails⟩ := failing
  by_cases here : turn.client = client
  · subst here
    unfold advance
    cases phase_eq : world.phase turn.client with
    | reverting previous => dsimp only; split <;> exact enter_failing _ _ _ rfl
    | reverted => exact enter_failing _ _ _ rfl
    | answered answer => exact ⟨turn.client, by rw [phase_eq] at fails; simpa [phase_eq] using fails⟩
    | _ => rw [phase_eq] at fails; cases fails
  · refine ⟨client, ?_⟩
    have apart : client ≠ turn.client := fun same => here same.symm
    have kept : (advance yaml python requests world turn).phase client = world.phase client := by
      unfold advance
      split <;> (try split) <;> simp [World.enter, apart]
    rw [kept, fails]

omit [DecidableEq Client] in
-- What the last writer left is what config.yaml reads as.
theorem committed_reads (files : ConfigFiles) (world : World Client) (done : List Client) (last : Client) (base current : Value)
    (committed : Committed yaml python requests files world done last base current) :
    opened yaml world.files.main = .ok current ∧ accepted current ∧ readConfig yaml world.files = .ok current := by
  obtain ⟨before, -, commits⟩ := Serial.last_commit base current done last committed.serial
  have parsed : opened yaml world.files.main = .ok current := by
    rw [committed.main]
    exact commits.reads
  exact ⟨parsed, commits.accepted, read_usable yaml world.files current parsed (reloadable_usable current commits.accepted.1)⟩

theorem begin_unwritten (request : AdminRequest) (files : ConfigFiles) :
    (begin yaml python request files).wrote = false ∧ (begin yaml python request files).settled = false := by
  unfold begin
  repeat' split
  all_goals exact ⟨rfl, rfl⟩

-- A write that lands puts the writer behind the ones before it.
theorem sound_write (files written : ConfigFiles) (world : World Client) (client : Client) (config previous : Value)
    (phase_eq : world.phase client = .staged config previous)
    (sound : Untouched files world ∨ ∃ done last base current, Committed yaml python requests files world done last base current)
    (before : Value) (read : readConfig yaml world.files = .ok before)
    (commits : Commits yaml python requests client before config)
    (landed : written.main = some (yaml.safeDump config)) :
    Sound yaml python requests files ((world.store written).enter client (.written previous)) := by
  have unwritten : (world.phase client).wrote = false := by rw [phase_eq]; rfl
  have main : ((world.store written).enter client (.written previous)).files.main = some (yaml.safeDump config) := landed
  refine Or.inr (Or.inr ?_)
  rcases sound with untouched | ⟨done, last, base, current, committed⟩
  · refine ⟨[], client, before, config, ?_, Serial.next [] client before config .none commits, main, ?_, by simp, ?_⟩
    · rw [← untouched.files, read]
    · simp [Phase.settled]
    · intro other
      by_cases here : other = client
      · subst here
        simp [Phase.wrote]
      · rw [enter_other _ client other _ here]
        simp [here, untouched.unwritten other]
  · have same : before = current := by
      rw [(committed_reads yaml python requests files world done last base current committed).2.2] at read
      exact (Except.ok.inj read).symm
    subst same
    have fresh : client ∉ done ++ [last] := fun member => by
      rw [committed.wrote, unwritten] at member
      cases member
    refine ⟨done ++ [last], client, base, config, committed.read,
      Serial.next _ client before config committed.serial commits, main,
      ?_, List.nodup_append.mpr ⟨committed.distinct, List.nodup_singleton client, ?_⟩, ?_⟩
    · simp [Phase.settled]
    · rintro member inOrder _ (_ | ⟨_, ⟨⟩⟩) rfl
      exact fresh inOrder
    · intro other
      by_cases here : other = client
      · subst here
        simp [Phase.wrote]
      · rw [enter_other _ client other _ here, List.mem_append, committed.wrote other]
        simp [here]

theorem sound_reload (files : ConfigFiles) (world : World Client) (turn : Turn Client) (previous : Value)
    (phase_eq : world.phase turn.client = .written previous)
    (sound : Untouched files world ∨ ∃ done last base current,
      Committed yaml python requests files world done last base current) :
    Sound yaml python requests files (advance yaml python requests world turn) := by
  rcases sound with untouched | ⟨done, last, base, current, committed⟩
  · have wrote := untouched.unwritten turn.client
    rw [phase_eq] at wrote
    cases wrote
  · obtain ⟨parsed, takes, -⟩ := committed_reads yaml python requests files world done last base current committed
    rw [advance, phase_eq]
    simp only [reload_accepted yaml world.files world.settings current parsed takes]
    refine Or.inr (Or.inr ⟨done, last, base, current, committed.read, committed.serial, committed.main, fun _ => rfl,
      committed.distinct, fun other => ?_⟩)
    rw [committed.wrote other, enter_same Phase.wrote]
    · rfl
    · rw [adopt_phase, phase_eq]
      rfl

theorem sound_step (files : ConfigFiles) (world : World Client) (turn : Turn Client)
    (upToDate : UpToDate yaml python requests world turn)
    (readsBack : ReadsBack yaml world turn) (sound : Sound yaml python requests files world) :
    Sound yaml python requests files (advance yaml python requests world turn) := by
  rcases sound with failing | sound
  · exact Or.inl (failing_stays yaml python requests world turn failing)
  cases phase_eq : world.phase turn.client with
  | received =>
      rw [advance, phase_eq]
      refine sound_enter yaml python requests files world turn.client _ (fun _ => ?_) sound
      rw [phase_eq]
      exact begin_unwritten yaml python (requests turn.client) world.files
  | edited config =>
      rw [advance, phase_eq]
      refine sound_enter yaml python requests files world turn.client _ (fun _ => ?_) sound
      rw [phase_eq]
      cases readConfig yaml world.files <;> exact ⟨rfl, rfl⟩
  | staged config previous =>
      obtain ⟨current, read, change, takes⟩ := upToDate config previous phase_eq
      have landed := write_ok yaml turn.disk world.files config
      rcases wrote : writeConfig yaml turn.disk world.files config with ⟨result, written⟩
      rw [wrote] at landed
      cases result with
      | error raised =>
          simp only [advance, phase_eq, wrote]
          exact Or.inl (enter_failing _ _ _ rfl)
      | ok done =>
          simp only [advance, phase_eq, wrote]
          exact sound_write yaml python requests files written world turn.client config previous phase_eq sound current read
            ⟨change, takes, readsBack config previous phase_eq⟩ (landed rfl)
  | written previous => exact sound_reload yaml python requests files world turn previous phase_eq sound
  | reloaded =>
      rw [advance, phase_eq]
      refine sound_enter yaml python requests files world turn.client _ (fun fine => ?_) sound
      rw [phase_eq]
      cases answer : (requests turn.client).respond yaml world.files with
      | ok done => exact ⟨rfl, rfl⟩
      | error refusal =>
          rw [answer] at fine
          cases fine
  | reverting previous =>
      exact Or.inl (failing_stays yaml python requests world turn ⟨turn.client, by rw [phase_eq]; rfl⟩)
  | reverted => exact Or.inl (failing_stays yaml python requests world turn ⟨turn.client, by rw [phase_eq]; rfl⟩)
  | answered answer =>
      rw [advance, phase_eq]
      exact Or.inr sound

theorem sound_run (files : ConfigFiles) (world : World Client) (turns : List (Turn Client))
    (upToDate : ∀ moment ∈ (handlers yaml python requests).trace world turns,
      UpToDate yaml python requests moment.before moment.event)
    (readsBack : ∀ moment ∈ (handlers yaml python requests).trace world turns, ReadsBack yaml moment.before moment.event)
    (sound : Sound yaml python requests files world) :
    Sound yaml python requests files ((handlers yaml python requests).final world turns) := by
  induction turns generalizing world with
  | nil => exact sound
  | cons turn rest ih =>
      have next := sound_step yaml python requests files world turn (upToDate _ List.mem_cons_self)
        (readsBack _ List.mem_cons_self) sound
      exact ih _ (fun moment member => upToDate moment (List.mem_cons_of_mem _ member))
        (fun moment member => readsBack moment (List.mem_cons_of_mem _ member)) next

section Uninterrupted

theorem assign_nested (config : Value) (program : List Assignment) (settings : Settings) (name : Attribute) (outer key : String)
    (fallback : Value) (done : (assign config program settings).1 = .ok ()) (member : .nested name outer key fallback ∈ program) :
    ∃ nested value, config.get outer (.map []) = .ok nested ∧ nested.get key fallback = .ok value := by
  induction program generalizing settings with
  | nil => cases member
  | cons assignment rest ih =>
      unfold assign at done
      cases ran : assignment.run config settings with
      | error raised =>
          rw [ran] at done
          cases done
      | ok next =>
          rw [ran] at done
          rcases List.mem_cons.mp member with here | later
          · subst here
            cases inner : config.get outer (.map []) with
            | error raised => simp [Assignment.run, inner, bind, Except.bind] at ran
            | ok nested =>
                cases read : nested.get key fallback with
                | error raised => simp [Assignment.run, inner, read, bind, Except.bind] at ran
                | ok value => exact ⟨nested, value, rfl, read⟩
          · exact ih next done later

theorem accepted_masked (config : Value) (takes : accepted config) : masked config = .ok () := by
  obtain ⟨nested, value, inner, read⟩ :=
    assign_nested config assignments blank .databaseUrl "database" "url" (.str "") takes.2 (by simp [assignments])
  cases nested with
  | map entries =>
      rw [masked, inner]
      rfl
  | _ => cases read

theorem accepted_respond (request : AdminRequest) (files : ConfigFiles) (config : Value)
    (read : readConfig yaml files = .ok config)
    (takes : accepted config) : request.respond yaml files = .ok () := by
  cases request with
  | updateConfig patch => simp [AdminRequest.respond, read, bind, Except.bind, accepted_masked config takes, uncaught]
  | _ => rfl

theorem begin_change (request : AdminRequest) (files : ConfigFiles) (before after : Value)
    (read : readConfig yaml files = .ok before)
    (change : request.change python before = .ok after) : begin yaml python request files = .edited after := by
  unfold begin
  unfold AdminRequest.change at change
  cases prepared : request.prepare python with
  | error refusal => simp [prepared, bind, Except.bind] at change
  | ok ready =>
      have edited : ready.edit python before = .ok after := by simpa [prepared, bind, Except.bind] using change
      simp only [read, edited]

structure Follows (order : List Client) (current : Value) (world : World Client) : Prop where
  read : readConfig yaml world.files = .ok current
  left : order ≠ [] → world.files.main = some (yaml.safeDump current) ∧ world.settings = settingsOf current
  answered : ∀ client ∈ order, world.phase client = .answered (.ok ())
  waiting : ∀ client, client ∉ order → world.phase client = .received

section Turns

variable (client : Client) (world : World Client)

theorem turn_begin (disk : Disk) (before after : Value) (phase_eq : world.phase client = .received)
    (read : readConfig yaml world.files = .ok before) (change : (requests client).change python before = .ok after) :
    advance yaml python requests world ⟨client, disk⟩ = world.enter client (.edited after) := by
  simp only [advance, phase_eq, begin_change yaml python (requests client) world.files before after read change]

theorem turn_stage (disk : Disk) (config previous : Value) (phase_eq : world.phase client = .edited config)
    (read : readConfig yaml world.files = .ok previous) :
    advance yaml python requests world ⟨client, disk⟩ = world.enter client (.staged config previous) := by
  simp only [advance, phase_eq, read]

theorem turn_write (config previous : Value) (phase_eq : world.phase client = .staged config previous) :
    advance yaml python requests world ⟨client, .fine⟩ =
      (world.store ⟨some (yaml.safeDump config), copyBackup .fine world.files⟩).enter client (.written previous) := by
  rw [advance, phase_eq]
  rfl

theorem turn_reload (disk : Disk) (config previous : Value) (phase_eq : world.phase client = .written previous)
    (parsed : opened yaml world.files.main = .ok config) (takes : accepted config) :
    advance yaml python requests world ⟨client, disk⟩ = (world.adopt (settingsOf config)).enter client .reloaded := by
  simp only [advance, phase_eq, reload_accepted yaml world.files world.settings config parsed takes]

theorem turn_respond (disk : Disk) (config : Value) (phase_eq : world.phase client = .reloaded)
    (read : readConfig yaml world.files = .ok config) (takes : accepted config) :
    advance yaml python requests world ⟨client, disk⟩ = world.enter client (.answered (.ok ())) := by
  simp only [advance, phase_eq, accepted_respond yaml (requests client) world.files config read takes]

end Turns

def World.commit (world : World Client) (config : Value) : World Client :=
  (world.store ⟨some (yaml.safeDump config), copyBackup .fine world.files⟩).adopt (settingsOf config)

section Alone

variable (client : Client) (before after : Value) (world : World Client) (waiting : world.phase client = .received)
  (read : readConfig yaml world.files = .ok before) (commits : Commits yaml python requests client before after)

include waiting read commits

theorem uninterrupted_turns :
    advance yaml python requests world ⟨client, .fine⟩ = world.enter client (.edited after) ∧
      advance yaml python requests (world.enter client (.edited after)) ⟨client, .fine⟩ =
        world.enter client (.staged after before) ∧
      advance yaml python requests (world.enter client (.staged after before)) ⟨client, .fine⟩ =
        (world.store ⟨some (yaml.safeDump after), copyBackup .fine world.files⟩).enter client (.written before) ∧
      advance yaml python requests
          ((world.store ⟨some (yaml.safeDump after), copyBackup .fine world.files⟩).enter client
            (.written before)) ⟨client, .fine⟩ =
        (world.commit yaml after).enter client .reloaded ∧
      advance yaml python requests ((world.commit yaml after).enter client .reloaded) ⟨client, .fine⟩ =
        (world.commit yaml after).enter client (.answered (.ok ())) := by
  let written : ConfigFiles := ⟨some (yaml.safeDump after), copyBackup .fine world.files⟩
  have parsed : opened yaml written.main = .ok after := commits.reads
  have rereads := read_usable yaml written after parsed (reloadable_usable after commits.accepted.1)
  have begun := turn_begin yaml python requests client world .fine before after waiting read commits.change
  have staged := turn_stage yaml python requests client
    (world.enter client (.edited after)) .fine after before (enter_here ..) read
  have wrote := turn_write yaml python requests client (world.enter client (.staged after before)) after before (enter_here ..)
  have reloaded := turn_reload yaml python requests client
    ((world.store written).enter client (.written before)) .fine after before
    (enter_here ..) parsed commits.accepted
  have responded := turn_respond yaml python requests client ((world.commit yaml after).enter client .reloaded) .fine after
    (enter_here ..) rereads commits.accepted
  simp only [enter_files, enter_store, enter_adopt, enter_enter] at staged wrote reloaded responded
  exact ⟨begun, staged, wrote, reloaded, responded⟩

theorem uninterrupted_final :
    (handlers yaml python requests).final world (uninterrupted client) =
      (world.commit yaml after).enter client (.answered (.ok ())) := by
  obtain ⟨begun, staged, wrote, reloaded, responded⟩ :=
    uninterrupted_turns yaml python requests client before after world waiting read commits
  simp only [uninterrupted, List.replicate, Machine.final_cons, Machine.final_nil, handlers_step, begun, staged, wrote, reloaded,
    responded]

theorem uninterrupted_upToDate (moment : Machine.Moment (World Client) (Turn Client) Unit)
    (member : moment ∈ (handlers yaml python requests).trace world (uninterrupted client)) :
    UpToDate yaml python requests moment.before moment.event ∧ ReadsBack yaml moment.before moment.event := by
  obtain ⟨begun, staged, wrote, reloaded, responded⟩ :=
    uninterrupted_turns yaml python requests client before after world waiting read commits
  simp only [uninterrupted, List.replicate, Machine.trace, handlers_step, begun, staged, wrote, reloaded, List.mem_cons,
    List.not_mem_nil, or_false] at member
  unfold UpToDate ReadsBack
  rcases member with rfl | rfl | rfl | rfl | rfl
  · simp [waiting]
  · simp
  · constructor
    · intro config previous here
      cases (enter_here world client _).symm.trans here
      exact ⟨before, read, commits.change, commits.accepted⟩
    · intro config previous here
      cases (enter_here world client _).symm.trans here
      exact commits.reads
  · simp
  · simp

end Alone

omit [DecidableEq Client] in
theorem commit_read (world : World Client) (client : Client) (before after : Value)
    (commits : Commits yaml python requests client before after) : readConfig yaml (world.commit yaml after).files = .ok after :=
  read_usable yaml _ after commits.reads (reloadable_usable after commits.accepted.1)

theorem uninterrupted_follows (done : List Client) (client : Client) (before after : Value) (world : World Client)
    (apart : client ∉ done) (commits : Commits yaml python requests client before after)
    (follows : Follows yaml done before world) :
    Follows yaml (done ++ [client]) after ((handlers yaml python requests).final world (uninterrupted client)) := by
  rw [uninterrupted_final yaml python requests client before after world (follows.waiting client apart) follows.read commits]
  constructor
  · exact commit_read yaml python requests world client before after commits
  · exact fun _ => ⟨rfl, rfl⟩
  · intro other member
    by_cases here : other = client
    · rw [here, enter_here]
    · rw [enter_other _ client other _ here]
      exact follows.answered other (by simpa [here] using member)
  · intro other absent
    rw [List.mem_append, not_or] at absent
    have apart : other ≠ client := by simpa using absent.2
    rw [enter_other _ client other _ apart]
    exact follows.waiting other absent.1

end Uninterrupted

def oneAfterAnother (order : List Client) : List (Turn Client) := order.flatMap uninterrupted

theorem one_after_another_follows (files : ConfigFiles) (settings : Settings) (base current : Value) (order : List Client)
    (read : readConfig yaml files = .ok base) (serial : Serial (Commits yaml python requests) base order current)
    (distinct : order.Nodup) :
    Follows yaml order current ((handlers yaml python requests).final (arrive files settings) (oneAfterAnother order)) := by
  have initial : Follows yaml [] base (arrive files settings : World Client) :=
    ⟨read, fun none => absurd rfl none, by simp, fun _ _ => rfl⟩
  exact Serial.run (handlers yaml python requests) uninterrupted (Follows yaml) (uninterrupted_follows yaml python requests) base
    current order serial distinct _ initial

-- The handlers of the order, run without interruption, succeed and leave the file and
-- the settings that these turns left.
structure LikeSerial (start : World Client) (turns : List (Turn Client)) (order : List Client) : Prop where
  succeeded : ∀ client, ((handlers yaml python requests).final start (oneAfterAnother order)).phase client = .answered (.ok ())
  main : ((handlers yaml python requests).final start (oneAfterAnother order)).files.main =
    ((handlers yaml python requests).final start turns).files.main
  settings : ((handlers yaml python requests).final start (oneAfterAnother order)).settings =
    ((handlers yaml python requests).final start turns).settings

theorem successes_serial (files : ConfigFiles) (settings : Settings) (turns : List (Turn Client)) [Nonempty Client]
    (upToDate : ∀ moment ∈ (handlers yaml python requests).trace (arrive files settings) turns,
      UpToDate yaml python requests moment.before moment.event)
    (readsBack : ∀ moment ∈ (handlers yaml python requests).trace (arrive files settings) turns,
      ReadsBack yaml moment.before moment.event)
    (succeeded : ∀ client,
      ((handlers yaml python requests).final (arrive files settings) turns).phase client = .answered (.ok ())) :
    ∃ order : List Client, order.Nodup ∧ (∀ client, client ∈ order) ∧
      LikeSerial yaml python requests (arrive files settings) turns order := by
  have started : Sound yaml python requests files (arrive files settings : World Client) :=
    Or.inr (Or.inl ⟨rfl, fun _ => rfl⟩)
  rcases sound_run yaml python requests files _ turns upToDate readsBack started with
    ⟨client, failing⟩ | untouched | ⟨done, last, base, current, committed⟩
  · rw [succeeded] at failing
    cases failing
  · have unwritten := untouched.unwritten (Classical.arbitrary Client)
    rw [succeeded] at unwritten
    cases unwritten
  · have everyone : ∀ client, client ∈ done ++ [last] := fun client => by
      rw [committed.wrote, succeeded]
      rfl
    have follows := one_after_another_follows yaml python requests files settings base current (done ++ [last]) committed.read
      committed.serial committed.distinct
    obtain ⟨main, set⟩ := follows.left (by simp)
    refine ⟨done ++ [last], committed.distinct, everyone, ⟨fun client => follows.answered client (everyone client), ?_, ?_⟩⟩
    · rw [committed.main]
      exact main
    · rw [committed.settled (by rw [succeeded]; rfl)]
      exact set

inductive Side where
  | first
  | second
deriving DecidableEq, Repr

instance : Nonempty Side := ⟨.first⟩

theorem side_orders (order : List Side) (distinct : order.Nodup) (everyone : ∀ side, side ∈ order) :
    order = [.first, .second] ∨ order = [.second, .first] := by
  have first := everyone .first
  have second := everyone .second
  match order with
  | [] => cases first
  | [_] => cases (List.mem_singleton.mp first).trans (List.mem_singleton.mp second).symm
  | [a, b] => cases a <;> cases b <;> simp_all
  | a :: b :: c :: rest => cases a <;> cases b <;> cases c <;> simp_all

def turnsOf (sides : List Side) : List (Turn Side) := sides.map (fun side => ⟨side, .fine⟩)

def overlapping : List (Turn Side) :=
  turnsOf [.first, .second, .first, .second, .first, .first, .first, .second, .second, .second]

-- What the first handler wrote is gone, whatever the two requests are.
theorem overlapping_overwrites (requests : Side → AdminRequest) (files : ConfigFiles) (settings : Settings) (base one two : Value)
    (read : readConfig yaml files = .ok base) (first : Commits yaml python requests .first base one)
    (second : Commits yaml python requests .second base two) :
    (∀ side, ((handlers yaml python requests).final (arrive files settings) overlapping).phase side = .answered (.ok ())) ∧
      ((handlers yaml python requests).final (arrive files settings) overlapping).files.main = some (yaml.safeDump two) ∧
      ((handlers yaml python requests).final (arrive files settings) overlapping).settings = settingsOf two := by
  let start : World Side := arrive files settings
  let left : ConfigFiles := ⟨some (yaml.safeDump one), copyBackup .fine files⟩
  let right : ConfigFiles := ⟨some (yaml.safeDump two), copyBackup .fine left⟩
  have parsedLeft : opened yaml left.main = .ok one := first.reads
  have parsedRight : opened yaml right.main = .ok two := second.reads
  have readLeft := read_usable yaml left one parsedLeft (reloadable_usable one first.accepted.1)
  have readRight := read_usable yaml right two parsedRight (reloadable_usable two second.accepted.1)
  let firstRead := start.enter .first (.edited one)
  let secondRead := firstRead.enter .second (.edited two)
  let firstStaged := secondRead.enter .first (.staged one base)
  let secondStaged := firstStaged.enter .second (.staged two base)
  let firstWrote := (secondStaged.store left).enter .first (.written base)
  let firstReloaded := (firstWrote.adopt (settingsOf one)).enter .first .reloaded
  let firstDone := firstReloaded.enter .first (.answered (.ok ()))
  let secondWrote := (firstDone.store right).enter .second (.written base)
  let secondReloaded := (secondWrote.adopt (settingsOf two)).enter .second .reloaded
  let secondDone := secondReloaded.enter .second (.answered (.ok ()))
  have turn₁ : advance yaml python requests start ⟨.first, .fine⟩ = firstRead :=
    turn_begin yaml python requests .first start .fine base one rfl read first.change
  have turn₂ : advance yaml python requests firstRead ⟨.second, .fine⟩ = secondRead :=
    turn_begin yaml python requests .second firstRead .fine base two rfl read second.change
  have turn₃ : advance yaml python requests secondRead ⟨.first, .fine⟩ = firstStaged :=
    turn_stage yaml python requests .first secondRead .fine one base rfl read
  have turn₄ : advance yaml python requests firstStaged ⟨.second, .fine⟩ = secondStaged :=
    turn_stage yaml python requests .second firstStaged .fine two base rfl read
  have turn₅ : advance yaml python requests secondStaged ⟨.first, .fine⟩ = firstWrote :=
    turn_write yaml python requests .first secondStaged one base rfl
  have turn₆ : advance yaml python requests firstWrote ⟨.first, .fine⟩ = firstReloaded :=
    turn_reload yaml python requests .first firstWrote .fine one base rfl parsedLeft first.accepted
  have turn₇ : advance yaml python requests firstReloaded ⟨.first, .fine⟩ = firstDone :=
    turn_respond yaml python requests .first firstReloaded .fine one rfl readLeft first.accepted
  have turn₈ : advance yaml python requests firstDone ⟨.second, .fine⟩ = secondWrote :=
    turn_write yaml python requests .second firstDone two base rfl
  have turn₉ : advance yaml python requests secondWrote ⟨.second, .fine⟩ = secondReloaded :=
    turn_reload yaml python requests .second secondWrote .fine two base rfl parsedRight second.accepted
  have turn₁₀ : advance yaml python requests secondReloaded ⟨.second, .fine⟩ = secondDone :=
    turn_respond yaml python requests .second secondReloaded .fine two rfl readRight second.accepted
  have final_eq : (handlers yaml python requests).final start overlapping = secondDone := by
    simp only [overlapping, turnsOf, List.map_cons, List.map_nil, Machine.final_cons, Machine.final_nil, handlers_step]
    rw [turn₁, turn₂, turn₃, turn₄, turn₅, turn₆, turn₇, turn₈, turn₉, turn₁₀]
  rw [final_eq]
  exact ⟨fun side => by cases side <;> rfl, rfl, rfl⟩

def exampleFiles : ConfigFiles := ⟨some (bytes "domains:\n- a.org\n"), none⟩

def additions : Side → AdminRequest
  | .first => .addDomain "b.org"
  | .second => .addDomain "c.org"

theorem b_added : Commits blockYaml Api.asciiPython additions .first (listing ["a.org"]) (listing ["a.org", "b.org"]) :=
  ⟨rfl, ⟨rfl, rfl⟩, rfl⟩

theorem c_added : Commits blockYaml Api.asciiPython additions .second (listing ["a.org"]) (listing ["a.org", "c.org"]) :=
  ⟨rfl, ⟨rfl, rfl⟩, rfl⟩

theorem c_added_after_b :
    Commits blockYaml Api.asciiPython additions .second (listing ["a.org", "b.org"]) (listing ["a.org", "b.org", "c.org"]) :=
  ⟨rfl, ⟨rfl, rfl⟩, rfl⟩

theorem b_added_after_c :
    Commits blockYaml Api.asciiPython additions .first (listing ["a.org", "c.org"]) (listing ["a.org", "c.org", "b.org"]) :=
  ⟨rfl, ⟨rfl, rfl⟩, rfl⟩

theorem example_read : readConfig blockYaml exampleFiles = .ok (listing ["a.org"]) := rfl

theorem additions_in_turn (earlierSide laterSide : Side) (one two : List String) (apart : earlierSide ≠ laterSide)
    (earlier : Commits blockYaml Api.asciiPython additions earlierSide (listing ["a.org"]) (listing one))
    (later : Commits blockYaml Api.asciiPython additions laterSide (listing one) (listing two)) :
    Follows blockYaml [earlierSide, laterSide] (listing two)
      ((handlers blockYaml Api.asciiPython additions).final (arrive exampleFiles blank)
          (oneAfterAnother [earlierSide, laterSide])) := by
  have serial := Serial.next [earlierSide] laterSide _ _ (Serial.next [] earlierSide _ _ .none earlier) later
  exact one_after_another_follows blockYaml Api.asciiPython additions exampleFiles blank _ _ _ example_read serial
    (by simp [apart])

theorem additions_in_turn_clean (moment : Machine.Moment (World Side) (Turn Side) Unit)
    (member : moment ∈ (handlers blockYaml Api.asciiPython additions).trace (arrive exampleFiles blank)
      (oneAfterAnother [.first, .second])) :
    UpToDate blockYaml Api.asciiPython additions moment.before moment.event ∧ ReadsBack blockYaml moment.before moment.event := by
  have arrived : (arrive exampleFiles blank : World Side).phase .first = .received := rfl
  have waiting : (((arrive exampleFiles blank).commit blockYaml (listing ["a.org", "b.org"])).enter Side.first
      (.answered (.ok ()))).phase .second = .received := rfl
  have read := commit_read blockYaml Api.asciiPython additions (arrive exampleFiles blank) .first _ _ b_added
  rw [oneAfterAnother, List.flatMap_cons, List.flatMap_singleton, Machine.trace_append, List.mem_append,
    uninterrupted_final blockYaml Api.asciiPython additions .first _ _ _ arrived example_read b_added] at member
  rcases member with earlier | later
  · exact uninterrupted_upToDate blockYaml Api.asciiPython additions .first _ _ _ arrived example_read b_added moment earlier
  · exact uninterrupted_upToDate blockYaml Api.asciiPython additions .second _ _ _ waiting read c_added_after_b moment later

theorem config_updates_serial (requests : Side → AdminRequest) (files : ConfigFiles) (settings : Settings)
    (turns : List (Turn Side))
    (upToDate : ∀ moment ∈ (handlers yaml python requests).trace (arrive files settings) turns,
      UpToDate yaml python requests moment.before moment.event)
    (readsBack : ∀ moment ∈ (handlers yaml python requests).trace (arrive files settings) turns,
      ReadsBack yaml moment.before moment.event)
    (succeeded : ∀ side, ((handlers yaml python requests).final (arrive files settings) turns).phase side = .answered (.ok ())) :
    LikeSerial yaml python requests (arrive files settings) turns [.first, .second] ∨
      LikeSerial yaml python requests (arrive files settings) turns [.second, .first] := by
  obtain ⟨order, distinct, everyone, same⟩ :=
    successes_serial yaml python requests files settings turns upToDate readsBack succeeded
  rcases side_orders order distinct everyone with rfl | rfl
  · exact Or.inl same
  · exact Or.inr same

theorem additions_in_turn_serial :
    LikeSerial blockYaml Api.asciiPython additions (arrive exampleFiles blank)
      (oneAfterAnother [.first, .second]) [.first, .second] ∨
      LikeSerial blockYaml Api.asciiPython additions (arrive exampleFiles blank) (oneAfterAnother [.first, .second])
        [.second, .first] := by
  have follows := additions_in_turn .first .second _ _ (by decide) b_added c_added_after_b
  exact config_updates_serial blockYaml Api.asciiPython additions exampleFiles blank (oneAfterAnother [.first, .second])
    (fun moment member => (additions_in_turn_clean moment member).1)
    (fun moment member => (additions_in_turn_clean moment member).2)
    (fun side => follows.answered side (by cases side <;> simp))

theorem concurrent_addition_lost :
    (∀ side, ((handlers blockYaml Api.asciiPython additions).final (arrive exampleFiles blank) overlapping).phase side =
        .answered (.ok ())) ∧
      ∀ order ∈ [[Side.first, Side.second], [Side.second, Side.first]],
        ((handlers blockYaml Api.asciiPython additions).final (arrive exampleFiles blank) (oneAfterAnother order)).files.main ≠
          ((handlers blockYaml Api.asciiPython additions).final (arrive exampleFiles blank) overlapping).files.main := by
  obtain ⟨succeeded, lost, -⟩ :=
    overlapping_overwrites blockYaml Api.asciiPython additions exampleFiles blank _ _ _ example_read b_added c_added
  have bThenC := ((additions_in_turn .first .second _ _ (by decide) b_added c_added_after_b).left (by simp)).1
  have cThenB := ((additions_in_turn .second .first _ _ (by decide) c_added b_added_after_c).left (by simp)).1
  refine ⟨succeeded, fun order either => ?_⟩
  rw [lost]
  rcases List.mem_cons.mp either with rfl | either
  · rw [bThenC]
    decide
  · rw [List.mem_singleton.mp either, cThenB]
    decide

end Tempmail.Config
