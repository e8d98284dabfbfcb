import Tempmail.Web.IssueJobs

set_option autoImplicit false

namespace Tempmail.Web

open Api (Python)
open Config (lowerDomain)

namespace JobsWorld

structure Told (world : JobsWorld) : Prop where
  ran : ∀ handled ∈ world.handled, handled.step = processIssueJob ⟨"", handled.email, handled.domains⟩ ∧
    ∃ outcome, handled.result = handled.step.result outcome
  latest : world.result = world.handled.getLast?.map Handled.result

structure Bounded (world : JobsWorld) : Prop where
  present : world.sidecar ≠ .idle → world.issue.isSome = true
  runs : world.handled.length + (if world.issue.isSome ∧ world.sidecar ≠ .cleaning then 1 else 0) ≤ world.accepted.length

section Always

variable (python : Python) (emailStr : String → Except String String) (world : JobsWorld)

theorem request_frame (event : JobsEvent) (request : ∀ outcome, event ≠ .sidecar outcome) :
    (world.step python emailStr event).sidecar = world.sidecar ∧ (world.step python emailStr event).handled = world.handled ∧
      (world.step python emailStr event).result = world.result := by
  cases event with
  | check number settings now email =>
      simp only [step, check]
      split <;> exact ⟨rfl, rfl, rfl⟩
  | openTmp number =>
      simp only [step, openTmp]
      split
      · split <;> exact ⟨rfl, rfl, rfl⟩
      · exact ⟨rfl, rfl, rfl⟩
  | dump number torn =>
      simp only [step, dump]
      split <;> exact ⟨rfl, rfl, rfl⟩
  | replace number =>
      simp only [step, replace]
      split
      · split <;> exact ⟨rfl, rfl, rfl⟩
      · exact ⟨rfl, rfl, rfl⟩
  | fail number => exact ⟨rfl, rfl, rfl⟩
  | sidecar outcome => exact absurd rfl (request outcome)

theorem request_file (event : JobsEvent) (request : ∀ outcome, event ≠ .sidecar outcome) :
    ((world.step python emailStr event).issue = world.issue ∧
      (world.step python emailStr event).accepted = world.accepted) ∨
    (((world.step python emailStr event).issue.isSome = true) ∧
      ∃ job, (world.step python emailStr event).accepted = world.accepted ++ [job]) := by
  cases event with
  | check number settings now email =>
      simp only [step, check]
      split <;> exact Or.inl ⟨rfl, rfl⟩
  | openTmp number =>
      simp only [step, openTmp]
      split
      · split <;> exact Or.inl ⟨rfl, rfl⟩
      · exact Or.inl ⟨rfl, rfl⟩
  | dump number torn =>
      simp only [step, dump]
      split <;> exact Or.inl ⟨rfl, rfl⟩
  | replace number =>
      simp only [step, replace]
      split
      · split
        · exact Or.inr ⟨rfl, _, rfl⟩
        · exact Or.inl ⟨rfl, rfl⟩
      · exact Or.inl ⟨rfl, rfl⟩
  | fail number => exact Or.inl ⟨rfl, rfl⟩
  | sidecar outcome => exact absurd rfl (request outcome)

theorem advance_told (outcome : CertbotOutcome) (told : Told world) : Told (world.advance outcome) := by
  unfold advance
  cases phase : world.sidecar with
  | idle =>
      dsimp only
      split
      · exact ⟨told.ran, told.latest⟩
      · exact told
  | started => exact ⟨told.ran, told.latest⟩
  | readDomains domains => exact ⟨told.ran, told.latest⟩
  | running email domains =>
      refine ⟨?_, ?_⟩
      · intro handled member
        rcases List.mem_append.mp member with earlier | here
        · exact told.ran handled earlier
        · rw [List.mem_singleton.mp here]
          exact ⟨rfl, outcome, rfl⟩
      · simp
  | cleaning => exact ⟨told.ran, told.latest⟩

theorem step_told (event : JobsEvent) (told : Told world) : Told (world.step python emailStr event) := by
  by_cases request : ∀ outcome, event ≠ .sidecar outcome
  · obtain ⟨_, handled, result⟩ := request_frame python emailStr world event request
    refine ⟨?_, ?_⟩
    · rw [handled]
      exact told.ran
    · rw [handled, result]
      exact told.latest
  · simp only [ne_eq, not_forall, not_not] at request
    obtain ⟨outcome, same⟩ := request
    rw [same]
    exact advance_told world outcome told

theorem advance_bounded (outcome : CertbotOutcome) (bounded : Bounded world) : Bounded (world.advance outcome) := by
  have runs := bounded.runs
  have present : world.sidecar ≠ .idle → world.issue.isSome = true := bounded.present
  unfold advance
  cases phase : world.sidecar with
  | idle =>
      dsimp only
      split
      · rename_i issue
        rw [phase] at runs
        refine ⟨fun _ => issue, ?_⟩
        simpa [issue] using runs
      · exact bounded
  | started =>
      have issue := present (by rw [phase]; simp)
      rw [phase] at runs
      refine ⟨fun _ => issue, ?_⟩
      simpa [issue] using runs
  | readDomains domains =>
      have issue := present (by rw [phase]; simp)
      rw [phase] at runs
      refine ⟨fun _ => issue, ?_⟩
      simpa [issue] using runs
  | running email domains =>
      have issue := present (by rw [phase]; simp)
      rw [phase] at runs
      refine ⟨fun _ => issue, ?_⟩
      simpa [issue] using runs
  | cleaning =>
      rw [phase] at runs
      refine ⟨fun busy => absurd rfl busy, ?_⟩
      simpa using runs

theorem step_bounded (event : JobsEvent) (bounded : Bounded world) : Bounded (world.step python emailStr event) := by
  by_cases request : ∀ outcome, event ≠ .sidecar outcome
  · obtain ⟨sidecar, handled, _⟩ := request_frame python emailStr world event request
    rcases request_file python emailStr world event request with ⟨issue, accepted⟩ | ⟨issue, job, accepted⟩
    · refine ⟨?_, ?_⟩
      · rw [sidecar, issue]
        exact bounded.present
      · rw [handled, issue, sidecar, accepted]
        exact bounded.runs
    · refine ⟨fun _ => issue, ?_⟩
      have runs := bounded.runs
      rw [handled, accepted, List.length_append, List.length_singleton]
      split <;> omega
  · simp only [ne_eq, not_forall, not_not] at request
    obtain ⟨outcome, same⟩ := request
    rw [same]
    exact advance_bounded world outcome bounded

end Always

structure Sourced (Known : Job → Prop) (world : JobsWorld) : Prop where
  requests : ∀ n submission, world.requests n = some submission → Known submission.job
  files : ∀ file job, (world.files file).load = some job → Known job
  accepted : ∀ job ∈ world.accepted, Known job
  domains : ∀ domains, world.sidecar = .readDomains domains → domains = [] ∨ ∃ job, Known job ∧ domains = job.domains
  email : ∀ email domains, world.sidecar = .running email domains →
    (email = "" ∨ ∃ job, Known job ∧ email = job.email) ∧ (domains = [] ∨ ∃ job, Known job ∧ domains = job.domains)
  handled : ∀ handled ∈ world.handled,
    (handled.email = "" ∨ ∃ job, Known job ∧ handled.email = job.email) ∧
      (handled.domains = [] ∨ ∃ job, Known job ∧ handled.domains = job.domains)

section Sources

variable (Known : Job → Prop)

theorem empty_sourced : Sourced Known empty := by
  refine ⟨?_, ?_, ?_, ?_, ?_, ?_⟩
  · exact fun n submission same => by cases same
  · exact fun file job same => by cases same
  · exact fun job member => absurd member List.not_mem_nil
  · exact fun domains same => by cases same
  · exact fun email domains same => by cases same
  · exact fun handled member => absurd member List.not_mem_nil

variable (world : JobsWorld) (sourced : Sourced Known world)

include sourced

theorem sourced_more (More : Job → Prop) (more : ∀ job, Known job → More job) : Sourced More world := by
  refine ⟨?_, ?_, ?_, ?_, ?_, ?_⟩
  · exact fun n submission same => more _ (sourced.requests n submission same)
  · exact fun file job same => more _ (sourced.files file job same)
  · exact fun job member => more _ (sourced.accepted job member)
  · intro domains same
    exact (sourced.domains domains same).imp_right (Exists.imp fun job known => ⟨more job known.1, known.2⟩)
  · intro email domains same
    obtain ⟨address, names⟩ := sourced.email email domains same
    exact ⟨address.imp_right (Exists.imp fun job known => ⟨more job known.1, known.2⟩),
      names.imp_right (Exists.imp fun job known => ⟨more job known.1, known.2⟩)⟩
  · intro handled member
    obtain ⟨address, names⟩ := sourced.handled handled member
    exact ⟨address.imp_right (Exists.imp fun job known => ⟨more job known.1, known.2⟩),
      names.imp_right (Exists.imp fun job known => ⟨more job known.1, known.2⟩)⟩

theorem parsed_known (job : Job) (parsed : world.parsed = some job) : Known job := by
  obtain ⟨file, -, loaded⟩ := Option.bind_eq_some_iff.mp parsed
  exact sourced.files file job loaded

theorem noting_requests (number : Nat) (request : Option Submission)
    (known : ∀ submission, request = some submission → Known submission.job) (n : Nat) (submission : Submission)
    (here : (world.noting number request).requests n = some submission) : Known submission.job := by
  by_cases same : n = number
  · rw [same, noting_self] at here
    exact known submission here
  · rw [noting_other world number n request same] at here
    exact sourced.requests n submission here

theorem update_files (file : Nat) (content : JobFile) (known : ∀ job, content.load = some job → Known job)
    (other : Nat) (job : Job)
    (loaded : (Function.update world.files file content other).load = some job) : Known job := by
  by_cases same : other = file
  · rw [same, Function.update_self] at loaded
    exact known job loaded
  · rw [Function.update_of_ne same] at loaded
    exact sourced.files other job loaded

theorem check_sourced (python : Python) (emailStr : String → Except String String) (number : Nat) (settings : TlsSettings)
    (now : Nat) (email : String)
    (known : ∀ issued job, submit python emailStr settings world.issue.isSome now email = .ok (issued, job) → Known job) :
    Sourced Known (world.check python emailStr number settings now email) := by
  unfold check
  split
  · rename_i issued job unused passed
    refine ⟨?_, sourced.files, sourced.accepted, sourced.domains, sourced.email, sourced.handled⟩
    refine noting_requests Known world sourced number _ ?_
    intro submission same
    rw [← Option.some.inj same]
    exact known issued job passed
  · exact sourced

theorem open_sourced (number : Nat) : Sourced Known (world.openTmp number) := by
  have blank : ∀ job, JobFile.blank.load = some job → Known job := fun job loaded => by cases loaded
  unfold openTmp
  split
  · rename_i job active
    have known : Known job := sourced.requests number _ active
    split
    · rename_i file present
      refine ⟨?_, ?_, sourced.accepted, sourced.domains, sourced.email, sourced.handled⟩
      · refine noting_requests Known world sourced number (some (.opened job file)) ?_
        intro submission same
        rw [← Option.some.inj same]
        exact known
      · exact update_files Known world sourced file .blank blank
    · refine ⟨?_, ?_, sourced.accepted, sourced.domains, sourced.email, sourced.handled⟩
      · refine noting_requests Known world sourced number (some (.opened job world.next)) ?_
        intro submission same
        rw [← Option.some.inj same]
        exact known
      · exact update_files Known world sourced world.next .blank blank
  · exact sourced

theorem dump_sourced (number : Nat) (torn : Bool) : Sourced Known (world.dump number torn) := by
  unfold dump
  split
  · rename_i job file active
    have known : Known job := sourced.requests number _ active
    refine ⟨?_, ?_, sourced.accepted, sourced.domains, sourced.email, sourced.handled⟩
    · refine noting_requests Known world sourced number (some (.dumped job file)) ?_
      intro submission same
      rw [← Option.some.inj same]
      exact known
    · refine update_files Known world sourced file _ ?_
      intro written loaded
      split at loaded
      · cases loaded
      · rw [← Option.some.inj loaded]
        exact known
  · exact sourced

theorem replace_sourced (number : Nat) : Sourced Known (world.replace number) := by
  have gone : ∀ submission, (none : Option Submission) = some submission → Known submission.job := fun _ same => by cases same
  unfold replace
  split
  · rename_i job file active
    have known : Known job := sourced.requests number _ active
    split
    · refine ⟨noting_requests Known world sourced number none gone, sourced.files, ?_, sourced.domains, sourced.email,
        sourced.handled⟩
      intro given member
      rcases List.mem_append.mp member with earlier | here
      · exact sourced.accepted given earlier
      · rw [List.mem_singleton.mp here]
        exact known
    · exact ⟨noting_requests Known world sourced number none gone, sourced.files, sourced.accepted, sourced.domains,
        sourced.email, sourced.handled⟩
  · exact sourced

theorem fail_sourced (number : Nat) : Sourced Known (world.fail number) := by
  have gone : ∀ submission, (none : Option Submission) = some submission → Known submission.job := fun _ same => by cases same
  exact ⟨noting_requests Known world sourced number none gone, sourced.files, sourced.accepted, sourced.domains,
    sourced.email, sourced.handled⟩

theorem advance_sourced (outcome : CertbotOutcome) : Sourced Known (world.advance outcome) := by
  unfold advance
  cases phase : world.sidecar with
  | idle =>
      dsimp only
      split
      · exact ⟨sourced.requests, sourced.files, sourced.accepted, fun _ same => (by cases same), fun _ _ same => (by cases same),
          sourced.handled⟩
      · exact sourced
  | started =>
      refine ⟨sourced.requests, sourced.files, sourced.accepted, ?_, fun _ _ same => (by cases same), sourced.handled⟩
      intro domains same
      rw [← Sidecar.readDomains.inj same]
      cases read : world.parsed with
      | none => exact Or.inl rfl
      | some job => exact Or.inr ⟨job, parsed_known Known world sourced job read, rfl⟩
  | readDomains domains =>
      refine ⟨sourced.requests, sourced.files, sourced.accepted, fun _ same => (by cases same), ?_, sourced.handled⟩
      intro email names same
      obtain ⟨address, listed⟩ := Sidecar.running.inj same
      rw [← address, ← listed]
      refine ⟨?_, sourced.domains domains phase⟩
      cases read : world.parsed with
      | none => exact Or.inl rfl
      | some job => exact Or.inr ⟨job, parsed_known Known world sourced job read, rfl⟩
  | running email domains =>
      refine ⟨sourced.requests, sourced.files, sourced.accepted, fun _ same => (by cases same),
        fun _ _ same => (by cases same), ?_⟩
      intro handled member
      rcases List.mem_append.mp member with earlier | here
      · exact sourced.handled handled earlier
      · rw [List.mem_singleton.mp here]
        exact sourced.email email domains phase
  | cleaning =>
      exact ⟨sourced.requests, sourced.files, sourced.accepted, fun _ same => (by cases same), fun _ _ same => (by cases same),
        sourced.handled⟩

theorem step_sourced (python : Python) (emailStr : String → Except String String) (event : JobsEvent)
    (known : ∀ number settings now email issued job, event = .check number settings now email →
      submit python emailStr settings world.issue.isSome now email = .ok (issued, job) → Known job) :
    Sourced Known (world.step python emailStr event) := by
  cases event with
  | check number settings now email =>
      exact check_sourced Known world sourced python emailStr number settings now email
        (fun issued job passed => known number settings now email issued job rfl passed)
  | openTmp number => exact open_sourced Known world sourced number
  | dump number torn => exact dump_sourced Known world sourced number torn
  | replace number => exact replace_sourced Known world sourced number
  | fail number => exact fail_sourced Known world sourced number
  | sidecar outcome => exact advance_sourced Known world sourced outcome

end Sources

section Drained

variable (python : Python) (emailStr : String → Except String String) (world : JobsWorld)

def remaining (world : JobsWorld) : Nat :=
  if world.issue.isSome then
    match world.sidecar with
    | .idle => 5
    | .started => 4
    | .readDomains _ => 3
    | .running _ _ => 2
    | .cleaning => 1
  else 0

theorem advance_remaining (outcome : CertbotOutcome) (bounded : Bounded world) :
    (world.advance outcome).remaining = world.remaining - 1 := by
  have present : world.sidecar ≠ .idle → world.issue.isSome = true := bounded.present
  cases phase : world.sidecar with
  | idle =>
      by_cases issue : world.issue.isSome = true
      · simp [advance, remaining, phase, issue]
      · simp [advance, remaining, phase, issue]
  | started => simp [advance, remaining, phase, present (by rw [phase]; simp)]
  | readDomains domains => simp [advance, remaining, phase, present (by rw [phase]; simp)]
  | running email domains => simp [advance, remaining, phase, present (by rw [phase]; simp)]
  | cleaning => simp [advance, remaining, phase, present (by rw [phase]; simp)]

theorem remaining_zero (done : world.remaining = 0) : world.jobPending = false := by
  by_contra pending
  have issue : world.issue.isSome = true := by simpa [jobPending, Option.isSome_iff_ne_none] using pending
  rw [remaining, if_pos issue] at done
  split at done <;> omega

theorem advance_accepted (outcome : CertbotOutcome) : (world.advance outcome).accepted = world.accepted := by
  unfold advance
  split
  · split <;> rfl
  · rfl
  · rfl
  · rfl
  · rfl

theorem drained (outcomes : List CertbotOutcome) (bounded : Bounded world) (enough : world.remaining ≤ outcomes.length) :
    ((jobs python emailStr).final world (outcomes.map .sidecar)).jobPending = false ∧
      ((jobs python emailStr).final world (outcomes.map .sidecar)).accepted = world.accepted := by
  induction outcomes generalizing world with
  | nil => exact ⟨remaining_zero world (by simpa using enough), rfl⟩
  | cons outcome rest ih =>
      have next := advance_remaining world outcome bounded
      have reached : ((jobs python emailStr).step world (.sidecar outcome)).1 = world.advance outcome := rfl
      rw [List.length_cons] at enough
      rw [List.map_cons, Machine.final_cons, reached, ← advance_accepted world outcome]
      exact ih _ (advance_bounded world outcome bounded) (by omega)

theorem remaining_five : world.remaining ≤ 5 := by
  unfold remaining
  split
  · split <;> omega
  · omega

end Drained

theorem no_domains_refused (id email : String) : processIssueJob ⟨id, email, []⟩ = .refused invalidJob := by
  have none : domainLoop (Script.hereLines (Script.printed ([].map String.toList))) [] = some [] := by decide +kernel
  simp only [processIssueJob, none, List.isEmpty_nil, Bool.or_true, if_true]

section Runs

variable (python : Python) (emailStr : String → Except String String)

-- Each accepted job is answered once, in turn, and the answer shown is the last.
structure Served (world : JobsWorld) : Prop where
  once : world.accepted.map order = world.handled.map answered ++ world.waiting.map order
  ran : ∀ handled ∈ world.handled, handled.step = processIssueJob ⟨"", handled.email, handled.domains⟩ ∧
    ∃ outcome, handled.result = handled.step.result outcome
  latest : world.result = world.handled.getLast?.map Handled.result
  finished : world.jobPending = false → world.accepted.map order = world.handled.map answered

theorem served_of (world : JobsWorld) (serial : Serial world) (told : Told world) : Served world := by
  refine ⟨serial.once, told.ran, told.latest, ?_⟩
  intro idle
  have issue : world.issue = none := by simpa [jobPending] using idle
  have once := serial.once
  rw [waiting, parsed, issue] at once
  simpa using once

theorem empty_told : Told empty := ⟨fun _ member => absurd member List.not_mem_nil, rfl⟩

theorem empty_bounded : Bounded empty := ⟨fun busy => absurd rfl busy, Nat.le_refl 0⟩

theorem told_always (events : List JobsEvent) : Told ((jobs python emailStr).final empty events) :=
  ((jobs python emailStr).invariant_run Told (fun _ => True)
    (fun world event _ told => step_told python emailStr world event told)
    empty events (fun _ _ => trivial) empty_told).1

theorem bounded_always (events : List JobsEvent) : Bounded ((jobs python emailStr).final empty events) :=
  ((jobs python emailStr).invariant_run Bounded (fun _ => True)
    (fun world event _ bounded => step_bounded python emailStr world event bounded) empty events (fun _ _ => trivial)
    empty_bounded).1

theorem serial_clear (events : List JobsEvent)
    (clear : ∀ moment ∈ (jobs python emailStr).trace empty events, moment.before.Clear moment.event) :
    Serial ((jobs python emailStr).final empty events) :=
  (jobs python emailStr).invariant_along Serial Clear
    (fun world event allowed serial => step_serial world serial python emailStr event allowed) empty events clear empty_serial

theorem sidecar_clear (world : JobsWorld) (outcomes : List CertbotOutcome) :
    ∀ moment ∈ (jobs python emailStr).trace world (outcomes.map .sidecar), moment.before.Clear moment.event := by
  intro moment member
  have event : moment.event ∈ outcomes.map JobsEvent.sidecar := by
    rw [← Machine.trace_events (jobs python emailStr) world (outcomes.map .sidecar)]
    exact List.mem_map_of_mem member
  obtain ⟨outcome, -, same⟩ := List.mem_map.mp event
  rw [← same]
  trivial

theorem jobs_served_once (events : List JobsEvent)
    (clear : ∀ moment ∈ (jobs python emailStr).trace empty events, moment.before.Clear moment.event) :
    Served ((jobs python emailStr).final empty events) ∧
      ∀ outcomes : List CertbotOutcome, 5 ≤ outcomes.length →
        Served ((jobs python emailStr).final empty (events ++ outcomes.map .sidecar)) ∧
        ((jobs python emailStr).final empty (events ++ outcomes.map .sidecar)).handled.map answered =
          ((jobs python emailStr).final empty events).accepted.map order := by
  have served : ∀ more : List JobsEvent,
      (∀ moment ∈ (jobs python emailStr).trace empty more, moment.before.Clear moment.event) →
        Served ((jobs python emailStr).final empty more) := by
    intro more allowed
    exact served_of _ (serial_clear python emailStr more allowed) (told_always python emailStr more)
  refine ⟨served events clear, ?_⟩
  intro outcomes enough
  have later : ∀ moment ∈ (jobs python emailStr).trace empty (events ++ outcomes.map .sidecar),
      moment.before.Clear moment.event := by
    intro moment member
    rw [Machine.trace_append] at member
    rcases List.mem_append.mp member with first | second
    · exact clear moment first
    · exact sidecar_clear python emailStr _ outcomes moment second
  have after := served _ later
  obtain ⟨idle, accepted⟩ := drained python emailStr ((jobs python emailStr).final empty events) outcomes
    (bounded_always python emailStr events) (Nat.le_trans (remaining_five _) enough)
  rw [← Machine.final_append] at idle accepted
  refine ⟨after, ?_⟩
  rw [← after.finished idle, accepted]

def refusedRun : List JobsEvent :=
  [.check 0 sampleTls 0 "ops@example.com", .openTmp 0, .sidecar (.failed ""), .dump 0 false, .replace 0, .sidecar (.failed ""),
    .check 1 sampleTls 1 "web@example.com", .sidecar (.failed "")]

theorem refused_run_served :
    Served ((jobs Api.asciiPython sampleEmailStr).final empty refusedRun) ∧
      ∀ outcomes : List CertbotOutcome, 5 ≤ outcomes.length →
        Served ((jobs Api.asciiPython sampleEmailStr).final empty (refusedRun ++ outcomes.map .sidecar)) ∧
        ((jobs Api.asciiPython sampleEmailStr).final empty (refusedRun ++ outcomes.map .sidecar)).handled.map answered =
          ((jobs Api.asciiPython sampleEmailStr).final empty refusedRun).accepted.map order := by
  have pending : ((jobs Api.asciiPython sampleEmailStr).final empty (refusedRun.take 6)).issue.isSome = true := by decide +kernel
  refine jobs_served_once Api.asciiPython sampleEmailStr refusedRun ?_
  refine List.forall_mem_cons.mpr ⟨Or.inr (fun _ => rfl), ?_⟩
  refine List.forall_mem_cons.mpr ⟨trivial, List.forall_mem_cons.mpr ⟨trivial, List.forall_mem_cons.mpr ⟨trivial, ?_⟩⟩⟩
  refine List.forall_mem_cons.mpr ⟨trivial, List.forall_mem_cons.mpr ⟨trivial, List.forall_mem_cons.mpr ⟨Or.inl pending, ?_⟩⟩⟩
  exact List.forall_mem_cons.mpr ⟨trivial, fun moment member => absurd member List.not_mem_nil⟩

def Submitted (past : List (Machine.Moment JobsWorld JobsEvent Unit)) (job : Job) : Prop :=
  ∃ moment ∈ past, ∃ number settings now email issued, moment.event = .check number settings now email ∧
    submit python emailStr settings moment.before.issue.isSome now email = .ok (issued, job)

theorem sourced_always (events : List JobsEvent) :
    Sourced (Submitted python emailStr ((jobs python emailStr).trace empty events))
      ((jobs python emailStr).final empty events) := by
  have history := (jobs python emailStr).invariant_history (fun past world => Sourced (Submitted python emailStr past) world)
    (fun _ _ => True)
  refine history ?_ [] empty events (fun _ _ => trivial) (empty_sourced _)
  intro past world event _ sourced
  have more : ∀ job, Submitted python emailStr past job →
      Submitted python emailStr (past ++ [⟨world, event, ((jobs python emailStr).step world event).2⟩]) job := by
    intro job submitted
    obtain ⟨moment, member, known⟩ := submitted
    exact ⟨moment, List.mem_append_left _ member, known⟩
  refine step_sourced _ world (sourced_more _ world sourced _ more) python emailStr event ?_
  intro number settings now email issued job same passed
  exact ⟨_, List.mem_append_right _ List.mem_cons_self, number, settings, now, email, issued, same, passed⟩

-- However requests come between, certbot gets an address that one request gave
-- and the names of one request, each as a value, and runs once a submitted job
-- at most.
theorem jobs_from_requests (events : List JobsEvent) :
    (∀ handled ∈ ((jobs python emailStr).final empty events).handled, ∀ arguments, handled.step = .certbot arguments →
      ∃ first second, Submitted python emailStr ((jobs python emailStr).trace empty events) first ∧
        Submitted python emailStr ((jobs python emailStr).trace empty events) second ∧
        arguments = certbotArguments (String.ofList (Script.substitution (first.email.toList ++ ['\n'])))
          (second.domains.flatMap (fun domain => ["-d", domain])) ∧
        (∀ c ∈ Script.substitution (first.email.toList ++ ['\n']), isEmailChar c = true) ∧
        ∀ domain ∈ second.domains, lowerDomain domain.toList = true ∧ domain.toList.head? ≠ some '-') ∧
    (∀ job ∈ ((jobs python emailStr).final empty events).accepted,
      Submitted python emailStr ((jobs python emailStr).trace empty events) job) ∧
    ((jobs python emailStr).final empty events).handled.length ≤ ((jobs python emailStr).final empty events).accepted.length := by
  have sourced := sourced_always python emailStr events
  have told := told_always python emailStr events
  refine ⟨?_, sourced.accepted, Nat.le_trans (Nat.le_add_right ..) (bounded_always python emailStr events).runs⟩
  intro handled member arguments ran
  obtain ⟨address, names⟩ := sourced.handled handled member
  rw [(told.ran handled member).1] at ran
  rcases names with unread | ⟨second, submitted, listed⟩
  · rw [unread, no_domains_refused] at ran
    cases ran
  · have checked := submitted
    obtain ⟨_, _, _, settings, now, given, issued, _, passed⟩ := checked
    obtain ⟨_, nonempty, valid⟩ := submit_spec python emailStr settings _ now given issued second passed
    have invoked := process_submitted ⟨"", handled.email, second.domains⟩ nonempty valid
    rw [listed, invoked] at ran
    split at ran
    · cases ran
    · rename_i taken
      rcases address with empty | ⟨first, known, same⟩
      · have nothing : refused refusedEmails (Script.substitution ("".toList ++ ['\n'])) = true := by decide +kernel
        rw [empty] at taken
        exact absurd nothing taken
      · rw [same] at ran taken
        refine ⟨first, second, known, submitted, (JobStep.certbot.inj ran).symm, ?_, ?_⟩
        · intro c here
          by_contra other
          exact taken ((refused_email_iff _).mpr (Or.inr ⟨c, here, by simpa using other⟩))
        · exact fun domain member => ⟨valid domain member, domain_value _ (valid domain member)⟩

end Runs

-- Two requests that both look before either writes: one job is lost, and the
-- other runs with the address of one and the names of the other.
def overlappingRun : List JobsEvent :=
  [.check 0 sampleTls 0 "ops@example.com", .check 1 ⟨"mail.example.org", ""⟩ 1 "web@example.org", .openTmp 0,
    .dump 0 false, .replace 0,
    .sidecar (.failed ""), .sidecar (.failed ""), .openTmp 1, .dump 1 false, .replace 1, .sidecar (.failed ""),
    .sidecar (.issued "2024-05-01T00:00:00Z"), .sidecar (.failed "")]

example : ((jobs Api.asciiPython sampleEmailStr).final empty overlappingRun).accepted.length = 2 ∧
    ((jobs Api.asciiPython sampleEmailStr).final empty overlappingRun).handled.map answered =
      [("web@example.org", ["mx.example.com", "panel.example.com"])] ∧
    ((jobs Api.asciiPython sampleEmailStr).final empty overlappingRun).jobPending = false := by
  decide +kernel

end JobsWorld

end Tempmail.Web
