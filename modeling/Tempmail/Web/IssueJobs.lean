import Mathlib.Logic.Function.Basic
import Tempmail.Lib.Machine
import Tempmail.Web.Certbot

set_option autoImplicit false

namespace Tempmail.Web

open Api (Python)

structure IssueResult where
  ok : Bool
  message : String
  issuedAt : Option String
deriving DecidableEq, Repr

-- How a certbot run that is not cut short ends.
inductive CertbotOutcome where
  | issued (issuedAt : String)
  | failed (message : String)
deriving DecidableEq, Repr

def JobStep.result (step : JobStep) (outcome : CertbotOutcome) : IssueResult :=
  match step, outcome with
  | .refused message, _ => ⟨false, message, none⟩
  | .certbot _, .issued issuedAt => ⟨true, "certificate issued", some issuedAt⟩
  | .certbot _, .failed message => ⟨false, message, none⟩

-- A tls_issue request from its look at issue.json to os.replace: the temporary
-- file it has open is known by its inode.
inductive Submission where
  | checked (job : Job)
  | opened (job : Job) (file : Nat)
  | dumped (job : Job) (file : Nat)
deriving DecidableEq

def Submission.job : Submission → Job
  | .checked job => job
  | .opened job _ => job
  | .dumped job _ => job

-- Two writers of one file may leave the text of the one over a longer text of the other.
inductive JobFile where
  | blank
  | whole (job : Job)
  | torn
deriving DecidableEq

-- json.load; what cannot be parsed prints nothing.
def JobFile.load : JobFile → Option Job
  | .whole job => some job
  | _ => none

-- process_issue_job reads the file once for the domains and once for the email.
inductive Sidecar where
  | idle
  | started
  | readDomains (domains : List String)
  | running (email : String) (domains : List String)
  | cleaning
deriving DecidableEq

structure Handled where
  email : String
  domains : List String
  step : JobStep
  result : IssueResult
deriving DecidableEq

structure JobsWorld where
  requests : Nat → Option Submission
  files : Nat → JobFile
  next : Nat
  tmp : Option Nat
  issue : Option Nat
  sidecar : Sidecar
  result : Option IssueResult
  accepted : List Job
  handled : List Handled

inductive JobsEvent where
  | check (number : Nat) (settings : TlsSettings) (now : Nat) (email : String)
  | openTmp (number : Nat)
  | dump (number : Nat) (torn : Bool)
  | replace (number : Nat)
  | fail (number : Nat)
  | sidecar (outcome : CertbotOutcome)

namespace JobsWorld

def empty : JobsWorld := ⟨fun _ => none, fun _ => .blank, 0, none, none, .idle, none, [], []⟩

def noting (world : JobsWorld) (number : Nat) (request : Option Submission) : JobsWorld :=
  { world with requests := Function.update world.requests number request }

def parsed (world : JobsWorld) : Option Job := world.issue.bind (fun file => (world.files file).load)

section Steps

variable (python : Python) (emailStr : String → Except String String)

def check (world : JobsWorld) (number : Nat) (settings : TlsSettings) (now : Nat) (email : String) : JobsWorld :=
  match world.requests number, submit python emailStr settings world.issue.isSome now email with
  | none, .ok (_, job) => world.noting number (some (.checked job))
  | _, _ => world

-- open(tmp, 'w') truncates the file that is there, or makes one.
def openTmp (world : JobsWorld) (number : Nat) : JobsWorld :=
  match world.requests number with
  | some (.checked job) => match world.tmp with
    | some file => { world.noting number (some (.opened job file)) with files := Function.update world.files file .blank }
    | none =>
        { world.noting number (some (.opened job world.next)) with
          tmp := some world.next
          next := world.next + 1
          files := Function.update world.files world.next .blank }
  | _ => world

def dump (world : JobsWorld) (number : Nat) (torn : Bool) : JobsWorld :=
  match world.requests number with
  | some (.opened job file) =>
      { world.noting number (some (.dumped job file)) with
        files := Function.update world.files file (if torn && world.files file ≠ .blank then .torn else .whole job) }
  | _ => world

-- os.replace fails when another request has moved the temporary file away.
def replace (world : JobsWorld) (number : Nat) : JobsWorld :=
  match world.requests number with
  | some (.dumped job _) => match world.tmp with
    | some file => { world.noting number none with issue := some file, tmp := none, accepted := world.accepted ++ [job] }
    | none => world.noting number none
  | _ => world

def fail (world : JobsWorld) (number : Nat) : JobsWorld := world.noting number none

def advance (world : JobsWorld) (outcome : CertbotOutcome) : JobsWorld :=
  match world.sidecar with
  | .idle => if world.issue.isSome then { world with sidecar := .started } else world
  | .started => { world with sidecar := .readDomains ((world.parsed.map Job.domains).getD []) }
  | .readDomains domains => { world with sidecar := .running ((world.parsed.map Job.email).getD "") domains }
  | .running email domains =>
      let step := processIssueJob ⟨"", email, domains⟩
      { world with
        sidecar := .cleaning
        result := some (step.result outcome)
        handled := world.handled ++ [⟨email, domains, step, step.result outcome⟩] }
  | .cleaning => { world with sidecar := .idle, issue := none }

def step (world : JobsWorld) : JobsEvent → JobsWorld
  | .check number settings now email => world.check python emailStr number settings now email
  | .openTmp number => world.openTmp number
  | .dump number torn => world.dump number torn
  | .replace number => world.replace number
  | .fail number => world.fail number
  | .sidecar outcome => world.advance outcome

def jobs : Machine JobsWorld JobsEvent Unit := ⟨fun world event => (world.step python emailStr event, ())⟩

end Steps

def jobPending (world : JobsWorld) : Bool := world.issue.isSome

-- A look at issue.json passes only while no other request is under way.
def Clear (world : JobsWorld) : JobsEvent → Prop
  | .check _ _ _ _ => world.issue.isSome = true ∨ ∀ number, world.requests number = none
  | _ => True

def order (job : Job) : String × List String := (job.email, job.domains)

def answered (handled : Handled) : String × List String := (handled.email, handled.domains)

def waiting (world : JobsWorld) : List Job := if world.sidecar = .cleaning then [] else world.parsed.toList

def Reading (sidecar : Sidecar) (job : Job) : Prop :=
  match sidecar with
  | .readDomains domains => domains = job.domains
  | .running email domains => email = job.email ∧ domains = job.domains
  | _ => True

structure Serial (world : JobsWorld) : Prop where
  alone : ∀ m n, world.requests m ≠ none → world.requests n ≠ none → m = n
  free : ∀ n, world.requests n ≠ none → world.issue = none
  opened : ∀ n job file, world.requests n = some (.opened job file) → world.tmp = some file ∧ world.files file = .blank
  dumped : ∀ n job file, world.requests n = some (.dumped job file) → world.tmp = some file ∧ world.files file = .whole job
  resting : world.issue = none → world.sidecar = .idle
  whole : world.issue.isSome = true → ∃ job, world.parsed = some job ∧ Reading world.sidecar job
  once : world.accepted.map order = world.handled.map answered ++ world.waiting.map order

theorem empty_serial : Serial empty := by
  refine ⟨?_, ?_, ?_, ?_, fun _ => rfl, ?_, rfl⟩
  · exact fun m n some => absurd rfl some
  · exact fun n some => absurd rfl some
  · exact fun n job file same => by cases same
  · exact fun n job file same => by cases same
  · exact fun some => by cases some

section Shapes

variable (world : JobsWorld)

theorem noting_self (number : Nat) (request : Option Submission) : (world.noting number request).requests number = request :=
  Function.update_self ..

theorem noting_other (number other : Nat) (request : Option Submission) (apart : other ≠ number) :
    (world.noting number request).requests other = world.requests other := Function.update_of_ne apart ..

theorem submit_pending (python : Python) (emailStr : String → Except String String) (settings : TlsSettings) (now : Nat)
    (email : String) (answer : TlsIssued × Job) : submit python emailStr settings true now email ≠ .ok answer := by
  intro accepted
  cases checked : emailStr email with
  | error message => simp [submit, TlsIssueRequest.validate, checked, bind, Except.bind] at accepted
  | ok address =>
      simp only [submit, TlsIssueRequest.validate, checked, bind, Except.bind, tlsIssue, if_true] at accepted
      split at accepted
      · cases accepted
      · split at accepted <;> cases accepted

theorem serial_quiet (number : Nat) (others : ∀ n, n ≠ number → world.requests n = none) (issue : world.issue = none)
    (resting : world.sidecar = .idle)
    (opened : ∀ job file, world.requests number = some (.opened job file) → world.tmp = some file ∧ world.files file = .blank)
    (dumped : ∀ job file, world.requests number = some (.dumped job file) → world.tmp = some file ∧ world.files file = .whole job)
    (once : world.accepted.map order = world.handled.map answered) : Serial world := by
  have only : ∀ n, world.requests n ≠ none → n = number := by
    intro n active
    by_contra apart
    exact active (others n apart)
  refine ⟨?_, fun _ _ => issue, ?_, ?_, fun _ => resting, ?_, ?_⟩
  · intro m n first second
    rw [only m first, only n second]
  · intro n job file same
    rw [only n (by rw [same]; simp)] at same
    exact opened job file same
  · intro n job file same
    rw [only n (by rw [same]; simp)] at same
    exact dumped job file same
  · intro held
    rw [issue] at held
    cases held
  · rw [once, waiting, parsed, issue]
    simp

theorem serial_held (none_active : ∀ n, world.requests n = none) (issue : world.issue ≠ none) (job : Job)
    (parsed : world.parsed = some job) (reading : Reading world.sidecar job)
    (once : world.accepted.map order = world.handled.map answered ++ world.waiting.map order) : Serial world := by
  refine ⟨?_, ?_, ?_, ?_, fun none_held => absurd none_held issue, fun _ => ⟨job, parsed, reading⟩, once⟩
  · exact fun m n active => absurd (none_active m) active
  · exact fun n active => absurd (none_active n) active
  · intro n job file same
    rw [none_active n] at same
    cases same
  · intro n job file same
    rw [none_active n] at same
    cases same

end Shapes

section Preserved

variable (world : JobsWorld) (serial : Serial world)

include serial

theorem active_alone (number : Nat) (submission : Submission) (active : world.requests number = some submission) :
    (∀ n, n ≠ number → world.requests n = none) ∧ world.issue = none ∧ world.sidecar = .idle ∧
      world.accepted.map order = world.handled.map answered := by
  have here : world.requests number ≠ none := by
    rw [active]
    simp
  have issue := serial.free number here
  have idle := serial.resting issue
  refine ⟨?_, issue, idle, ?_⟩
  · intro n apart
    by_contra other
    exact apart (serial.alone n number other here)
  · have once := serial.once
    rw [waiting, parsed, issue] at once
    simpa using once

theorem held_alone (issue : world.issue ≠ none) : ∀ n, world.requests n = none := by
  intro n
  by_contra active
  exact issue (serial.free n active)

theorem check_serial (python : Python) (emailStr : String → Except String String) (number : Nat) (settings : TlsSettings)
    (now : Nat) (email : String) (clear : world.Clear (.check number settings now email)) :
    Serial (world.check python emailStr number settings now email) := by
  unfold check
  split
  · rename_i issued job unused accepted
    have passed : world.issue.isSome = false := by
      by_contra pending
      rw [Bool.not_eq_false] at pending
      rw [pending] at accepted
      exact submit_pending python emailStr settings now email _ accepted
    have issue : world.issue = none := by simpa using passed
    have nobody : ∀ n, world.requests n = none := clear.resolve_left (by simp [passed])
    have once : world.accepted.map order = world.handled.map answered := by
      have counted := serial.once
      rw [waiting, parsed, issue] at counted
      simpa using counted
    refine serial_quiet _ number ?_ issue (serial.resting issue) ?_ ?_ once
    · intro n apart
      rw [noting_other world number n _ apart]
      exact nobody n
    · intro other file same
      rw [noting_self] at same
      cases same
    · intro other file same
      rw [noting_self] at same
      cases same
  · exact serial

theorem open_serial (number : Nat) : Serial (world.openTmp number) := by
  unfold openTmp
  split
  · rename_i job active
    obtain ⟨others, issue, idle, once⟩ := active_alone world serial number _ active
    split
    · rename_i file present
      refine serial_quiet _ number ?_ issue idle ?_ ?_ once
      · intro n apart
        exact (noting_other world number n _ apart).trans (others n apart)
      · intro other opened same
        have here := (noting_self world number (some (.opened job file))).symm.trans same
        simp only [Option.some.injEq, Submission.opened.injEq] at here
        rw [← here.2]
        exact ⟨present, Function.update_self ..⟩
      · intro other opened same
        have here := (noting_self world number (some (.opened job file))).symm.trans same
        cases here
    · refine serial_quiet _ number ?_ issue idle ?_ ?_ once
      · intro n apart
        exact (noting_other world number n _ apart).trans (others n apart)
      · intro other opened same
        have here := (noting_self world number (some (.opened job world.next))).symm.trans same
        simp only [Option.some.injEq, Submission.opened.injEq] at here
        rw [← here.2]
        exact ⟨rfl, Function.update_self ..⟩
      · intro other opened same
        have here := (noting_self world number (some (.opened job world.next))).symm.trans same
        cases here
  · exact serial

theorem dump_serial (number : Nat) (torn : Bool) : Serial (world.dump number torn) := by
  unfold dump
  split
  · rename_i job file active
    obtain ⟨others, issue, idle, once⟩ := active_alone world serial number _ active
    obtain ⟨present, truncated⟩ := serial.opened number job file active
    refine serial_quiet _ number ?_ issue idle ?_ ?_ once
    · intro n apart
      exact (noting_other world number n _ apart).trans (others n apart)
    · intro other opened same
      have here := (noting_self world number (some (.dumped job file))).symm.trans same
      cases here
    · intro other opened same
      have here := (noting_self world number (some (.dumped job file))).symm.trans same
      simp only [Option.some.injEq, Submission.dumped.injEq] at here
      rw [← here.1, ← here.2]
      refine ⟨present, ?_⟩
      rw [truncated]
      simp only [ne_eq, not_true_eq_false, decide_false, Bool.and_false, Bool.false_eq_true, if_false]
      exact Function.update_self ..
  · exact serial

theorem fail_serial (number : Nat) : Serial (world.fail number) := by
  unfold fail
  cases active : world.requests number with
  | none =>
      have same : world.noting number none = world := by
        rw [noting, ← active, Function.update_eq_self]
      rw [same]
      exact serial
  | some submission =>
      obtain ⟨others, issue, idle, once⟩ := active_alone world serial number submission active
      refine serial_quiet _ number ?_ issue idle ?_ ?_ once
      · intro n apart
        rw [noting_other world number n none apart]
        exact others n apart
      · intro job file same
        rw [noting_self] at same
        cases same
      · intro job file same
        rw [noting_self] at same
        cases same

theorem replace_serial (number : Nat) : Serial (world.replace number) := by
  unfold replace
  split
  · rename_i job file active
    obtain ⟨others, issue, idle, once⟩ := active_alone world serial number _ active
    obtain ⟨present, wrote⟩ := serial.dumped number job file active
    rw [present]
    have reading : Reading world.sidecar job := by
      rw [idle]
      trivial
    have loaded : (world.files file).load = some job := by
      rw [wrote]
      rfl
    refine serial_held _ ?_ (by simp) job loaded reading ?_
    · intro n
      by_cases same : n = number
      · rw [same]
        exact noting_self world number none
      · exact (noting_other world number n none same).trans (others n same)
    · have left : (if world.sidecar = .cleaning then [] else (world.files file).load.toList).map order = [order job] := by
        rw [idle, loaded]
        rfl
      change (world.accepted ++ [job]).map order = world.handled.map answered ++
        (if world.sidecar = .cleaning then [] else (world.files file).load.toList).map order
      rw [left, List.map_append, once]
      rfl
  · exact serial

theorem advance_serial (outcome : CertbotOutcome) : Serial (world.advance outcome) := by
  have held : world.sidecar ≠ .idle → world.issue ≠ none := fun busy none_held => busy (serial.resting none_held)
  have whole : world.issue ≠ none → ∃ job, world.parsed = some job ∧ Reading world.sidecar job := fun some =>
    serial.whole (Option.isSome_iff_ne_none.mpr some)
  have once := serial.once
  unfold advance
  cases phase : world.sidecar with
  | idle =>
      dsimp only
      split
      · rename_i present
        have issue := Option.isSome_iff_ne_none.mp present
        obtain ⟨job, known, -⟩ := whole issue
        refine serial_held _ (held_alone world serial issue) issue job known trivial ?_
        rw [waiting, phase] at once
        exact once
      · exact serial
  | started =>
      have issue := held (by rw [phase]; simp)
      obtain ⟨job, known, -⟩ := whole issue
      refine serial_held _ (held_alone world serial issue) issue job known ?_ ?_
      · rw [known]
        rfl
      · rw [waiting, phase] at once
        exact once
  | readDomains domains =>
      have issue := held (by rw [phase]; simp)
      obtain ⟨job, known, reading⟩ := whole issue
      rw [phase] at reading
      refine serial_held _ (held_alone world serial issue) issue job known ?_ ?_
      · rw [known]
        exact ⟨rfl, reading⟩
      · rw [waiting, phase] at once
        exact once
  | running email domains =>
      have issue := held (by rw [phase]; simp)
      obtain ⟨job, known, reading⟩ := whole issue
      rw [phase] at reading
      refine serial_held _ (held_alone world serial issue) issue job known trivial ?_
      have left : world.waiting.map order = [(email, domains)] := by
        rw [waiting, phase, known, reading.1, reading.2]
        rfl
      rw [left] at once
      rw [waiting, if_pos rfl, once]
      simp [answered]
  | cleaning =>
      have issue := held (by rw [phase]; simp)
      refine serial_quiet _ 0 (fun n _ => held_alone world serial issue n) rfl rfl ?_ ?_ ?_
      · intro job file same
        have none_active := held_alone world serial issue 0
        exact absurd (none_active.symm.trans same) (by simp)
      · intro job file same
        have none_active := held_alone world serial issue 0
        exact absurd (none_active.symm.trans same) (by simp)
      · rw [waiting, if_pos phase] at once
        simpa using once

theorem step_serial (python : Python) (emailStr : String → Except String String) (event : JobsEvent) (clear : world.Clear event) :
    Serial (world.step python emailStr event) := by
  cases event with
  | check number settings now email => exact check_serial world serial python emailStr number settings now email clear
  | openTmp number => exact open_serial world serial number
  | dump number torn => exact dump_serial world serial number torn
  | replace number => exact replace_serial world serial number
  | fail number => exact fail_serial world serial number
  | sidecar outcome => exact advance_serial world serial outcome

end Preserved

end JobsWorld

end Tempmail.Web
