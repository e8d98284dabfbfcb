import Tempmail.Config.File
import Tempmail.Lib.Machine

set_option autoImplicit false

namespace Tempmail.Config

structure Configuration where
  value : Value
  usable : value.usable = true

structure Write where
  config : Configuration
  disk : Disk

variable (yaml : Yaml)

def writer : Machine ConfigFiles Write (Except Raised Unit) where
  step files write := ((writeConfig yaml write.disk files write.config.value).2,
    (writeConfig yaml write.disk files write.config.value).1)

abbrev WriteMoment := Machine.Moment ConfigFiles Write (Except Raised Unit)

def left (moment : WriteMoment) : ConfigFiles :=
  (writeConfig yaml moment.event.disk moment.before moment.event.config.value).2

-- The bytes that reached config.yaml, when it was truncated at all.
def rewritten (moment : WriteMoment) : Option (List UInt8) :=
  moment.event.disk.written.over (yaml.safeDump moment.event.config.value) none

-- The configurations that config.yaml has held in full, and the one being written.
def Known (old : Configuration) (earlier : List WriteMoment) (moment : WriteMoment) (config : Configuration) : Prop :=
  config = old ∨ (∃ wrote ∈ earlier, wrote.event.config = config ∧ opened yaml (left yaml wrote).main = .ok config.value) ∨
    config = moment.event.config

structure Recovered (relative : Option (List UInt8)) (old : Configuration) (earlier : List WriteMoment)
    (moment : WriteMoment) : Prop where
  read : ∃ config, Known yaml old earlier moment config ∧ readConfig yaml (left yaml moment) = .ok config.value
  started : ∃ config, Known yaml old earlier moment config ∧ startupMapping yaml (left yaml moment) relative = .ok config.value

-- The call stops before config.yaml is truncated, or has written it whole, or what it
-- wrote parses to one of these configurations.
def StopsSafely (old : Configuration) (earlier : List WriteMoment) (moment : WriteMoment) : Prop :=
  moment.event.disk.written = .unopened ∨
    moment.event.disk.written.complete (yaml.safeDump moment.event.config.value) = true ∨
    ∃ config written, Known yaml old earlier moment config ∧ rewritten yaml moment = some written ∧
      yaml.safeLoad written = .ok config.value

def Holds (old : Configuration) (earlier : List WriteMoment) (files : ConfigFiles) : Prop :=
  ∃ config, (config = old ∨ ∃ wrote ∈ earlier, wrote.event.config = config ∧
    opened yaml (left yaml wrote).main = .ok config.value) ∧
    opened yaml files.main = .ok config.value

theorem left_main (moment : WriteMoment) : (left yaml moment).main = (rewritten yaml moment).or moment.before.main := by
  unfold left rewritten writeConfig
  cases moment.event.disk.written <;> rfl

theorem complete_rewritten (moment : WriteMoment)
    (complete : moment.event.disk.written.complete (yaml.safeDump moment.event.config.value) = true) :
    rewritten yaml moment = some (yaml.safeDump moment.event.config.value) := by
  revert complete
  unfold rewritten
  cases moment.event.disk.written with
  | unopened => intro complete; cases complete
  | upTo count =>
      intro complete
      have long : (yaml.safeDump moment.event.config.value).length ≤ count := by simpa [Extent.complete] using complete
      rw [Extent.over, List.take_of_length_le long]
  | whole => intro; rfl

theorem safe_parses (old : Configuration) (earlier : List WriteMoment) (moment : WriteMoment)
    (reads : yaml.Reads moment.event.config.value) (holds : Holds yaml old earlier moment.before)
    (safe : StopsSafely yaml old earlier moment) :
    ∃ config, Known yaml old earlier moment config ∧ opened yaml (left yaml moment).main = .ok config.value := by
  rcases safe with unopened | complete | ⟨config, written, known, wrote, parsed⟩
  · obtain ⟨config, known, parsed⟩ := holds
    refine ⟨config, known.imp_right Or.inl, ?_⟩
    rw [left_main, rewritten, unopened]
    exact parsed
  · refine ⟨moment.event.config, Or.inr (Or.inr rfl), ?_⟩
    rw [left_main, complete_rewritten yaml moment complete]
    exact reads
  · refine ⟨config, known, ?_⟩
    rw [left_main, wrote]
    exact parsed

theorem parses_holds (old : Configuration) (earlier : List WriteMoment) (moment : WriteMoment)
    (parses : ∃ config, Known yaml old earlier moment config ∧ opened yaml (left yaml moment).main = .ok config.value) :
    Holds yaml old (earlier ++ [moment]) (left yaml moment) := by
  obtain ⟨config, known, parsed⟩ := parses
  refine ⟨config, ?_, parsed⟩
  rcases known with same | ⟨wrote, member, same, held⟩ | same
  · exact Or.inl same
  · exact Or.inr ⟨wrote, List.mem_append_left _ member, same, held⟩
  · exact Or.inr ⟨moment, by simp, same.symm, parsed⟩

theorem parses_recovered (relative : Option (List UInt8)) (old : Configuration) (earlier : List WriteMoment)
    (moment : WriteMoment)
    (parses : ∃ config, Known yaml old earlier moment config ∧ opened yaml (left yaml moment).main = .ok config.value) :
    Recovered yaml relative old earlier moment := by
  obtain ⟨config, known, parsed⟩ := parses
  refine ⟨⟨config, known, read_usable yaml _ _ parsed config.usable⟩, ⟨config, known, ?_⟩⟩
  rw [startupMapping]
  cases main : (left yaml moment).main with
  | none =>
      rw [main] at parsed
      cases parsed
  | some content => exact load_usable yaml _ _ (main ▸ parsed) config.usable

theorem recovered_safe (relative : Option (List UInt8)) (old : Configuration) (earlier : List WriteMoment) (moment : WriteMoment)
    (recovered : Recovered yaml relative old earlier moment) : StopsSafely yaml old earlier moment := by
  obtain ⟨config, known, started⟩ := recovered.started
  by_cases unopened : moment.event.disk.written = .unopened
  · exact Or.inl unopened
  · obtain ⟨written, wrote⟩ : ∃ written, rewritten yaml moment = some written := by
      unfold rewritten
      cases extent : moment.event.disk.written with
      | unopened => exact absurd extent unopened
      | upTo count => exact ⟨_, rfl⟩
      | whole => exact ⟨_, rfl⟩
    refine Or.inr (Or.inr ⟨config, written, known, wrote, ?_⟩)
    rw [startupMapping, left_main, wrote] at started
    exact load_parsed yaml (some written) config.value config.usable started

theorem run_recovered (relative : Option (List UInt8)) (old : Configuration) (earlier : List WriteMoment) (files : ConfigFiles)
    (writes : List Write) (reads : ∀ write ∈ writes, yaml.Reads write.config.value) (holds : Holds yaml old earlier files)
    (safe : ∀ before moment later, (writer yaml).trace files writes = before ++ moment :: later →
      StopsSafely yaml old (earlier ++ before) moment)
    (before : List WriteMoment) (moment : WriteMoment) (later : List WriteMoment)
    (split : (writer yaml).trace files writes = before ++ moment :: later) :
    Recovered yaml relative old (earlier ++ before) moment := by
  induction writes generalizing earlier files before with
  | nil => simp [Machine.trace] at split
  | cons write rest ih =>
      have parses := safe_parses yaml old earlier ⟨files, write, ((writer yaml).step files write).2⟩
        (reads write List.mem_cons_self) holds
        (by simpa using safe [] _ _ rfl)
      cases before with
      | nil =>
          cases split
          simpa using parses_recovered yaml relative old earlier _ parses
      | cons first before =>
          rw [Machine.trace, List.cons_append, List.cons.injEq] at split
          obtain ⟨rfl, split⟩ := split
          have further := ih (earlier ++ [_]) _ (fun w member => reads w (List.mem_cons_of_mem _ member))
            (parses_holds yaml old earlier _ parses) (fun before moment later inner => by
              simpa using safe (_ :: before) moment later (congrArg (List.cons _) inner)) before split
          simpa using further

theorem crashes_recovered_iff (relative : Option (List UInt8)) (files : ConfigFiles) (old : Configuration) (writes : List Write)
    (loaded : opened yaml files.main = .ok old.value) (reads : ∀ write ∈ writes, yaml.Reads write.config.value) :
    (∀ earlier moment later, (writer yaml).trace files writes = earlier ++ moment :: later →
        Recovered yaml relative old earlier moment) ↔
      ∀ earlier moment later, (writer yaml).trace files writes = earlier ++ moment :: later →
        StopsSafely yaml old earlier moment := by
  constructor
  · intro recovered earlier moment later split
    exact recovered_safe yaml relative old earlier moment (recovered earlier moment later split)
  · intro safe earlier moment later split
    have holds : Holds yaml old [] files := ⟨old, Or.inl rfl, loaded⟩
    simpa using run_recovered yaml relative old [] files writes reads holds (by simpa using safe) earlier moment later split

def listed (domain : String) (rest : List String) : Configuration := ⟨listing (domain :: rest), rfl⟩

def deployed : ConfigFiles := ⟨some (bytes "domains:\n- a.org\n"), none⟩

def completeThenStopped : List Write := [⟨listed "a.org" ["b.org"], .fine⟩, ⟨listed "b.org" [], ⟨.upTo 4, .unopened, false⟩⟩]

def afterComplete : WriteMoment :=
  ⟨⟨some (bytes "domains:\n- a.org\n- b.org\n"), some (bytes "domains:\n- a.org\n")⟩,
    ⟨listed "b.org" [], ⟨.upTo 4, .unopened, false⟩⟩,
    .error .osError⟩

theorem complete_then_stopped_recovered :
    Recovered blockYaml none (listed "a.org" []) [⟨deployed, ⟨listed "a.org" ["b.org"], .fine⟩, .ok ()⟩] afterComplete := by
  have reads : ∀ write ∈ completeThenStopped, blockYaml.Reads write.config.value := by
    rintro write (_ | ⟨_, _ | ⟨_, ⟨⟩⟩⟩) <;> rfl
  refine (crashes_recovered_iff blockYaml none deployed (listed "a.org" []) completeThenStopped rfl reads).mpr ?_ _ _ [] rfl
  intro earlier moment later split
  have seen : moment.event ∈ completeThenStopped := by
    rw [← (writer blockYaml).trace_events deployed completeThenStopped, split]
    simp
  unfold StopsSafely
  rcases List.mem_cons.mp seen with first | second
  · rw [first]
    exact Or.inr (Or.inl rfl)
  · rw [List.mem_singleton.mp second]
    exact Or.inl rfl

-- The crash comes after 20 of the 25 bytes, in the middle of the new domain.
def torn : Write := ⟨listed "a.org" ["b.org"], ⟨.whole, .upTo 20, false⟩⟩

theorem torn_write_loaded :
    (writer blockYaml).trace deployed [torn] = [⟨deployed, torn, .error .osError⟩] ∧
      readConfig blockYaml (left blockYaml ⟨deployed, torn, .error .osError⟩) = .ok (listing ["a.org", "b"]) ∧
      startupMapping blockYaml (left blockYaml ⟨deployed, torn, .error .osError⟩) none = .ok (listing ["a.org", "b"]) ∧
      ¬ Recovered blockYaml none (listed "a.org" []) [] ⟨deployed, torn, .error .osError⟩ := by
  refine ⟨rfl, rfl, rfl, fun recovered => ?_⟩
  obtain ⟨config, known, read⟩ := recovered.read
  have torn_read : readConfig blockYaml (left blockYaml ⟨deployed, torn, .error .osError⟩) = .ok (listing ["a.org", "b"]) := rfl
  have value := Except.ok.inj (torn_read.symm.trans read)
  rcases known with rfl | ⟨wrote, member, -⟩ | rfl
  · simp [listed, listing] at value
  · cases member
  · simp [listed, listing, torn] at value

end Tempmail.Config
