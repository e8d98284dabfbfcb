import Tempmail.Web.Entrypoint

set_option autoImplicit false

namespace Tempmail.Web

def Disk.configured (disk : Disk) : Option ConfigFile := disk.webConfig.or disk.config

def stamp (file : Option ConfigFile) : Nat := (file.map ConfigFile.modified).getD 0

def isFlag (value : String) : Bool := value == "true" || value == "false"

def lastProper (proper : String → Bool) (default : String) (values : List String) : String :=
  (values.filter proper).getLast?.getD default

-- Of each setting the last proper value some files give, one after another.
def lastValid (files : List ConfigFile) : WebSettings where
  webHostname := lastProper isHostText "" (files.map (fun file => file.gives.webHostname))
  allowIp := lastProper isFlag "true" (files.map (fun file => file.gives.allowIp))
  tlsEnabled := lastProper isFlag "false" (files.map (fun file => file.gives.tlsEnabled))
  docsEnabled := lastProper isFlag "true" (files.map (fun file => file.gives.docsEnabled))

def looked : Disk → List Event → List ConfigFile
  | _, [] => []
  | _, .files disk :: events => looked disk events
  | disk, .iteration _ _ _ :: events => disk.configured.toList ++ looked disk events

def filesFound (disk : Disk) (events : List Event) : List ConfigFile := disk.configured.toList ++ looked disk events

def newest : Option ConfigFile → List Event → Option ConfigFile
  | latest, [] => latest
  | latest, .files disk :: events => newest (disk.configured.or latest) events
  | latest, .iteration _ _ _ :: events => newest latest events

-- A file that comes anew was written in a later second than any before it.
def Dated : Option ConfigFile → List Event → Prop
  | _, [] => True
  | latest, .files disk :: events =>
      (∀ file ∈ disk.configured, latest = some file ∨ stamp latest < file.modified) ∧ Dated (disk.configured.or latest) events
  | latest, .iteration _ _ _ :: events => Dated latest events

-- The file stays, and its reload is not refused after the signal.
def Event.keeps (file : ConfigFile) : Event → Prop
  | .files disk => disk.configured = some file
  | .iteration _ _ confReload => confReload ≠ .refused

theorem stat_configured (disk : Disk) : statConf disk = disk.configured.map ConfigFile.modified := by
  rw [statConf, Disk.configured]
  cases disk.webConfig with
  | some file => rfl
  | none => rfl

theorem read_configured (last : WebSettings) (disk : Disk) (file : ConfigFile) (shown : disk.configured = some file) :
    readConfig last disk = file.gives.checked last := by
  rw [Disk.configured] at shown
  rw [readConfig]
  cases web : disk.webConfig with
  | some own =>
      rw [web] at shown
      cases shown
      rfl
  | none =>
      rw [web] at shown
      cases config : disk.config with
      | some own =>
          rw [config] at shown
          cases shown
          rfl
      | none =>
          rw [config] at shown
          cases shown

section Proper

variable (proper : String → Bool) (default : String)

theorem last_proper_next (values : List String) (value : String) : lastProper proper default (values ++ [value]) =
    if proper value then value else lastProper proper default values := by
  rw [lastProper, List.filter_append]
  by_cases fits : proper value = true
  · rw [if_pos fits, List.filter_cons_of_pos fits, List.filter_nil, List.getLast?_concat, Option.getD_some]
  · rw [if_neg fits, List.filter_cons_of_neg fits, List.filter_nil, List.append_nil, lastProper]

end Proper

def absorb (last : WebSettings) (file : ConfigFile) : WebSettings := file.gives.checked last

theorem or_last_flag (last value : String) : orLast last value = if isFlag value then value else last := by
  simp only [orLast, isFlag, Bool.or_eq_true, beq_iff_eq]

theorem last_valid_next (files : List ConfigFile) (file : ConfigFile) :
    lastValid (files ++ [file]) = absorb (lastValid files) file := by
  simp only [lastValid, absorb, WebSettings.checked, List.map_append, List.map_cons, List.map_nil, last_proper_next, or_last_flag]

theorem last_valid_fold (files later : List ConfigFile) : lastValid (files ++ later) = later.foldl absorb (lastValid files) := by
  induction later generalizing files with
  | nil => rw [List.append_nil, List.foldl_nil]
  | cons file later ih => rw [List.append_cons, ih, last_valid_next, List.foldl_cons]

theorem absorb_again (last : WebSettings) (file : ConfigFile) : absorb (absorb last file) file = absorb last file := by
  simp only [absorb, WebSettings.checked, orLast, WebSettings.mk.injEq]
  refine ⟨?_, ?_, ?_, ?_⟩ <;> split <;> rfl

section Watching

variable (born : Nat)

structure Unmoved (before after : Container) : Prop where
  cert : after.cert = before.cert
  key : after.key = before.key
  last : after.last = before.last
  lastConf : after.lastConf = before.lastConf
  written : after.written = before.written
  loaded : after.loaded = before.loaded ∨ after.loaded = before.written

theorem unmoved_refl (container : Container) : Unmoved container container := ⟨rfl, rfl, rfl, rfl, rfl, Or.inl rfl⟩

theorem reload_unmoved (container : Container) (reload : Reload) : Unmoved container (container.reload reload) := by
  cases reload with
  | applied => exact ⟨rfl, rfl, rfl, rfl, rfl, Or.inr rfl⟩
  | refused => exact unmoved_refl container
  | failed => exact ⟨rfl, rfl, rfl, rfl, rfl, Or.inl rfl⟩

theorem watch_cert_unmoved (container : Container) (disk : Disk) (reload : Reload) :
    Unmoved container (container.watchCert born disk reload) := by
  have reloaded := reload_unmoved container reload
  simp only [Container.watchCert]
  split
  · split
    · exact ⟨reloaded.cert, reloaded.key, reloaded.last, reloaded.lastConf, reloaded.written, reloaded.loaded⟩
    · exact reloaded
  · exact unmoved_refl container

def Container.regenerate (container : Container) (disk : Disk) : Container :=
  let settings := readConfig container.last disk
  { container with last := settings, written := generateConf container.cert container.key settings }

theorem watch_conf_cases (container : Container) (disk : Disk) (nowConf : Nat) (tested : Bool) (reload : Reload)
    (running : (container.watchConf disk nowConf tested reload).running = true) :
    (nowConf = container.lastConf ∧ container.watchConf disk nowConf tested reload = container) ∨
    (nowConf ≠ container.lastConf ∧ tested = false ∧
      container.watchConf disk nowConf tested reload = container.regenerate disk) ∨
    (nowConf ≠ container.lastConf ∧ tested = true ∧
      container.watchConf disk nowConf tested reload =
        { (container.regenerate disk).reload reload with lastConf := nowConf }) := by
  by_cases same : nowConf = container.lastConf
  · exact Or.inl ⟨same, by simp [Container.watchConf, same]⟩
  · have changed : (nowConf != container.lastConf) = true := bne_iff_ne.mpr same
    simp only [Container.watchConf, changed, if_true] at running ⊢
    cases tested with
    | false => exact Or.inr (Or.inl ⟨same, rfl, rfl⟩)
    | true =>
        refine Or.inr (Or.inr ⟨same, rfl, ?_⟩)
        simp only [if_true] at running ⊢
        split
        · rfl
        · rename_i stopped
          rw [if_neg stopped] at running
          exact absurd running stopped

theorem iterate_cases (container : Container) (disk : Disk) (certReload : Reload) (tested : Bool) (confReload : Reload)
    (running : (container.iterate born disk certReload tested confReload).running = true) :
    ∃ watched, Unmoved container watched ∧ container.running = true ∧ watched.running = true ∧
      container.iterate born disk certReload tested confReload =
        watched.watchConf disk ((statConf disk).getD container.lastConf) tested confReload := by
  simp only [Container.iterate] at running ⊢
  split
  · rename_i begun
    rw [if_pos begun] at running
    split
    · rename_i watching
      exact ⟨_, watch_cert_unmoved born container disk certReload, begun, watching, rfl⟩
    · rename_i stopped
      rw [if_neg stopped] at running
      exact absurd running stopped
  · rename_i stopped
    rw [if_neg stopped] at running
    exact absurd running stopped

theorem still_running (system : System) (event : Event) (running : ((watch born).step system event).1.container.running = true) :
    system.container.running = true := by
  cases event with
  | files disk => exact running
  | iteration certReload tested confReload =>
      obtain ⟨-, -, begun, -, -⟩ := iterate_cases born system.container system.disk certReload tested confReload running
      exact begun

theorem was_running (system : System) (events : List Event)
    (running : ((watch born).final system events).container.running = true) : system.container.running = true := by
  induction events generalizing system with
  | nil => exact running
  | cons event events ih => exact still_running born system event (ih _ running)

variable (cert key : String)

-- The settings are the last valid ones among the files found, what is written
-- follows them, and the file on disk is the newest, looked at or still to be.
structure Faithful (latest : Option ConfigFile) (settings : WebSettings) (disk : Disk) (container : Container) : Prop where
  paths : container.cert = cert ∧ container.key = key
  last : container.last = settings
  written : container.written = generateConf cert key settings
  older : container.lastConf ≤ stamp latest
  taken : container.lastConf = stamp latest → ∀ file ∈ latest, absorb settings file = settings
  shown : ∀ file ∈ disk.configured, latest = some file

section Turns

variable (latest : Option ConfigFile) (settings : WebSettings) (disk : Disk) (container : Container)

theorem unmoved_faithful (after : Container) (faithful : Faithful cert key latest settings disk container)
    (unmoved : Unmoved container after) : Faithful cert key latest settings disk after where
  paths := ⟨unmoved.cert.trans faithful.paths.1, unmoved.key.trans faithful.paths.2⟩
  last := unmoved.last.trans faithful.last
  written := unmoved.written.trans faithful.written
  older := by rw [unmoved.lastConf]; exact faithful.older
  taken := by rw [unmoved.lastConf]; exact faithful.taken
  shown := faithful.shown

theorem regenerate_faithful (file : ConfigFile) (shown : disk.configured = some file)
    (faithful : Faithful cert key latest settings disk container) :
    Faithful cert key latest (absorb settings file) disk (container.regenerate disk) := by
  have read : readConfig container.last disk = absorb settings file := by
    rw [read_configured container.last disk file shown, faithful.last, absorb]
  refine ⟨faithful.paths, read, ?_, faithful.older, fun _ other newest => ?_, faithful.shown⟩
  · rw [Container.regenerate, read, faithful.paths.1, faithful.paths.2]
  · have same := faithful.shown file shown
    rw [newest] at same
    cases same
    exact absorb_again settings file

theorem stamp_shown (file : ConfigFile) (shown : disk.configured = some file) (same : latest = some file) (last : Nat) :
    (statConf disk).getD last = stamp latest := by
  rw [stat_configured, shown, same]
  rfl

theorem turn_faithful (tested : Bool) (confReload : Reload) (faithful : Faithful cert key latest settings disk container)
    (running : (container.watchConf disk ((statConf disk).getD container.lastConf) tested confReload).running = true) :
    Faithful cert key latest (disk.configured.toList.foldl absorb settings) disk
      (container.watchConf disk ((statConf disk).getD container.lastConf) tested confReload) := by
  cases shown : disk.configured with
  | none =>
      have unchanged : (statConf disk).getD container.lastConf = container.lastConf := by
        rw [stat_configured, shown]
        rfl
      rcases watch_conf_cases container disk _ tested confReload running with ⟨-, idle⟩ | ⟨changed, -⟩ | ⟨changed, -⟩
      · rw [idle]
        exact faithful
      · exact absurd unchanged changed
      · exact absurd unchanged changed
  | some file =>
      have same := faithful.shown file shown
      have now := stamp_shown latest disk file shown same container.lastConf
      have regenerated := regenerate_faithful cert key latest settings disk container file shown faithful
      rcases watch_conf_cases container disk _ tested confReload running with ⟨seen, idle⟩ | ⟨-, -, kept⟩ | ⟨-, -, taken⟩
      · have again : absorb settings file = settings := faithful.taken (seen.symm.trans now) file same
        rw [idle, Option.toList_some, List.foldl_cons, List.foldl_nil, again]
        exact faithful
      · rw [kept]
        exact regenerated
      · have reloaded := unmoved_faithful cert key latest (absorb settings file) disk _ _ regenerated
          (reload_unmoved (container.regenerate disk) confReload)
        rw [taken]
        refine ⟨reloaded.paths, reloaded.last, reloaded.written, le_of_eq now, fun _ other newest => ?_, reloaded.shown⟩
        rw [newest] at same
        cases same
        exact absorb_again settings file

end Turns

theorem files_faithful (latest : Option ConfigFile) (settings : WebSettings) (system : System) (disk : Disk)
    (faithful : Faithful cert key latest settings system.disk system.container)
    (dated : ∀ file ∈ disk.configured, latest = some file ∨ stamp latest < file.modified) :
    Faithful cert key (disk.configured.or latest) settings disk system.container := by
  cases shown : disk.configured with
  | none =>
      rw [Option.none_or]
      exact ⟨faithful.paths, faithful.last, faithful.written, faithful.older, faithful.taken, by simp [shown]⟩
  | some file =>
      rw [Option.some_or]
      have here : ∀ other ∈ disk.configured, some file = some other := by simp [shown]
      rcases dated file shown with same | later
      · rw [← same] at here ⊢
        exact ⟨faithful.paths, faithful.last, faithful.written, faithful.older, faithful.taken, here⟩
      · have behind : system.container.lastConf < stamp (some file) := lt_of_le_of_lt faithful.older later
        exact ⟨faithful.paths, faithful.last, faithful.written, le_of_lt behind, fun now => absurd now (ne_of_lt behind), here⟩

theorem iteration_faithful (latest : Option ConfigFile) (settings : WebSettings) (system : System) (certReload : Reload)
    (tested : Bool) (confReload : Reload) (faithful : Faithful cert key latest settings system.disk system.container)
    (running : (system.container.iterate born system.disk certReload tested confReload).running = true) :
    Faithful cert key latest (system.disk.configured.toList.foldl absorb settings) system.disk
      (system.container.iterate born system.disk certReload tested confReload) := by
  obtain ⟨watched, unmoved, -, -, looks⟩ := iterate_cases born system.container system.disk certReload tested confReload running
  rw [← unmoved.lastConf] at looks
  rw [looks] at running ⊢
  exact turn_faithful cert key latest settings system.disk watched tested confReload
    (unmoved_faithful cert key latest settings system.disk _ watched faithful unmoved) running

theorem final_faithful (latest : Option ConfigFile) (settings : WebSettings) (system : System) (events : List Event)
    (faithful : Faithful cert key latest settings system.disk system.container) (dated : Dated latest events)
    (running : ((watch born).final system events).container.running = true) :
    Faithful cert key (newest latest events) ((looked system.disk events).foldl absorb settings)
      ((watch born).final system events).disk ((watch born).final system events).container := by
  induction events generalizing latest settings system with
  | nil => exact faithful
  | cons event events ih =>
      cases event with
      | files disk =>
          exact ih (disk.configured.or latest) settings ⟨disk, system.container⟩
            (files_faithful cert key latest settings system disk faithful dated.1) dated.2 running
      | iteration certReload tested confReload =>
          rw [looked, List.foldl_append]
          exact ih latest _ ⟨system.disk, system.container.iterate born system.disk certReload tested confReload⟩
            (iteration_faithful born cert key latest settings system certReload tested confReload faithful
              (was_running born _ events running)) dated running

theorem start_faithful (disk : Disk) : Faithful (start born disk).container.cert (start born disk).container.key disk.configured
    (lastValid disk.configured.toList) disk (start born disk).container := by
  have read : readConfig (lastValid []) disk = lastValid disk.configured.toList := by
    cases shown : disk.configured with
    | none =>
        obtain ⟨web, config⟩ := Option.or_eq_none_iff.mp shown
        simp only [readConfig, web, config]
        rfl
    | some file => rw [read_configured _ disk file shown, Option.toList_some, ← List.nil_append [file], last_valid_next, absorb]
  refine ⟨⟨rfl, rfl⟩, read, by rw [← read]; rfl, ?_, fun _ file shown => ?_, fun file shown => shown⟩
  · simp only [start, stat_configured, stamp]
    exact le_refl _
  · rw [shown, Option.toList_some, ← List.nil_append [file], last_valid_next]
    exact absorb_again _ file

structure Awaited (file : ConfigFile) (system : System) : Prop where
  shown : system.disk.configured = some file
  aligned : system.container.running = true → system.container.lastConf = file.modified →
    system.container.loaded = system.container.written

structure Taken (file : ConfigFile) (system : System) : Prop extends Awaited file system where
  caught : system.container.running = true → system.container.lastConf = file.modified

theorem iteration_awaited (file : ConfigFile) (system : System) (certReload : Reload) (tested : Bool) (confReload : Reload)
    (awaited : Awaited file system) (signalled : confReload ≠ .refused)
    (running : (system.container.iterate born system.disk certReload tested confReload).running = true) :
    ((system.container.iterate born system.disk certReload tested confReload).lastConf = file.modified →
      (system.container.iterate born system.disk certReload tested confReload).loaded =
        (system.container.iterate born system.disk certReload tested confReload).written) ∧
    (tested = true ∨ system.container.lastConf = file.modified →
      (system.container.iterate born system.disk certReload tested confReload).lastConf = file.modified) := by
  obtain ⟨watched, unmoved, begun, -, looks⟩ :=
    iterate_cases born system.container system.disk certReload tested confReload running
  have now : (statConf system.disk).getD system.container.lastConf = file.modified := by
    rw [stat_configured, awaited.shown]
    rfl
  rw [now] at looks
  rw [looks] at running ⊢
  rcases watch_conf_cases watched system.disk _ tested confReload running with ⟨seen, idle⟩ |
    ⟨unseen, untested, kept⟩ | ⟨-, -, taken⟩
  · rw [idle]
    have level := awaited.aligned begun (unmoved.lastConf.symm.trans seen.symm)
    refine ⟨fun _ => ?_, fun _ => seen.symm⟩
    rcases unmoved.loaded with same | same
    · rw [same, level, unmoved.written]
    · rw [same, unmoved.written]
  · rw [kept]
    refine ⟨fun same => absurd same.symm unseen, ?_⟩
    rintro (did | same)
    · rw [untested] at did
      cases did
    · exact unmoved.lastConf.trans same
  · rw [taken] at running ⊢
    refine ⟨fun _ => ?_, fun _ => rfl⟩
    cases confReload with
    | applied => rfl
    | refused => exact absurd rfl signalled
    | failed => cases running

theorem step_awaited (file : ConfigFile) (system : System) (event : Event) (keeps : event.keeps file)
    (awaited : Awaited file system) :
    Awaited file ((watch born).step system event).1 := by
  cases event with
  | files disk => exact ⟨keeps, awaited.aligned⟩
  | iteration certReload tested confReload =>
      exact ⟨awaited.shown, fun running =>
        (iteration_awaited born file system certReload tested confReload awaited keeps running).1⟩

theorem step_taken (file : ConfigFile) (system : System) (event : Event) (keeps : event.keeps file) (taken : Taken file system) :
    Taken file ((watch born).step system event).1 := by
  refine ⟨step_awaited born file system event keeps taken.toAwaited, fun running => ?_⟩
  have begun := still_running born system event running
  cases event with
  | files disk => exact taken.caught begun
  | iteration certReload tested confReload =>
      exact (iteration_awaited born file system certReload tested confReload taken.toAwaited keeps running).2
        (Or.inr (taken.caught begun))

theorem tested_taken (file : ConfigFile) (system : System) (certReload confReload : Reload) (signalled : confReload ≠ .refused)
    (awaited : Awaited file system) : Taken file ((watch born).step system (.iteration certReload true confReload)).1 :=
  ⟨step_awaited born file system (.iteration certReload true confReload) signalled awaited, fun running =>
    (iteration_awaited born file system certReload true confReload awaited signalled running).2 (Or.inl rfl)⟩

theorem later_taken (file : ConfigFile) (system : System) (later : List Event) (kept : ∀ event ∈ later, event.keeps file)
    (tested : ∃ certReload confReload, Event.iteration certReload true confReload ∈ later) (awaited : Awaited file system) :
    Taken file ((watch born).final system later) := by
  obtain ⟨certReload, confReload, member⟩ := tested
  obtain ⟨before, after, split⟩ := List.append_of_mem member
  rw [split] at kept ⊢
  have reached := ((watch born).invariant_run (Awaited file) (Event.keeps file)
    (fun system event keeps held => step_awaited born file system event keeps held) system before
    (fun event inside => kept event (List.mem_append_left _ inside)) awaited).1
  have caught := tested_taken born file _ certReload confReload
    (kept _ (List.mem_append_right before List.mem_cons_self)) reached
  rw [Machine.final_append, Machine.final_cons]
  exact ((watch born).invariant_run (Taken file) (Event.keeps file)
    (fun system event keeps held => step_taken born file system event keeps held) _ after
    (fun event inside => kept event (List.mem_append_right before (List.mem_cons_of_mem _ inside))) caught).1

theorem dated_append (latest : Option ConfigFile) (earlier later : List Event) (dated : Dated latest (earlier ++ later)) :
    Dated latest earlier ∧ Dated (newest latest earlier) later := by
  induction earlier generalizing latest with
  | nil => exact ⟨trivial, dated⟩
  | cons event earlier ih =>
      cases event with
      | files disk =>
          obtain ⟨before, after⟩ := ih (disk.configured.or latest) dated.2
          exact ⟨⟨dated.1, before⟩, after⟩
      | iteration certReload tested confReload => exact ih latest dated

theorem changed_awaited (disk changed : Disk) (file : ConfigFile) (earlier : List Event)
    (dated : Dated disk.configured (earlier ++ [.files changed])) (shown : changed.configured = some file)
    (new : newest disk.configured earlier ≠ some file)
    (running : ((watch born).final (start born disk) earlier).container.running = true) :
    Awaited file ((watch born).step ((watch born).final (start born disk) earlier) (.files changed)).1 := by
  obtain ⟨before, here, -⟩ := dated_append disk.configured earlier [.files changed] dated
  have faithful := final_faithful born _ _ disk.configured (lastValid disk.configured.toList) (start born disk) earlier
    (start_faithful born disk) before running
  have behind : ((watch born).final (start born disk) earlier).container.lastConf < file.modified := by
    rcases here file shown with same | later
    · exact absurd same new
    · exact lt_of_le_of_lt faithful.older later
  exact ⟨shown, fun _ same => absurd same (ne_of_lt behind)⟩

-- Whatever was missed before it, a new configuration is in force once one
-- iteration has tested it: of each setting the last proper value ever found.
theorem configuration_followed (disk changed : Disk) (file : ConfigFile) (earlier later : List Event)
    (dated : Dated disk.configured (earlier ++ .files changed :: later)) (shown : changed.configured = some file)
    (new : newest disk.configured earlier ≠ some file) (kept : ∀ event ∈ later, event.keeps file)
    (tested : ∃ certReload confReload, Event.iteration certReload true confReload ∈ later)
    (running : ((watch born).final (start born disk) (earlier ++ .files changed :: later)).container.running = true) :
    ((watch born).final (start born disk) (earlier ++ .files changed :: later)).container.loaded =
      generateConf (start born disk).container.cert (start born disk).container.key
        (lastValid (filesFound disk (earlier ++ .files changed :: later))) := by
  have faithful := final_faithful born _ _ disk.configured (lastValid disk.configured.toList) (start born disk)
    (earlier ++ .files changed :: later) (start_faithful born disk) dated running
  have taken : Taken file ((watch born).final (start born disk) (earlier ++ .files changed :: later)) := by
    rw [List.append_cons] at dated
    rw [Machine.final_append] at running ⊢
    exact later_taken born file _ later kept tested (changed_awaited born disk changed file earlier
      (dated_append disk.configured (earlier ++ [.files changed]) later dated).1 shown new (was_running born _ _ running))
  rw [taken.aligned running (taken.caught running), faithful.written, filesFound, last_valid_fold]
  rfl

end Watching

def brokenFile : ConfigFile := ⟨50, ⟨"panel example", "false", "maybe", "false"⟩⟩
def mendedFile : ConfigFile := ⟨70, ⟨"panel.example.com", "", "true", "false"⟩⟩

def mendedRun : List Event :=
  [.files { config := some brokenFile }, .iteration .applied true .refused, .iteration .applied false .applied] ++
    .files { config := some mendedFile } :: [.iteration .refused false .applied, .iteration .applied true .applied]

theorem mended_run_followed :
    ((watch 10).final (start 10 {}) mendedRun).container.loaded =
      generateConf (start 10 {}).container.cert (start 10 {}).container.key (lastValid (filesFound {} mendedRun)) :=
  configuration_followed 10 {} { config := some mendedFile } mendedFile
    [.files { config := some brokenFile }, .iteration .applied true .refused, .iteration .applied false .applied]
    [.iteration .refused false .applied, .iteration .applied true .applied]
    ⟨fun file shown => Or.inr (by cases shown; decide), fun file shown => Or.inr (by cases shown; decide), trivial⟩
    rfl (by decide) (by simp [Event.keeps]) ⟨.applied, .applied, by simp⟩ (by decide)

-- Its values come from both files.
example : lastValid (filesFound {} mendedRun) = ⟨"panel.example.com", "false", "true", "false"⟩ := by decide

-- A file written again in the second it was looked at is not looked at again.
example : ((watch 10).final (start 10 {}) [.files { config := some mendedFile }, .iteration .applied true .applied,
      .files { config := some { mendedFile with gives := brokenFile.gives } },
        .iteration .applied true .applied]).container.last =
    ⟨"panel.example.com", "true", "true", "false"⟩ := by decide

end Tempmail.Web
