import Tempmail.Lib.Machine
import Tempmail.Web.Settings

set_option autoImplicit false

namespace Tempmail.Web

def realCert : String := "/config/certs/cert.pem"
def realKey : String := "/config/certs/key.pem"
def placeholderCert : String := "/etc/nginx/placeholder/cert.pem"
def placeholderKey : String := "/etc/nginx/placeholder/key.pem"

-- A configuration file: its modification time and the four values it gives.
structure ConfigFile where
  modified : Nat
  gives : WebSettings
deriving DecidableEq

structure Disk where
  cert : Option Nat := none
  key : Option Nat := none
  webConfig : Option ConfigFile := none
  config : Option ConfigFile := none
deriving DecidableEq

def Disk.certified (disk : Disk) : Bool := disk.cert.isSome && disk.key.isSome

inductive Site where
  | challengeOnly
  | full
  | withoutDocs
  | limited (webHostname : String) (docs : Bool)
deriving DecidableEq

structure ServerBlock where
  listens : List String
  serverName : String
  certificate : Option (String × String)
  redirectsHttp : Bool
  site : Site
deriving DecidableEq

abbrev Conf := List ServerBlock

-- The ssl_certificate directives.
def certificatePaths (conf : Conf) : List String := conf.filterMap (fun server => server.certificate.map Prod.fst)

structure Container where
  cert : String
  key : String
  usePlaceholder : Bool
  hsts : Bool
  last : WebSettings
  lastCert : Nat
  lastKey : Nat
  lastConf : Nat
  written : Conf
  loaded : Conf
  running : Bool
deriving DecidableEq

structure System where
  disk : Disk
  container : Container
deriving DecidableEq

-- nginx -s reload: taken up, refused by the master after the signal, or failed,
-- which ends the script under set -e.
inductive Reload where
  | applied
  | refused
  | failed
deriving DecidableEq

inductive Event where
  | files (disk : Disk)
  | iteration (certReload : Reload) (tested : Bool) (confReload : Reload)
deriving DecidableEq

def readConfig (last : WebSettings) (disk : Disk) : WebSettings :=
  let read := match disk.webConfig, disk.config with
    | some file, _ => file.gives
    | none, some file => file.gives
    | none, none => ⟨"", "true", "false", "true"⟩
  read.checked last

def generateConf (cert key : String) (settings : WebSettings) : Conf :=
  let serverName := if settings.webHostname = "" then "_" else settings.webHostname
  let tls := settings.tlsEnabled == "true"
  let docs := settings.docsEnabled == "true"
  let catchAll :=
    if settings.webHostname ≠ "" ∧ settings.allowIp ≠ "true" then .limited settings.webHostname docs
    else if docs then .full else .withoutDocs
  [⟨["80"], serverName, none, tls, if tls then .challengeOnly else .full⟩,
    ⟨["443 ssl"], serverName, some (cert, key), false, .full⟩,
    ⟨["80 default_server", "443 ssl default_server"], "_", some (cert, key), tls, catchAll⟩]

def statCert (disk : Disk) (placeholder : Bool) (born : Nat) : Option Nat := if placeholder then some born else disk.cert
def statKey (disk : Disk) (placeholder : Bool) (born : Nat) : Option Nat := if placeholder then some born else disk.key

def statConf (disk : Disk) : Option Nat := (disk.webConfig.map ConfigFile.modified).or (disk.config.map ConfigFile.modified)

section Watching

-- When the container started.
variable (born : Nat)

def start (disk : Disk) : System :=
  let placeholder := !disk.certified
  let cert := if placeholder then placeholderCert else realCert
  let key := if placeholder then placeholderKey else realKey
  let settings := readConfig ⟨"", "true", "false", "true"⟩ disk
  let conf := generateConf cert key settings
  ⟨disk, { cert
           key
           usePlaceholder := placeholder
           hsts := !placeholder
           last := settings
           lastCert := (statCert disk placeholder born).getD 0
           lastKey := (statKey disk placeholder born).getD 0
           lastConf := (statConf disk).getD 0
           written := conf
           loaded := conf
           running := true }⟩

def Container.reload (container : Container) : Reload → Container
  | .applied => { container with loaded := container.written }
  | .refused => container
  | .failed => { container with running := false }

def Container.watchCert (container : Container) (disk : Disk) (reload : Reload) : Container :=
  let nowCert := (statCert disk container.usePlaceholder born).getD container.lastCert
  let nowKey := (statKey disk container.usePlaceholder born).getD container.lastKey
  if nowCert != container.lastCert || nowKey != container.lastKey then
    let reloaded := container.reload reload
    if reloaded.running then { reloaded with lastCert := nowCert, lastKey := nowKey } else reloaded
  else container

-- A configuration that fails its test stays written, but is not loaded.
def Container.watchConf (container : Container) (disk : Disk) (nowConf : Nat) (tested : Bool) (reload : Reload) : Container :=
  if nowConf != container.lastConf then
    let settings := readConfig container.last disk
    let generated := { container with last := settings, written := generateConf container.cert container.key settings }
    if tested then
      let reloaded := generated.reload reload
      if reloaded.running then { reloaded with lastConf := nowConf } else reloaded
    else generated
  else container

def Container.iterate (container : Container) (disk : Disk) (certReload : Reload) (tested : Bool)
    (confReload : Reload) : Container :=
  if container.running then
    let nowConf := (statConf disk).getD container.lastConf
    let watched := container.watchCert born disk certReload
    if watched.running then watched.watchConf disk nowConf tested confReload else watched
  else container

def watch : Machine System Event Unit := ⟨fun system event =>
  match event with
  | .files disk => ({ system with disk }, ())
  | .iteration certReload tested confReload =>
      ({ system with container := system.container.iterate born system.disk certReload tested confReload }, ())⟩

-- An iteration that began with both certificate files there and was completed.
structure Completed (moment : Machine.Moment System Event Unit) : Prop where
  iteration : ∃ certReload tested confReload, moment.event = .iteration certReload tested confReload
  began : moment.before.disk.certified = true
  completed : ((watch born).step moment.before moment.event).1.container.running = true

def ServesReal (system : System) : Prop :=
  certificatePaths system.container.loaded ≠ [] ∧ ∀ path ∈ certificatePaths system.container.loaded, path = realCert

def PicksUp (disk : Disk) (events : List Event) : Prop :=
  ∀ moment ∈ (watch born).trace (start born disk) events, Completed born moment →
    ServesReal ((watch born).step moment.before moment.event).1

structure Fixed (cert : String) (container : Container) : Prop where
  chosen : container.cert = cert
  written : certificatePaths container.written = [cert, cert]
  loaded : certificatePaths container.loaded = [cert, cert]

theorem generated_paths (cert key : String) (settings : WebSettings) :
    certificatePaths (generateConf cert key settings) = [cert, cert] := rfl

theorem start_fixed (disk : Disk) :
    Fixed (if disk.certified then realCert else placeholderCert) (start born disk).container := by
  have chosen : (start born disk).container.cert = if disk.certified then realCert else placeholderCert := by
    simp only [start]
    cases disk.certified <;> rfl
  exact ⟨chosen, by rw [← chosen]; rfl, by rw [← chosen]; rfl⟩

theorem reload_fixed (cert : String) (container : Container) (reload : Reload) (fixed : Fixed cert container) :
    Fixed cert (container.reload reload) := by
  cases reload with
  | applied => exact ⟨fixed.chosen, fixed.written, fixed.written⟩
  | refused => exact fixed
  | failed => exact ⟨fixed.chosen, fixed.written, fixed.loaded⟩

theorem watch_cert_fixed (cert : String) (container : Container) (disk : Disk) (reload : Reload) (fixed : Fixed cert container) :
    Fixed cert (container.watchCert born disk reload) := by
  have reloaded := reload_fixed cert container reload fixed
  unfold Container.watchCert
  dsimp only
  split
  · split
    · exact ⟨reloaded.chosen, reloaded.written, reloaded.loaded⟩
    · exact reloaded
  · exact fixed

theorem watch_conf_fixed (cert : String) (container : Container) (disk : Disk) (nowConf : Nat) (tested : Bool) (reload : Reload)
    (fixed : Fixed cert container) : Fixed cert (container.watchConf disk nowConf tested reload) := by
  have generated : Fixed cert { container with
      last := readConfig container.last disk
      written := generateConf container.cert container.key (readConfig container.last disk) } :=
    ⟨fixed.chosen, by rw [generated_paths, fixed.chosen], fixed.loaded⟩
  have reloaded := reload_fixed cert _ reload generated
  unfold Container.watchConf
  dsimp only
  split
  · split
    · split
      · exact ⟨reloaded.chosen, reloaded.written, reloaded.loaded⟩
      · exact reloaded
    · exact generated
  · exact fixed

theorem step_fixed (cert : String) (system : System) (event : Event) (fixed : Fixed cert system.container) :
    Fixed cert ((watch born).step system event).1.container := by
  cases event with
  | files disk => exact fixed
  | iteration certReload tested confReload =>
      have watched := watch_cert_fixed born cert system.container system.disk certReload fixed
      simp only [watch, Container.iterate]
      split
      · split
        · exact watch_conf_fixed cert _ system.disk _ tested confReload watched
        · exact watched
      · exact fixed

theorem run_fixed (disk : Disk) (events : List Event) (moment : Machine.Moment System Event Unit)
    (member : moment ∈ (watch born).trace (start born disk) events) :
    Fixed (if disk.certified then realCert else placeholderCert) moment.before.container :=
  ((watch born).invariant_run (fun system => Fixed (if disk.certified then realCert else placeholderCert) system.container)
    (fun _ => True) (fun system event _ fixed => step_fixed born _ system event fixed) (start born disk) events
    (fun _ _ => trivial) (start_fixed born disk)).2 moment member

-- The certificate is picked up where it was there at the start, or where no
-- iteration of the run gets to see it.
theorem picks_up_iff (disk : Disk) (events : List Event) : PicksUp born disk events ↔
    disk.certified = true ∨ ∀ moment ∈ (watch born).trace (start born disk) events, ¬ Completed born moment := by
  have after : ∀ moment ∈ (watch born).trace (start born disk) events,
      certificatePaths ((watch born).step moment.before moment.event).1.container.loaded =
        List.replicate 2 (if disk.certified then realCert else placeholderCert) :=
    fun moment member => (step_fixed born _ moment.before moment.event (run_fixed born disk events moment member)).loaded
  constructor
  · intro picks
    by_cases present : disk.certified = true
    · exact Or.inl present
    · refine Or.inr fun moment member completed => ?_
      obtain ⟨-, real⟩ := picks moment member completed
      rw [after moment member, if_neg present] at real
      exact absurd (real placeholderCert (List.mem_replicate.mpr ⟨nofun, rfl⟩)) (by decide)
  · rintro (present | never) moment member completed
    · rw [ServesReal, after moment member, if_pos present]
      exact ⟨nofun, fun path inside => (List.mem_replicate.mp inside).2⟩
    · exact absurd completed (never moment member)

end Watching

def issued : List Event := [.files { cert := some 50, key := some 50 }, .iteration .applied true .applied]

theorem placeholder_kept : ¬ ∀ (born : Nat) (disk : Disk) (events : List Event), PicksUp born disk events := by
  intro claimed
  have completed : Completed 10
    ⟨⟨{ cert := some 50, key := some 50 }, (start 10 {}).container⟩, .iteration .applied true .applied, ()⟩ :=
    ⟨⟨_, _, _, rfl⟩, rfl, by decide⟩
  obtain ⟨-, real⟩ := claimed 10 {} issued _ (List.mem_cons_of_mem _ List.mem_cons_self) completed
  exact absurd (real placeholderCert (by decide)) (by decide)

end Tempmail.Web
