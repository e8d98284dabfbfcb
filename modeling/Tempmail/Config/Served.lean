import Tempmail.Config.Rollback

set_option autoImplicit false

namespace Tempmail.Config

open Api (HTTPException Python internalServerError)

abbrev Held := ConfigFiles × Settings

def serve (yaml : Yaml) (python : Python) (request : AdminRequest) (first second : Disk) (held : Held) :
    Held × Except HTTPException Unit :=
  match request.prepare python with
  | .error refusal => (held, .error refusal)
  | .ok prepared => match readConfig yaml held.1 with
    | .error _ => (held, .error internalServerError)
    | .ok config => match prepared.edit python config with
      | .error refusal => (held, .error refusal)
      | .ok edited => match commitConfig yaml first second edited held.1 held.2 with
        | (.ok (), files, settings) => ((files, settings), request.respond yaml files)
        | (.error failure, files, settings) => ((files, settings), .error failure)

structure Arrival where
  request : AdminRequest
  first : Disk
  second : Disk

def admin (yaml : Yaml) (python : Python) : Machine Held Arrival (Except HTTPException Unit) where
  step held arrival := serve yaml python arrival.request arrival.first arrival.second held

variable (yaml : Yaml) (python : Python)

structure Served (request : AdminRequest) (held next : Held) (config edited : Value) : Prop where
  read : readConfig yaml held.1 = .ok config
  change : request.change python config = .ok edited
  main : next.1.main = some (yaml.safeDump edited)
  reloaded : reloadSettings yaml next.1 held.2 = (.ok (), next.2)

theorem load_config_iff (files : ConfigFiles) (relative : Option (List UInt8)) (content : List UInt8) (config : Value)
    (settings : Settings) (main : files.main = some content) (reads : yaml.safeLoad content = .ok config)
    (usable : config.usable = true) :
    loadConfig yaml files relative = .ok settings ↔ apply config blank = (.ok (), settings) := by
  have loaded := load_usable yaml (some content) config reads usable
  simp only [loadConfig, startupMapping, main, loaded]
  rcases apply config blank with ⟨_ | _, after⟩ <;> simp

theorem commit_ok (first second : Disk) (edited : Value) (files left : ConfigFiles) (settings loaded : Settings)
    (done : commitConfig yaml first second edited files settings = (.ok (), left, loaded)) :
    left.main = some (yaml.safeDump edited) ∧ reloadSettings yaml left settings = (.ok (), loaded) := by
  rw [commitConfig] at done
  cases read : readConfig yaml files with
  | error raised =>
      rw [read] at done
      cases done
  | ok previous =>
      rw [read] at done
      have main := write_ok yaml first files edited
      generalize writeConfig yaml first files edited = result at done main
      obtain ⟨answer, written⟩ := result
      cases answer with
      | error raised => cases done
      | ok landed =>
          dsimp only at done
          cases reload : reloadSettings yaml written settings with
          | mk answer after =>
              rw [reload] at done
              cases answer with
              | ok taken =>
                  cases done
                  exact ⟨main rfl, reload⟩
              | error raised =>
                  dsimp only at done
                  generalize writeConfig yaml second written previous = rollback at done
                  obtain ⟨answer, reverted⟩ := rollback
                  cases answer <;> cases done

theorem serve_ok (request : AdminRequest) (first second : Disk) (held : Held)
    (ok : (serve yaml python request first second held).2 = .ok ()) :
    ∃ config edited, Served yaml python request held (serve yaml python request first second held).1 config edited := by
  revert ok
  rw [serve]
  cases prepares : request.prepare python with
  | error refusal => intro ok; cases ok
  | ok prepared =>
      dsimp only
      cases read : readConfig yaml held.1 with
      | error raised => intro ok; cases ok
      | ok config =>
          dsimp only
          cases edits : prepared.edit python config with
          | error refusal => intro ok; cases ok
          | ok edited =>
              dsimp only
              have change : request.change python config = .ok edited := by
                simp only [AdminRequest.change, prepares, bind, Except.bind, edits]
              cases commits : commitConfig yaml first second edited held.1 held.2 with
              | mk answer left =>
                  cases answer with
                  | error failure => intro ok; cases ok
                  | ok done =>
                      intro ok
                      obtain ⟨main, reloaded⟩ := commit_ok yaml first second edited held.1 left.1 held.2 left.2 commits
                      exact ⟨config, edited, read, change, main, reloaded⟩

theorem serve_accepted (request : AdminRequest) (held : Held) (before after : Value) (read : readConfig yaml held.1 = .ok before)
    (change : request.change python before = .ok after) (reads : yaml.Reads after) (takes : accepted after) :
    (admin yaml python).step held ⟨request, .fine, .fine⟩ =
      ((⟨some (yaml.safeDump after), copyBackup .fine held.1⟩, settingsOf after), .ok ()) := by
  obtain ⟨prepared, prepares, edits⟩ := bind_ok _ _ _ change
  have written : writeConfig yaml .fine held.1 after = (.ok (), ⟨some (yaml.safeDump after), copyBackup .fine held.1⟩) := rfl
  have reload := reload_accepted yaml ⟨some (yaml.safeDump after), copyBackup .fine held.1⟩ held.2 after reads takes
  have rereads := read_usable yaml ⟨some (yaml.safeDump after), copyBackup .fine held.1⟩ after reads
    (reloadable_usable after takes.1)
  simp only [admin, serve, prepares, read, edits, commitConfig, written, reload,
    accepted_respond yaml request _ after rereads takes]

section Turns

variable {Client : Type} [DecidableEq Client] (requests : Client → AdminRequest) (client : Client) (first second : Disk)

def serveTurns : List (Turn Client) := ⟨client, first⟩ :: commitTurns client first second

def World.served (world : World Client) (held : Held) (answer : Except HTTPException Unit) : World Client :=
  ((world.store held.1).adopt held.2).enter client (.answered answer)

theorem served_enter (world : World Client) (phase : Phase) (held : Held) (answer : Except HTTPException Unit) :
    (world.enter client phase).served client held answer = world.served client held answer := by
  simp only [World.served, enter_store, enter_adopt, enter_enter]

theorem committed_turns (edited : Value) (world : World Client) (left : ConfigFiles) (loaded : Settings)
    (phase : world.phase client = .edited edited)
    (done : commitConfig yaml first second edited world.files world.settings = (.ok (), left, loaded)) :
    (handlers yaml python requests).final world (commitTurns client first second) =
      world.served client (left, loaded) ((requests client).respond yaml left) := by
  have stays := turn_answered yaml python requests client
  rw [commitConfig] at done
  cases read : readConfig yaml world.files with
  | error raised =>
      rw [read] at done
      cases done
  | ok previous =>
      rw [read] at done
      rcases wrote : writeConfig yaml first world.files edited with ⟨raised | _, written⟩
      · rw [wrote] at done
        cases done
      · rw [wrote] at done
        dsimp only at done
        rcases loads : reloadSettings yaml written world.settings with ⟨raised | _, after⟩
        · rw [loads] at done
          dsimp only at done
          rcases reverts : writeConfig yaml second written previous with ⟨_ | _, reverted⟩ <;> rw [reverts] at done <;> cases done
        · rw [loads] at done
          cases done
          have staged := turn_stage yaml python requests client world first edited previous phase read
          have writing := turn_wrote yaml python requests client first
            (world.enter client (.staged edited previous)) edited previous
            left (enter_here ..) wrote
          have loading := turn_loaded yaml python requests client first
            ((world.store left).enter client (.written previous)) previous
            loaded (enter_here ..) loads
          have responded : advance yaml python requests
            (((world.store left).adopt loaded).enter client .reloaded) ⟨client, second⟩ =
              world.served client (left, loaded) ((requests client).respond yaml left) := by
            simp only [advance, enter_here, enter_files, adopt_files, store_files, enter_enter]
            rfl
          rw [enter_store, enter_enter] at writing
          rw [enter_adopt, enter_enter] at loading
          simp only [commitTurns, Machine.final_cons, Machine.final_nil, handlers_step, staged, writing, loading, responded]
          exact stays second _ _

theorem settled_turns (world : World Client) (answer : Except HTTPException Unit) :
    (handlers yaml python requests).final (world.enter client (.answered answer)) (commitTurns client first second) =
      world.enter client (.answered answer) := by
  have stays := turn_answered yaml python requests client
  simp only [commitTurns, Machine.final_cons, Machine.final_nil, handlers_step, stays]

-- The handler's own turns, with nobody else's among them, do what serve does.
theorem served_turns (world : World Client) (waiting : world.phase client = .received) :
    (handlers yaml python requests).final world (serveTurns client first second) =
      world.served client (serve yaml python (requests client) first second (world.files, world.settings)).1
        (serve yaml python (requests client) first second (world.files, world.settings)).2 := by
  have begun : advance yaml python requests world ⟨client, first⟩ =
      world.enter client (begin yaml python (requests client) world.files) := by simp only [advance, waiting]
  have settled := settled_turns yaml python requests client first second world
  rw [serveTurns, Machine.final_cons, handlers_step, begun, begin, serve]
  cases (requests client).prepare python with
  | error refusal => exact settled (.error refusal)
  | ok prepared =>
      dsimp only
      cases readConfig yaml world.files with
      | error raised => exact settled (.error internalServerError)
      | ok config =>
          dsimp only
          cases prepared.edit python config with
          | error refusal => exact settled (.error refusal)
          | ok edited =>
              dsimp only
              cases commits : commitConfig yaml first second edited world.files world.settings with
              | mk answer left =>
                  have entered := enter_here world client (.edited edited)
                  cases answer with
                  | error failure =>
                      have failed := commit_failed_turns yaml python requests client first second edited
                        (world.enter client (.edited edited)) entered failure
                        (by simp only [enter_files, enter_settings, commits])
                      simp only [enter_files, enter_settings, commits] at failed
                      exact failed.trans (served_enter client world _ left _)
                  | ok done =>
                      have finished := committed_turns yaml python requests client first second edited
                        (world.enter client (.edited edited)) left.1 left.2 entered
                        (by simp only [enter_files, enter_settings, commits])
                      exact finished.trans (served_enter client world _ left _)

end Turns

end Tempmail.Config
