import Tempmail.Config.Setup
import Tempmail.Lib.Shell

set_option autoImplicit false

namespace Tempmail.Web

open Config (Value Raised orEmpty)

-- What write_web_config takes from the configuration.
structure WebValues where
  hostname : String
  allowIp : Bool
  tlsEnabled : Bool
  docsEnabled : Bool
deriving DecidableEq, Repr

structure WebSettings where
  webHostname : String
  allowIp : String
  tlsEnabled : String
  docsEnabled : String
deriving DecidableEq, Repr

section Writing

-- str() of a value that is no string.
variable (shown : Value → String)

def text : Value → String
  | .str text => text
  | other => if other.truthy then shown other else ""

def isNotFalse : Value → Bool
  | .bool false => false
  | _ => true

def webValues (config : Value) : Except Raised WebValues := do
  let web ← config.get "web" (.map [])
  let server ← config.get "server" (.map [])
  let tls ← config.get "tls" (.map [])
  let hostname ← (orEmpty web).get "hostname" (.str "")
  let allowIp ← (orEmpty web).get "allow_ip_access" (.bool true)
  let enabled ← (orEmpty tls).get "enabled" .null
  let docs ← (orEmpty server).get "docs_enabled" (.bool true)
  .ok ⟨Api.strip (text shown hostname), isNotFalse allowIp, enabled.truthy, docs.truthy⟩

def flag (value : Bool) : String := if value then "true" else "false"

def setting (name value : String) : String := name ++ "=" ++ value

def heading : String := "# Generated by the api container. Do not edit."

def WebValues.lines (values : WebValues) : List String :=
  [heading,
    setting "WEB_HOSTNAME" values.hostname,
    setting "ALLOW_IP" (flag values.allowIp),
    setting "TLS_ENABLED" (flag values.tlsEnabled),
    setting "DOCS_ENABLED" (flag values.docsEnabled)]

def WebValues.file (values : WebValues) : String := String.ofList (values.lines.flatMap (fun line => line.toList ++ ['\n']))

def writeWebConfig (config : Value) : Except Raised String := (webValues shown config).map WebValues.file

end Writing

section Reading

variable (home : List Char → Option (List Char))

-- case "$WEB_HOSTNAME" in *[!a-zA-Z0-9.-]*) does not match.
def isHostText (text : String) : Bool := text.toList.all (fun c => Api.isAlnum c || c == '.' || c == '-')

def WebSettings.assign (settings : WebSettings) (assigned : String × String) : WebSettings :=
  if assigned.1 = "WEB_HOSTNAME" then { settings with webHostname := assigned.2 }
  else if assigned.1 = "ALLOW_IP" then { settings with allowIp := assigned.2 }
  else if assigned.1 = "TLS_ENABLED" then { settings with tlsEnabled := assigned.2 }
  else if assigned.1 = "DOCS_ENABLED" then { settings with docsEnabled := assigned.2 }
  else settings

def orLast (last value : String) : String := if value = "true" ∨ value = "false" then value else last

def WebSettings.checked (read last : WebSettings) : WebSettings where
  webHostname := if isHostText read.webHostname then read.webHostname else last.webHostname
  allowIp := orLast last.allowIp read.allowIp
  tlsEnabled := orLast last.tlsEnabled read.tlsEnabled
  docsEnabled := orLast last.docsEnabled read.docsEnabled

-- With the generated file there; what it returns are also the next LAST_ values.
def readWebConfig (last : WebSettings) (file : String) : Option WebSettings :=
  (Shell.source home file).map (fun performed =>
    (performed.foldl WebSettings.assign ⟨"", "true", "false", "true"⟩).checked last)

structure HandedOver (values : WebValues) (last : WebSettings) (file : String) : Prop where
  performs : ∃ hostname, Shell.source home file = some [("WEB_HOSTNAME", hostname), ("ALLOW_IP", flag values.allowIp),
    ("TLS_ENABLED", flag values.tlsEnabled), ("DOCS_ENABLED", flag values.docsEnabled)]
  ends : readWebConfig home last file = some ⟨if isHostText values.hostname then values.hostname else last.webHostname,
    flag values.allowIp, flag values.tlsEnabled, flag values.docsEnabled⟩

def flagLines (values : WebValues) : List (String × String) :=
  [("TLS_ENABLED", flag values.tlsEnabled), ("DOCS_ENABLED", flag values.docsEnabled)]

theorem flag_inert (value : Bool) : ∀ c ∈ (flag value).toList, Shell.isInert c = true := by
  apply List.all_eq_true.mp
  cases value with
  | true => decide
  | false => decide

theorem variables_named : ∀ name ∈ ["WEB_HOSTNAME", "ALLOW_IP", "TLS_ENABLED", "DOCS_ENABLED"],
    Shell.isName (Shell.bare name.toList) = true := by
  decide +kernel

theorem flags_proper (values : WebValues) :
    ∀ assigned ∈ ("ALLOW_IP", flag values.allowIp) :: flagLines values, Shell.Proper assigned := by
  simp only [flagLines, List.forall_mem_cons, List.not_mem_nil, false_implies, implies_true, and_true]
  exact ⟨⟨(variables_named "ALLOW_IP" (by simp)), flag_inert _⟩, ⟨(variables_named "TLS_ENABLED" (by simp)), flag_inert _⟩,
    ⟨(variables_named "DOCS_ENABLED" (by simp)), flag_inert _⟩⟩

theorem host_text_proper (hostname : String) (valid : isHostText hostname = true) : Shell.Proper ("WEB_HOSTNAME", hostname) := by
  refine ⟨(variables_named "WEB_HOSTNAME" (by simp)), fun c member => ?_⟩
  have allowed := List.all_eq_true.mp valid c member
  simp only [Api.isAlnum, Bool.or_eq_true, beq_iff_eq] at allowed
  simp only [Shell.isInert, Shell.isNameChar, Bool.or_eq_true, List.contains_eq_mem, List.mem_cons, decide_eq_true_eq]
  grind

theorem file_list (values : WebValues) : values.file = String.ofList ((heading.toList ++ ['\n']) ++
    ("WEB_HOSTNAME".toList ++ '=' :: values.hostname.toList) ++
      '\n' :: (("ALLOW_IP", flag values.allowIp) :: flagLines values).flatMap Shell.line) := by
  have spelled : ∀ name value : String, (setting name value).toList = name.toList ++ '=' :: value.toList := by
    intro name value
    rw [setting, String.toList_append, String.toList_append]
    simp
  rw [WebValues.file, WebValues.lines]
  simp only [List.flatMap_cons, List.flatMap_nil, flagLines, Shell.line, Shell.body, spelled, List.append_assoc,
    List.cons_append, List.nil_append, List.append_nil]

theorem run_heading : Shell.Reader.run home {} (heading.toList ++ ['\n']) = {} := by
  have marked : heading.toList = '#' :: heading.toList.tail := by decide +kernel
  rw [marked]
  exact Shell.run_comment home heading.toList.tail (by decide +kernel)

theorem source_file_iff (values : WebValues) (hostname : String) :
    Shell.source home values.file = some [("WEB_HOSTNAME", hostname), ("ALLOW_IP", flag values.allowIp),
      ("TLS_ENABLED", flag values.tlsEnabled), ("DOCS_ENABLED", flag values.docsEnabled)] ↔
    Shell.lineValue home "WEB_HOSTNAME" values.hostname = some hostname := by
  have read := Shell.source_lines_iff home
    ((heading.toList ++ ['\n']) ++ ("WEB_HOSTNAME".toList ++ '=' :: values.hostname.toList))
    [("WEB_HOSTNAME", hostname)] ("ALLOW_IP", flag values.allowIp) (flagLines values) (flags_proper values)
  rw [← file_list, List.append_assoc, Shell.run_append, run_heading] at read
  rw [Shell.line_value_iff]
  exact read

theorem flags_kept (last : String) (value : Bool) : orLast last (flag value) = flag value := by
  cases value with
  | true => rfl
  | false => rfl

theorem read_performed (values : WebValues) (last : WebSettings) (hostname : String)
    (performed : Shell.source home values.file = some [("WEB_HOSTNAME", hostname), ("ALLOW_IP", flag values.allowIp),
      ("TLS_ENABLED", flag values.tlsEnabled), ("DOCS_ENABLED", flag values.docsEnabled)]) :
    readWebConfig home last values.file = some ⟨if isHostText hostname then hostname else last.webHostname,
      flag values.allowIp, flag values.tlsEnabled, flag values.docsEnabled⟩ := by
  have assigned : [("WEB_HOSTNAME", hostname), ("ALLOW_IP", flag values.allowIp), ("TLS_ENABLED", flag values.tlsEnabled),
      ("DOCS_ENABLED", flag values.docsEnabled)].foldl WebSettings.assign ⟨"", "true", "false", "true"⟩ =
      ⟨hostname, flag values.allowIp, flag values.tlsEnabled, flag values.docsEnabled⟩ := by
    simp [WebSettings.assign]
  rw [readWebConfig, performed, Option.map_some, assigned, WebSettings.checked]
  simp only [flags_kept]

theorem handed_over_iff (values : WebValues) (last : WebSettings) : HandedOver home values last values.file ↔
    isHostText values.hostname = true ∨ ∃ hostname, Shell.lineValue home "WEB_HOSTNAME" values.hostname = some hostname ∧
      (isHostText hostname = false ∨ hostname = last.webHostname) := by
  constructor
  · rintro ⟨⟨hostname, performed⟩, ends⟩
    by_cases valid : isHostText values.hostname = true
    · exact Or.inl valid
    · refine Or.inr ⟨hostname, (source_file_iff home values hostname).mp performed, ?_⟩
      rw [read_performed home values last hostname performed, if_neg valid, Option.some.injEq, WebSettings.mk.injEq] at ends
      by_cases accepted : isHostText hostname = true
      · rw [if_pos accepted] at ends
        exact Or.inr ends.1
      · exact Or.inl (Bool.not_eq_true _ ▸ accepted)
  · rintro (valid | ⟨hostname, taken, discarded⟩)
    · have literal := Shell.line_value_inert home "WEB_HOSTNAME" values.hostname (host_text_proper values.hostname valid)
      have performed := (source_file_iff home values values.hostname).mpr literal
      exact ⟨⟨_, performed⟩, read_performed home values last _ performed⟩
    · have performed := (source_file_iff home values hostname).mpr taken
      refine ⟨⟨hostname, performed⟩, ?_⟩
      rw [read_performed home values last hostname performed]
      by_cases valid : isHostText values.hostname = true
      · have literal := Shell.line_value_inert home "WEB_HOSTNAME" values.hostname (host_text_proper values.hostname valid)
        rw [literal, Option.some.injEq] at taken
        rw [taken]
      · rw [if_neg valid]
        rcases discarded with outside | same
        · rw [outside, if_neg Bool.false_ne_true]
        · rw [same, ite_self]

theorem web_config_handed_over_iff (shown : Value → String) (config : Value) (values : WebValues)
    (found : webValues shown config = .ok values) (last : WebSettings) :
    (∃ file, writeWebConfig shown config = .ok file ∧ HandedOver home values last file) ↔
      isHostText values.hostname = true ∨ ∃ hostname, Shell.lineValue home "WEB_HOSTNAME" values.hostname = some hostname ∧
        (isHostText hostname = false ∨ hostname = last.webHostname) := by
  rw [← handed_over_iff, writeWebConfig, found]
  constructor
  · rintro ⟨file, written, handed⟩
    rw [Except.ok.inj written]
    exact handed
  · exact fun handed => ⟨values.file, rfl, handed⟩

end Reading

section Samples

def noHomes : List Char → Option (List Char) := fun _ => none

def freshSettings : WebSettings := ⟨"", "true", "false", "true"⟩

def hostedAt (hostname : String) : Value := .map [(.str "web", .map [(.str "hostname", .str hostname)])]

theorem panel_handed_over : ∃ file, writeWebConfig (fun _ => "") (hostedAt "panel.example.com") = .ok file ∧
    HandedOver noHomes ⟨"panel.example.com", true, false, true⟩ freshSettings file :=
  (web_config_handed_over_iff noHomes (fun _ => "") (hostedAt "panel.example.com") ⟨"panel.example.com", true, false, true⟩
    (by decide +kernel)
    freshSettings).mpr (Or.inl (by decide +kernel))

-- The second word of the line is a command to the shell.
theorem command_run :
    ¬ ∀ (config : Value) (values : WebValues) (last : WebSettings), webValues (fun _ => "") config = .ok values →
    ∃ file, writeWebConfig (fun _ => "") config = .ok file ∧ HandedOver noHomes values last file := by
  intro claimed
  have found : webValues (fun _ => "") (hostedAt "panel.example.com reboot") =
    .ok ⟨"panel.example.com reboot", true, false, true⟩ := by
    decide +kernel
  obtain ⟨file, written, handed⟩ := claimed _ _ freshSettings found
  have same : file = WebValues.file ⟨"panel.example.com reboot", true, false, true⟩ := by
    rw [writeWebConfig, found] at written
    exact (Except.ok.inj written).symm
  have refused : Shell.lineValue noHomes "WEB_HOSTNAME" "panel.example.com reboot" = none := by decide +kernel
  rw [same] at handed
  rcases (handed_over_iff noHomes _ freshSettings).mp handed with valid | ⟨hostname, taken, _⟩
  · exact absurd valid (by decide +kernel)
  · rw [refused] at taken
    exact Option.some_ne_none _ taken.symm

end Samples

end Tempmail.Web
