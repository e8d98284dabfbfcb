import Tempmail.Config.WellFormed
import Tempmail.Config.Setup
import Tempmail.Lib.Script

set_option autoImplicit false

namespace Tempmail.Web

open Api (HTTPException Python strip matchLine isAlnum domainLabel)
open Config (lowerDomain hostnamePattern topLevelLabel)

structure TlsSettings where
  hostname : String
  webHostname : String
deriving DecidableEq, Repr

structure TlsIssueRequest where
  email : String
deriving DecidableEq, Repr

structure Job where
  id : String
  email : String
  domains : List String
deriving DecidableEq, Repr

structure TlsIssued where
  hostname : String
  domains : List String
deriving DecidableEq, Repr

def hostnameNotConfigured : HTTPException := ⟨400, "server.hostname 未配置有效的域名", []⟩
def webHostnameInvalid : HTTPException := ⟨400, "web.hostname 格式无效", []⟩
def jobPending : HTTPException := ⟨409, "已有签发任务正在进行中，请稍候", []⟩

section Api

variable (python : Python)

def TlsIssueRequest.validate (emailStr : String → Except String String) (given : String) :
    Except HTTPException TlsIssueRequest :=
  match emailStr given with
  | .error message => .error (Api.unprocessable message)
  | .ok email => .ok ⟨email⟩

-- The answer and the job that is written; now is time.time().
def tlsIssue (settings : TlsSettings) (pending : Bool) (now : Nat) (request : TlsIssueRequest) :
    Except HTTPException (TlsIssued × Job) :=
  let hostname := python.lower (strip settings.hostname)
  if hostname == "" || !matchLine lowerDomain hostname then .error hostnameNotConfigured
  else
    let webHostname := python.lower (strip settings.webHostname)
    let separate := webHostname != "" && webHostname != hostname
    if separate && !matchLine lowerDomain webHostname then .error webHostnameInvalid
    else
      let domains := if separate then [hostname, webHostname] else [hostname]
      if pending then .error jobPending
      else .ok (⟨hostname, domains⟩, ⟨toString now, request.email, domains⟩)

def submit (emailStr : String → Except String String) (settings : TlsSettings) (pending : Bool) (now : Nat) (given : String) :
    Except HTTPException (TlsIssued × Job) := do
  let request ← TlsIssueRequest.validate emailStr given
  tlsIssue python settings pending now request

end Api

section Sidecar

open Script (Item)

def isDomainChar (c : Char) : Bool := isAlnum c || c == '.' || c == '-'

def isEmailChar (c : Char) : Bool := isAlnum c || c == '@' || c == '.' || c == '_' || c == '+' || c == '-'

def refusedDomains : List (List Item) :=
  [[.star, Script.outside isDomainChar, .star], [Script.char '.', .star], [Script.char '-', .star],
    [.star, Script.char '.', Script.char '.', .star]]

def refusedEmails : List (List Item) := [[], [.star, Script.outside isEmailChar, .star]]

def refused (patterns : List (List Item)) (text : List Char) : Bool := patterns.any (fun pattern => Script.accepts pattern text)

-- The loop over the lines of the job's domains: set -- "$@" -d "$d".
def domainLoop : List (List Char) → List String → Option (List String)
  | [], arguments => some arguments
  | d :: rest, arguments =>
      if d.isEmpty then domainLoop rest arguments
      else if refused refusedDomains d then none
      else domainLoop rest (arguments ++ ["-d", String.ofList d])

def certbotArguments (email : String) (domains : List String) : List String :=
  ["certonly", "--non-interactive", "--agree-tos", "--no-eff-email", "--cert-name", "default", "--email", email,
    "--webroot", "-w", "/certbot-data/webroot", "--config-dir", "/certbot-data/letsencrypt",
    "--work-dir", "/certbot-data/letsencrypt-work", "--logs-dir", "/certbot-data/letsencrypt-logs"] ++ domains

inductive JobStep where
  | refused (message : String)
  | certbot (arguments : List String)
deriving DecidableEq, Repr

def invalidJob : String := "invalid job: email or domains missing/invalid"

def processIssueJob (job : Job) : JobStep :=
  let email := Script.substitution (job.email.toList ++ ['\n'])
  match domainLoop (Script.hereLines (Script.printed (job.domains.map String.toList))) [] with
  | none => .refused invalidJob
  | some arguments =>
      if refused refusedEmails email || arguments.isEmpty then .refused invalidJob
      else .certbot (certbotArguments (String.ofList email) arguments)

end Sidecar

-- What a job is for: certbot with its address as one argument and one -d for
-- each of its domains, none of them an option by its look.
structure Executable (job : Job) : Prop where
  invoked : processIssueJob job = .certbot (certbotArguments job.email (job.domains.flatMap (fun domain => ["-d", domain])))
  values : ∀ value ∈ job.email :: job.domains, value.toList.head? ≠ some '-'

structure FitsCommandLine (email : String) : Prop where
  given : email ≠ ""
  chars : ∀ c ∈ email.toList, isEmailChar c = true
  value : email.toList.head? ≠ some '-'

section Patterns

theorem refused_domain_iff (text : List Char) :
    refused refusedDomains text = true ↔
      (∃ c ∈ text, isDomainChar c = false) ∨ text.head? = some '.' ∨ text.head? = some '-' ∨
        ∃ front back, text = front ++ '.' :: '.' :: back := by
  simp only [refused, refusedDomains, List.any_cons, List.any_nil, Bool.or_false, Bool.or_eq_true, Script.outside,
    Script.accepts_somewhere, Script.accepts_first, Script.accepts_doubled, Bool.not_eq_true']

theorem refused_email_iff (text : List Char) :
    refused refusedEmails text = true ↔ text = [] ∨ ∃ c ∈ text, isEmailChar c = false := by
  simp only [refused, refusedEmails, List.any_cons, List.any_nil, Bool.or_false, Bool.or_eq_true, Script.outside,
    Script.accepts_somewhere, Script.accepts_none, Bool.not_eq_true']

end Patterns

section Domains

theorem label_first (label : List Char) (valid : domainLabel label = true) : ∃ c more, label = c :: more ∧ isAlnum c = true := by
  simp only [domainLabel, Bool.and_eq_true] at valid
  cases label with
  | nil => exact absurd valid.1.2 (by decide)
  | cons c more => exact ⟨c, more, rfl, valid.1.2⟩

theorem label_chars (label : List Char) (valid : domainLabel label = true) (c : Char) (member : c ∈ label) :
    isDomainChar c = true ∧ c ≠ '.' := by
  simp only [domainLabel, Bool.and_eq_true, List.all_eq_true, Bool.or_eq_true, beq_iff_eq] at valid
  rcases valid.1.1.2 c member with letter | hyphen
  · refine ⟨by simp [isDomainChar, letter], ?_⟩
    rintro rfl
    exact absurd letter (by decide)
  · subst hyphen
    exact ⟨by decide, by decide⟩

theorem domain_labels (chars : List Char) (valid : lowerDomain chars = true) (label : List Char)
    (member : label ∈ chars.splitOn '.') : domainLabel label = true := by
  simp only [lowerDomain, Bool.and_eq_true] at valid
  exact List.all_eq_true.mp valid.2 label member

theorem domain_chars (chars : List Char) (valid : lowerDomain chars = true) (c : Char) (member : c ∈ chars) :
    isDomainChar c = true := by
  rcases Text.split_member '.' c chars member with dot | ⟨label, known, inside⟩
  · subst dot
    decide
  · exact (label_chars label (domain_labels chars valid label known) c inside).1

theorem domain_first (chars : List Char) (valid : lowerDomain chars = true) :
    ∃ c more, chars = c :: more ∧ isAlnum c = true := by
  cases chars with
  | nil =>
      obtain ⟨c, more, empty, -⟩ := label_first [] (domain_labels [] valid [] (by simp))
      cases empty
  | cons c more =>
      have labels := domain_labels (c :: more) valid
      rw [List.splitOn_cons_eq_if_modifyHead] at labels
      by_cases dot : (c == '.') = true
      · rw [if_pos dot] at labels
        obtain ⟨first, rest, empty, -⟩ := label_first [] (labels [] List.mem_cons_self)
        cases empty
      · rw [if_neg dot] at labels
        cases parts : more.splitOn '.' with
        | nil => exact absurd parts (List.splitOn_ne_nil '.' more)
        | cons head tail =>
            rw [parts, List.modifyHead_cons] at labels
            obtain ⟨first, rest, same, letter⟩ := label_first (c :: head) (labels _ List.mem_cons_self)
            cases same
            exact ⟨c, more, rfl, letter⟩

theorem domain_dots (chars : List Char) (valid : lowerDomain chars = true) (front back : List Char) :
    chars ≠ front ++ '.' :: '.' :: back := by
  intro whole
  have empty : [] ∈ chars.splitOn '.' := by
    rw [whole, List.splitOn_append_cons_self, List.splitOn_cons_eq_if_modifyHead]
    simp
  obtain ⟨c, more, none, -⟩ := label_first [] (domain_labels chars valid [] empty)
  cases none

theorem domain_value (chars : List Char) (valid : lowerDomain chars = true) : chars.head? ≠ some '-' := by
  obtain ⟨c, more, whole, letter⟩ := domain_first chars valid
  rw [whole, List.head?_cons]
  intro same
  cases same
  exact absurd letter (by decide)

theorem domain_taken (chars : List Char) (valid : lowerDomain chars = true) : refused refusedDomains chars = false := by
  rw [Bool.eq_false_iff]
  intro found
  rcases (refused_domain_iff chars).mp found with ⟨c, member, other⟩ | dot | hyphen | ⟨front, back, whole⟩
  · exact absurd (domain_chars chars valid c member) (by simp [other])
  · obtain ⟨c, more, same, letter⟩ := domain_first chars valid
    rw [same, List.head?_cons] at dot
    cases dot
    exact absurd letter (by decide)
  · exact domain_value chars valid hyphen
  · exact domain_dots chars valid front back whole

theorem domain_line (chars : List Char) (valid : lowerDomain chars = true) :
    chars ≠ [] ∧ '\n' ∉ chars ∧ '\x00' ∉ chars := by
  obtain ⟨c, more, whole, -⟩ := domain_first chars valid
  refine ⟨by simp [whole], fun newline => ?_, fun nul => ?_⟩
  · exact absurd (domain_chars chars valid _ newline) (by decide)
  · exact absurd (domain_chars chars valid _ nul) (by decide)

end Domains

section Jobs

variable (python : Python)

theorem tls_issue_spec (settings : TlsSettings) (pending : Bool) (now : Nat) (request : TlsIssueRequest) (issued : TlsIssued)
    (job : Job) (submitted : tlsIssue python settings pending now request = .ok (issued, job)) :
    job.email = request.email ∧ job.domains ≠ [] ∧ ∀ domain ∈ job.domains, lowerDomain domain.toList = true := by
  have solid (text : String) :
    matchLine lowerDomain (python.lower (strip text)) = lowerDomain (python.lower (strip text)).toList :=
    Api.match_line_solid lowerDomain _ (Api.lower_stripped_last python text)
  simp only [tlsIssue, solid] at submitted
  split at submitted
  · cases submitted
  · rename_i named
    simp only [Bool.or_eq_true, not_or, Bool.not_eq_true', Bool.not_eq_false] at named
    have mail := named.2
    split at submitted
    · cases submitted
    · rename_i paneled
      split at submitted
      · cases submitted
      · cases submitted
        refine ⟨rfl, by split <;> simp, fun domain member => ?_⟩
        split at member
        · rename_i separate
          have panel : lowerDomain (python.lower (strip settings.webHostname)).toList = true := by
            simpa [separate] using paneled
          simp only [List.mem_cons, List.not_mem_nil, or_false] at member
          rcases member with rfl | rfl
          · exact mail
          · exact panel
        · rw [List.mem_singleton.mp member]
          exact mail

theorem submit_spec (emailStr : String → Except String String) (settings : TlsSettings) (pending : Bool) (now : Nat)
    (given : String) (issued : TlsIssued) (job : Job)
    (submitted : submit python emailStr settings pending now given = .ok (issued, job)) :
    emailStr given = .ok job.email ∧ job.domains ≠ [] ∧ ∀ domain ∈ job.domains, lowerDomain domain.toList = true := by
  cases checked : emailStr given with
  | error message => simp [submit, TlsIssueRequest.validate, checked, bind, Except.bind] at submitted
  | ok email =>
      simp only [submit, TlsIssueRequest.validate, checked, bind, Except.bind] at submitted
      obtain ⟨same, domains⟩ := tls_issue_spec python settings pending now ⟨email⟩ issued job submitted
      exact ⟨congrArg Except.ok same.symm, domains⟩

theorem domain_loop_taken (domains : List String) (arguments : List String)
    (valid : ∀ domain ∈ domains, lowerDomain domain.toList = true) :
    domainLoop (domains.map String.toList) arguments = some (arguments ++ domains.flatMap (fun domain => ["-d", domain])) := by
  induction domains generalizing arguments with
  | nil => simp [domainLoop]
  | cons domain rest ih =>
      have named := valid domain List.mem_cons_self
      have filled : domain.toList.isEmpty = false := by simpa using (domain_line domain.toList named).1
      rw [List.map_cons, domainLoop, filled, domain_taken domain.toList named, String.ofList_toList,
        if_neg Bool.false_ne_true, if_neg Bool.false_ne_true,
          ih _ (fun other member => valid other (List.mem_cons_of_mem _ member)),
        List.flatMap_cons, List.append_assoc]

theorem job_lines (domains : List String) (nonempty : domains ≠ [])
    (valid : ∀ domain ∈ domains, lowerDomain domain.toList = true) :
    Script.hereLines (Script.printed (domains.map String.toList)) = domains.map String.toList := by
  have lines (text : List Char) (member : text ∈ domains.map String.toList) : text ≠ [] ∧ '\n' ∉ text ∧ '\x00' ∉ text := by
    obtain ⟨domain, known, same⟩ := List.mem_map.mp member
    exact same ▸ domain_line domain.toList (valid domain known)
  exact Script.here_lines_printed _ (by simpa using nonempty) (fun text member => (lines text member).1)
    (fun text member => (lines text member).2.1) (fun text member => (lines text member).2.2)

theorem process_submitted (job : Job) (nonempty : job.domains ≠ [])
    (valid : ∀ domain ∈ job.domains, lowerDomain domain.toList = true) :
    processIssueJob job =
      if refused refusedEmails (Script.substitution (job.email.toList ++ ['\n'])) then .refused invalidJob
      else .certbot (certbotArguments (String.ofList (Script.substitution (job.email.toList ++ ['\n'])))
        (job.domains.flatMap (fun domain => ["-d", domain]))) := by
  have some : (job.domains.flatMap (fun domain => ["-d", domain])).isEmpty = false := by
    cases named : job.domains with
    | nil => exact absurd named nonempty
    | cons domain rest => rfl
  simp only [processIssueJob, job_lines job.domains nonempty valid, domain_loop_taken job.domains [] valid, List.nil_append, some,
    Bool.or_false]

theorem certbot_email (email : String) (domains : List String) : (certbotArguments email domains)[7]? = some email := rfl

theorem email_passed (email : String) (fits : FitsCommandLine email) :
    Script.substitution (email.toList ++ ['\n']) = email.toList ∧ refused refusedEmails email.toList = false := by
  have newline : '\n' ∉ email.toList := fun member => absurd (fits.chars _ member) (by decide)
  have nul : '\x00' ∉ email.toList := fun member => absurd (fits.chars _ member) (by decide)
  refine ⟨Script.substitution_ended _ nul (fun last => newline (List.mem_of_getLast? last)), ?_⟩
  rw [Bool.eq_false_iff]
  intro found
  rcases (refused_email_iff email.toList).mp found with empty | ⟨c, member, other⟩
  · exact fits.given (String.toList_eq_nil_iff.mp empty)
  · exact absurd (fits.chars c member) (by simp [other])

-- A submitted job can be executed exactly when its address fits the command line.
theorem job_executable_iff (emailStr : String → Except String String) (settings : TlsSettings) (pending : Bool) (now : Nat)
    (given : String) (issued : TlsIssued) (job : Job)
    (submitted : submit python emailStr settings pending now given = .ok (issued, job)) :
    Executable job ↔ ∃ email, emailStr given = .ok email ∧ FitsCommandLine email := by
  obtain ⟨checked, nonempty, valid⟩ := submit_spec python emailStr settings pending now given issued job submitted
  have step := process_submitted job nonempty valid
  simp only [checked, Except.ok.injEq, exists_eq_left']
  constructor
  · intro executable
    have invoked := executable.invoked
    rw [step] at invoked
    split at invoked
    · cases invoked
    · rename_i taken
      have same : String.ofList (Script.substitution (job.email.toList ++ ['\n'])) = job.email := by
        have arguments := congrArg (fun arguments => arguments[7]?) (JobStep.certbot.inj invoked)
        simpa only [certbot_email, Option.some.injEq] using arguments
      have chars := congrArg String.toList same
      rw [String.toList_ofList] at chars
      rw [chars, refused_email_iff] at taken
      refine ⟨fun empty => taken (Or.inl (by rw [empty]; rfl)), fun c member => ?_, executable.values _ List.mem_cons_self⟩
      by_contra other
      exact taken (Or.inr ⟨c, member, by simpa using other⟩)
  · intro fits
    obtain ⟨kept, taken⟩ := email_passed job.email fits
    constructor
    · rw [step, kept, taken, if_neg Bool.false_ne_true, String.ofList_toList]
    · intro value member
      rcases List.mem_cons.mp member with email | domain
      · exact email ▸ fits.value
      · exact domain_value value.toList (valid value domain)

end Jobs

section Stored

variable (python : Python)

inductive StoredHostname : String → Prop where
  | wizard (given text : String) (valid : Config.validateHostname python given = .ok text) : StoredHostname text
  | patch (given : String) (valid : Config.isHostname (strip given) = true) : StoredHostname (python.lower (strip given))

theorem top_level_label (label : List Char) (valid : topLevelLabel label = true) : domainLabel label = true := by
  simp only [topLevelLabel, Bool.and_eq_true, decide_eq_true_eq, List.all_eq_true] at valid
  obtain ⟨⟨least, most⟩, letters⟩ := valid
  have alnum (c : Char) (member : c ∈ label) : isAlnum c = true := by rw [isAlnum, letters c member, Bool.true_or]
  have filled : label ≠ [] := by
    rintro rfl
    exact absurd least (by decide)
  simp only [domainLabel, Bool.and_eq_true, decide_eq_true_eq, List.all_eq_true, Bool.or_eq_true]
  refine ⟨⟨⟨most, fun c member => Or.inl (alnum c member)⟩, ?_⟩, ?_⟩
  · rw [List.head?_eq_some_head filled, Option.any_some]
    exact alnum _ (List.head_mem filled)
  · rw [List.getLast?_eq_some_getLast filled, Option.any_some]
    exact alnum _ (List.getLast_mem filled)

theorem lower_hostname_domain (text : String) (valid : Config.LowerHostname text) : lowerDomain text.toList = true := by
  have name := valid.name
  simp only [hostnamePattern, Bool.and_eq_true, decide_eq_true_eq] at name
  obtain ⟨⟨⟨-, several⟩, labels⟩, final⟩ := name
  have filled : text.toList.splitOn '.' ≠ [] := List.splitOn_ne_nil '.' _
  have all : (text.toList.splitOn '.').all domainLabel = true := by
    rw [List.getLast?_eq_some_getLast filled, Option.any_some] at final
    rw [← List.dropLast_append_getLast filled, List.all_append, labels, Bool.true_and, List.all_cons, List.all_nil, Bool.and_true]
    exact top_level_label _ final
  simp only [lowerDomain, all, Bool.and_true, Bool.and_eq_true, List.all_eq_true, decide_eq_true_eq, Bool.not_eq_true']
  exact ⟨valid.lower, several⟩

theorem stored_domain (text : String) (stored : StoredHostname python text) : lowerDomain text.toList = true := by
  cases stored with
  | wizard given text valid =>
      simp only [Config.validateHostname, Config.normalized] at valid
      split at valid
      · rename_i matched
        cases valid
        rwa [Api.match_line_solid lowerDomain _ (Api.lower_stripped_last python given)] at matched
      · cases valid
  | patch given valid => exact lower_hostname_domain _ (Config.stored_hostname python given valid)

theorem stored_kept (text : String) (valid : lowerDomain text.toList = true) : python.lower (strip text) = text := by
  have chars (c : Char) (member : c ∈ text.toList) : Api.isUsernameChar c = true := by
    have domain := domain_chars text.toList valid c member
    simp only [isDomainChar, Bool.or_eq_true] at domain
    simp only [Api.isUsernameChar, Bool.or_eq_true]
    rcases domain with (letter | dot) | hyphen
    · exact Or.inl (Or.inl (Or.inl letter))
    · exact Or.inl (Or.inl (Or.inr dot))
    · exact Or.inr hyphen
  simp only [lowerDomain, Bool.and_eq_true, List.all_eq_true, Bool.not_eq_true'] at valid
  have plain : Api.PlainUsername text := ⟨chars, valid.1.1⟩
  rw [Api.strip_same text plain, Api.python_lower_same python text plain]

theorem stored_submitted (emailStr : String → Except String String) (settings : TlsSettings) (now : Nat) (given email : String)
    (mail : StoredHostname python settings.hostname)
    (panel : settings.webHostname = "" ∨ StoredHostname python settings.webHostname)
    (accepted : emailStr given = .ok email) :
    ∃ issued job, submit python emailStr settings false now given = .ok (issued, job) ∧ job.email = email ∧
      job.domains = if settings.webHostname = "" ∨ settings.webHostname = settings.hostname then [settings.hostname]
        else [settings.hostname, settings.webHostname] := by
  have host := stored_domain python settings.hostname mail
  have named : settings.hostname ≠ "" := by
    intro empty
    rw [empty] at host
    exact absurd host (by decide)
  have solid (text : String) (valid : lowerDomain text.toList = true) : matchLine lowerDomain text = true := by
    rw [matchLine, valid, Bool.true_or]
  have web : python.lower (strip settings.webHostname) = settings.webHostname ∧
      (settings.webHostname = "" ∨ matchLine lowerDomain settings.webHostname = true) := by
    rcases panel with empty | stored
    · rw [empty]
      exact ⟨Config.lower_empty python, Or.inl rfl⟩
    · have valid := stored_domain python settings.webHostname stored
      exact ⟨stored_kept python _ valid, Or.inr (solid _ valid)⟩
  simp only [submit, TlsIssueRequest.validate, accepted, bind, Except.bind, tlsIssue,
    stored_kept python _ host, solid _ host, web.1]
  by_cases empty : settings.webHostname = ""
  · simp [named, empty]
  · by_cases same : settings.webHostname = settings.hostname
    · simp [named, same]
    · have valid := web.2.resolve_left empty
      simp [named, empty, same, valid]

end Stored

def sampleEmailStr (given : String) : Except String String :=
  if Api.plainEmailStr given then .ok given else .error "value is not a valid email address"

def sampleTls : TlsSettings := ⟨"mx.example.com", "panel.example.com"⟩

theorem panel_job_executable :
    ∃ issued job, submit Api.asciiPython sampleEmailStr sampleTls false 0 "ops@example.com" =
      .ok (issued, job) ∧ Executable job := by
  have submitted : submit Api.asciiPython sampleEmailStr sampleTls false 0 "ops@example.com" =
      .ok (⟨"mx.example.com", ["mx.example.com", "panel.example.com"]⟩,
        ⟨"0", "ops@example.com", ["mx.example.com", "panel.example.com"]⟩) := by decide +kernel
  refine ⟨_, _, submitted,
    (job_executable_iff Api.asciiPython sampleEmailStr sampleTls false 0 "ops@example.com" _ _ submitted).mpr
    ⟨"ops@example.com", by decide +kernel, by decide, List.all_eq_true.mp (by decide +kernel), by decide +kernel⟩⟩

theorem apostrophe_job_refused :
    ¬ ∀ issued job, submit Api.asciiPython sampleEmailStr sampleTls false 0 "o\x27brien@example.com" = .ok (issued, job) →
      Executable job := by
  intro executable
  have invoked := (executable ⟨"mx.example.com", ["mx.example.com", "panel.example.com"]⟩
    ⟨"0", "o\x27brien@example.com", ["mx.example.com", "panel.example.com"]⟩ (by decide +kernel)).invoked
  have refused : processIssueJob ⟨"0", "o\x27brien@example.com", ["mx.example.com", "panel.example.com"]⟩ =
      .refused invalidJob := by decide +kernel
  rw [refused] at invoked
  cases invoked

end Tempmail.Web
