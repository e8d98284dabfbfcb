import Tempmail.Web.InForce
import Tempmail.Web.Redirects

set_option autoImplicit false

namespace Tempmail.Web

open Locations (select slashed inherited)
open UrlPath (Part Path Parted normal parse)

def strictTransport : String × String := ("Strict-Transport-Security", "max-age=31536000")

-- build_security_headers, which runs once, before nginx starts.
def securityHeaders (hsts : Bool) : List (String × String) :=
  [("X-Content-Type-Options", "nosniff"), ("X-Frame-Options", "DENY"), ("Referrer-Policy", "strict-origin-when-cross-origin"),
    ("Content-Security-Policy", "default-src 'self'; script-src 'self' 'unsafe-inline'; style-src 'self' 'unsafe-inline'; " ++
      "img-src 'self' data: https:; font-src 'self' data:; connect-src 'self'; frame-src 'self' data:; " ++
      "frame-ancestors 'none'; base-uri 'self'; form-action 'self'; object-src 'none'")] ++
    if hsts then [strictTransport] else []

-- error_page 404 stands beside the include of locations.conf.
def Site.errorPage : Site → Option (List Char)
  | .full => some "/404.html".toList
  | _ => none

structure Webroot where
  pages : List Char → Bool
  challenges : List Char → Bool

def Webroot.misses (root : Webroot) : EdgeAnswer → Bool
  | .files candidates => !candidates.any root.pages
  | .challenge path => !root.challenges path
  | _ => false

-- The location whose directives count at the end: a missing file is answered by
-- the error page, which is looked up like a path that was asked for.
def ServerBlock.answering (server : ServerBlock) (root : Webroot) (request : EdgeRequest) (uri : Path)
    (location : Location) : Location :=
  if root.misses (locationAnswer location server.site.panel request uri) then
    ((server.site.errorPage).bind (select server.site.locations)).getD location
  else location

def added (file above : List (String × String)) (location : Location) : List (String × String) :=
  inherited ((if location.body.security then file else []) ++ location.body.headers) above

-- What nginx adds to an answer; write_security_headers is called for the servers
-- that listen on 443.
def ServerBlock.sends (server : ServerBlock) (file : List (String × String)) (root : Webroot) (request : EdgeRequest) :
    List (String × String) :=
  let above := if server.listensOn true then file else []
  match normal (parse request.path) with
  | none => []
  | some uri =>
      if server.redirectsHttp && server.site != .challengeOnly && !request.https then above
      else match slashed appends server.site.locations (UrlPath.text uri) with
        | some location => added file above location
        | none => match select server.site.locations (UrlPath.text uri) with
          | none => above
          | some location => added file above (server.answering root request uri location)

def Container.sends (container : Container) (root : Webroot) (request : EdgeRequest) : List (String × String) :=
  match choose container.loaded request.https request.host with
  | none => []
  | some server => server.sends (securityHeaders container.hsts) root request

section Locations

def tidy (location : Location) : Bool :=
  (location.body.headers.isEmpty || location.body.security) &&
    location.body.headers.all (fun header => header.1 != "Strict-Transport-Security" &&
      (header != immutable || location == staticChunks) &&
      (match location.body.reply with
        | .proxy => header == noStore
        | .proxyTo _ => header == noStore
        | _ => true))

theorem site_tidy (site : Site) : site.locations.all tidy = true :=
  each_site (fun locations => locations.all tidy) (by decide +kernel) (by decide +kernel) (by decide +kernel)
    (fun docs => by cases docs <;> decide +kernel) site

variable (site : Site) (location : Location) (member : location ∈ site.locations)

include member

theorem headed_location : location.body.headers ≠ [] → location.body.security = true := by
  intro filled
  have here := List.all_eq_true.mp (site_tidy site) location member
  rw [tidy, Bool.and_eq_true, Bool.or_eq_true] at here
  exact here.1.resolve_left fun empty => filled (List.isEmpty_iff.mp empty)

variable (header : String × String) (own : header ∈ location.body.headers)

include own

theorem tidy_header : header.1 ≠ "Strict-Transport-Security" ∧ (header = immutable → location = staticChunks) ∧
    ((∃ base, location.body.reply = .proxyTo base) ∨ location.body.reply = .proxy → header = noStore) := by
  have here := List.all_eq_true.mp (site_tidy site) location member
  rw [tidy, Bool.and_eq_true, List.all_eq_true] at here
  have all := here.2 header own
  rw [Bool.and_eq_true, Bool.and_eq_true, Bool.or_eq_true, bne_iff_ne, bne_iff_ne, beq_iff_eq] at all
  obtain ⟨⟨strict, chunks⟩, proxied⟩ := all
  refine ⟨strict, fun same => chunks.resolve_left fun other => other same, ?_⟩
  rintro (⟨base, reply⟩ | reply)
  all_goals
    rw [reply] at proxied
    exact eq_of_beq proxied

end Locations

section Servers

variable (server : ServerBlock) (file : List (String × String)) (root : Webroot) (request : EdgeRequest)

theorem added_member (above : List (String × String)) (location : Location) (header : String × String)
    (member : header ∈ added file above location) : header ∈ file ∨ header ∈ above ∨ header ∈ location.body.headers := by
  rcases Locations.inherited_member _ _ _ member with own | outer
  · rcases List.mem_append.mp own with listed | named
    · split at listed
      · exact Or.inl listed
      · cases listed
    · exact Or.inr (Or.inr named)
  · exact Or.inr (Or.inl outer)

theorem answering_member (uri : Path) (location : Location) (member : location ∈ server.site.locations) :
    server.answering root request uri location ∈ server.site.locations := by
  unfold ServerBlock.answering
  split
  · cases page : server.site.errorPage.bind (select server.site.locations) with
    | none => exact member
    | some other =>
        obtain ⟨path, -, found⟩ := Option.bind_eq_some_iff.mp page
        exact (Locations.select_spec _ _ other found).1
  · exact member

-- The location whose directives an answer has, if one was chosen: the one that
-- appends its slash, or the one that answers.
inductive Heads (uri : Path) (location : Location) : Prop where
  | appended (found : slashed appends server.site.locations (UrlPath.text uri) = some location)
      (answer : server.answer request = .redirect 301 request.https request.host location.path)
  | chosen (first : Location) (found : select server.site.locations (UrlPath.text uri) = some first)
      (answer : server.answer request = locationAnswer first server.site.panel request uri)
      (answering : location = server.answering root request uri first)

theorem heads_member (uri : Path) (location : Location) (heads : Heads server root request uri location) :
    location ∈ server.site.locations := by
  cases heads with
  | appended found => exact (Locations.slashed_spec _ _ _ location found).1
  | chosen first found answer answering =>
      rw [answering]
      exact answering_member server root request uri first (Locations.select_spec _ _ first found).1

theorem sends_spec (uri : Path) (resolved : normal (parse request.path) = some uri) :
    (server.sends file root request = (if server.listensOn true then file else []) ∧
      (server.answer request = .redirect 301 true request.host request.path ∨ server.answer request = .notFound)) ∨
    ∃ location, Heads server root request uri location ∧
      server.sends file root request = added file (if server.listensOn true then file else []) location := by
  unfold ServerBlock.sends
  have answer : server.answer request = server.answer request := rfl
  conv_rhs at answer => unfold ServerBlock.answer
  rw [resolved] at answer ⊢
  dsimp only at answer ⊢
  split
  · rename_i secure
    rw [if_pos secure] at answer
    exact Or.inl ⟨rfl, Or.inl answer⟩
  · rename_i direct
    rw [if_neg direct] at answer
    cases short : slashed appends server.site.locations (UrlPath.text uri) with
    | some location =>
        rw [short] at answer
        exact Or.inr ⟨location, .appended short answer, rfl⟩
    | none =>
        rw [short] at answer
        cases chosen : select server.site.locations (UrlPath.text uri) with
        | none =>
            rw [chosen] at answer
            exact Or.inl ⟨rfl, Or.inr answer⟩
        | some location =>
            rw [chosen] at answer
            exact Or.inr ⟨_, .chosen location chosen answer rfl, rfl⟩

variable (uri : Path) (resolved : normal (parse request.path) = some uri)

include resolved

theorem sends_file (listens : server.listensOn true = true) (header : String × String) (member : header ∈ file) :
    header ∈ server.sends file root request := by
  rcases sends_spec server file root request uri resolved with ⟨sent, -⟩ | ⟨location, heads, sent⟩
  · rw [sent, if_pos listens]
    exact member
  · have inside := heads_member server root request uri location heads
    rw [sent, if_pos listens]
    refine Locations.inherited_keeps _ _ header member fun filled => ?_
    by_cases secure : location.body.security = true
    · rw [if_pos secure]
      exact List.mem_append_left _ member
    · rw [if_neg secure, List.nil_append] at filled
      exact absurd (headed_location server.site _ inside filled) secure

theorem sends_from (header : String × String) (member : header ∈ server.sends file root request) :
    header ∈ file ∨ ∃ location, Heads server root request uri location ∧ header ∈ location.body.headers := by
  have outer : ∀ other, other ∈ (if server.listensOn true = true then file else []) → other ∈ file := by
    intro other inside
    split at inside
    · exact inside
    · cases inside
  rcases sends_spec server file root request uri resolved with ⟨sent, -⟩ | ⟨location, heads, sent⟩
  · rw [sent] at member
    exact Or.inl (outer header member)
  · rw [sent] at member
    rcases added_member file _ _ header member with listed | above | own
    · exact Or.inl listed
    · exact Or.inl (outer header above)
    · exact Or.inr ⟨location, heads, own⟩

end Servers

section Chunks

variable (server : ServerBlock) (root : Webroot) (request : EdgeRequest) (uri : Path) (location : Location)

theorem chunk_answer (panel : String) : locationAnswer staticChunks panel request uri = .files [UrlPath.text uri] := by
  have name : candidate (UrlPath.text uri) "$uri" = UrlPath.text uri := by
    rw [candidate, if_pos (by decide), show "$uri".toList.drop 4 = [] by decide, List.append_nil]
  rw [locationAnswer, if_neg (by decide)]
  exact congrArg (fun path => EdgeAnswer.files [path]) name

theorem error_location (page : List Char) (named : server.site.errorPage = some page) :
    select server.site.locations page = some rootPages := by
  cases site : server.site with
  | full =>
      rw [site] at named
      cases named
      decide +kernel
  | _ =>
      rw [site] at named
      cases named

theorem answering_chunks (answering : server.answering root request uri location = staticChunks) :
    location = staticChunks ∧ (root.pages (UrlPath.text uri) = true ∨ server.site.errorPage = none) := by
  unfold ServerBlock.answering at answering
  cases missing : root.misses (locationAnswer location server.site.panel request uri) with
  | true =>
      rw [missing, if_pos rfl] at answering
      cases named : server.site.errorPage with
      | none =>
          rw [named] at answering
          exact ⟨answering, Or.inr rfl⟩
      | some page =>
          rw [named, Option.bind_some, error_location server page named, Option.getD_some] at answering
          exact absurd answering (by decide +kernel)
  | false =>
      rw [missing, if_neg Bool.false_ne_true] at answering
      rw [answering, chunk_answer] at missing
      refine ⟨answering, Or.inl ?_⟩
      simpa [Webroot.misses] using missing

theorem proxied_reply (panel : String) (limit : Option Limit) (path : List Char)
    (proxied : locationAnswer location panel request uri = .proxied limit path) :
    (∃ base, location.body.reply = .proxyTo base) ∨ location.body.reply = .proxy := by
  unfold locationAnswer at proxied
  split at proxied
  · cases proxied
  · cases reply : location.body.reply with
    | proxy => exact Or.inr rfl
    | proxyTo base => exact Or.inl ⟨base, rfl⟩
    | _ =>
        rw [reply] at proxied
        cases proxied

def holdsChunks (locations : List Location) : Bool :=
  locations.all (fun location => !staticChunks.path.isPrefixOf location.path || location == staticChunks) &&
    (locations.contains staticChunks || locations.all (fun location => match location.body.reply with
      | .tryFiles _ => false
      | _ => true))

theorem site_chunks (site : Site) : holdsChunks site.locations = true :=
  each_site holdsChunks (by decide +kernel) (by decide +kernel) (by decide +kernel)
    (fun docs => by cases docs <;> decide +kernel) site

theorem chunk_location (chosen : select server.site.locations (UrlPath.text uri) = some location) (candidates : List (List Char))
    (served : locationAnswer location server.site.panel request uri = .files candidates)
    (below : staticChunks.path <+: UrlPath.text uri) : location = staticChunks := by
  have member := (Locations.select_spec _ _ location chosen).1
  have all := site_chunks server.site
  rw [holdsChunks, Bool.and_eq_true, Bool.or_eq_true, List.all_eq_true, List.all_eq_true, List.contains_iff_mem] at all
  have present : staticChunks ∈ server.site.locations := by
    refine all.2.resolve_right fun none_serves => ?_
    have here := none_serves location member
    unfold locationAnswer at served
    split at served
    · cases served
    · cases reply : location.body.reply with
      | tryFiles names =>
          rw [reply] at here
          cases here
      | _ =>
          rw [reply] at served
          cases served
  have begins : staticChunks.begins (UrlPath.text uri) = true := by
    rw [Locations.Location.begins, Bool.and_eq_true]
    exact ⟨by decide, List.isPrefixOf_iff_prefix.mpr below⟩
  have under := Locations.select_under _ _ staticChunks location present begins chosen
  have here := all.1 location member
  rw [Bool.or_eq_true, Bool.not_eq_true', beq_iff_eq] at here
  exact here.resolve_left fun apart => by
    rw [List.isPrefixOf_iff_prefix.mpr under] at apart
    cases apart

end Chunks

section Runs

variable (born : Nat)

theorem iterate_keeps (Inv : Container → Prop) (disk : Disk)
    (reloaded : ∀ container reload, Inv container → Inv (container.reload reload))
    (stamped : ∀ container lastCert lastKey lastConf, Inv container → Inv { container with lastCert, lastKey, lastConf })
    (generated : ∀ container, Inv container → Inv (container.regenerate disk)) (container : Container) (certReload : Reload)
    (tested : Bool) (confReload : Reload) (holds : Inv container) :
    Inv (container.iterate born disk certReload tested confReload) := by
  have watched : Inv (container.watchCert born disk certReload) := by
    simp only [Container.watchCert]
    split
    · split
      · exact stamped _ _ _ _ (reloaded container certReload holds)
      · exact reloaded container certReload holds
    · exact holds
  have turned : ∀ nowConf, Inv ((container.watchCert born disk certReload).watchConf disk nowConf tested confReload) := by
    intro nowConf
    have written := generated _ watched
    simp only [Container.watchConf]
    split
    · split
      · split
        · exact stamped _ _ _ _ (reloaded _ confReload written)
        · exact reloaded _ confReload written
      · exact written
    · exact watched
  simp only [Container.iterate]
  split
  · split
    · exact turned _
    · exact watched
  · exact holds

structure Sealed (certified : Bool) (container : Container) : Prop where
  hsts : container.hsts = certified
  cert : container.cert = if certified then realCert else placeholderCert
  written : ∃ settings, container.written = generateConf container.cert container.key settings
  loaded : ∃ settings, container.loaded = generateConf container.cert container.key settings

theorem start_sealed (disk : Disk) : Sealed disk.certified (start born disk).container := by
  refine ⟨?_, ?_, ⟨_, rfl⟩, ⟨_, rfl⟩⟩
  · simp only [start, Bool.not_not]
  · simp only [start]
    cases disk.certified <;> rfl

theorem step_sealed (certified : Bool) (system : System) (event : Event) (known : Sealed certified system.container) :
    Sealed certified ((watch born).step system event).1.container := by
  cases event with
  | files disk => exact known
  | iteration certReload tested confReload =>
      refine iterate_keeps born (Sealed certified) system.disk ?_ ?_ ?_ system.container certReload tested confReload known
      · intro container reload holds
        cases reload with
        | applied => exact ⟨holds.hsts, holds.cert, holds.written, holds.written⟩
        | refused => exact holds
        | failed => exact ⟨holds.hsts, holds.cert, holds.written, holds.loaded⟩
      · exact fun container _ _ _ holds => ⟨holds.hsts, holds.cert, holds.written, holds.loaded⟩
      · exact fun container holds => ⟨holds.hsts, holds.cert, ⟨_, rfl⟩, holds.loaded⟩

theorem final_sealed (disk : Disk) (events : List Event) :
    Sealed disk.certified ((watch born).final (start born disk) events).container :=
  ((watch born).invariant_run (fun system => Sealed disk.certified system.container) (fun _ => True)
    (fun system event _ known => step_sealed born disk.certified system event known) (start born disk) events (fun _ _ => trivial)
    (start_sealed born disk)).1

structure HeadersRight (certified : Bool) (container : Container) (root : Webroot) (request : EdgeRequest) : Prop where
  secured : request.https = true → ∀ header ∈ securityHeaders certified, header ∈ container.sends root request
  strict : ∀ value, ("Strict-Transport-Security", value) ∈ container.sends root request →
    certified = true ∧ ∀ path ∈ certificatePaths container.loaded, path = realCert
  unstored : ∀ limit path, container.loaded.answer request = .proxied limit path →
    ∀ value, ("Cache-Control", value) ∈ container.sends root request → value = "no-store"
  chunks : immutable ∈ container.sends root request ↔ ∃ server uri,
    choose container.loaded request.https request.host = some server ∧ normal (parse request.path) = some uri ∧
      server.answer request = .files [UrlPath.text uri] ∧ "/_next/static/".toList <+: UrlPath.text uri ∧
      (root.pages (UrlPath.text uri) = true ∨ server.site.errorPage = none)

theorem security_names (hsts : Bool) (header : String × String) (member : header ∈ securityHeaders hsts) :
    header.1 ≠ "Cache-Control" ∧ (header.1 = "Strict-Transport-Security" → hsts = true) := by
  have names : ∀ hsts, ∀ header ∈ securityHeaders hsts,
      header.1 ≠ "Cache-Control" ∧ (header.1 = "Strict-Transport-Security" → hsts = true) := by decide +kernel
  exact names hsts header member

theorem chosen_listens (cert key : String) (settings : WebSettings) (host : String) (server : ServerBlock)
    (chosen : choose (generateConf cert key settings) true host = some server) : server.listensOn true = true := by
  rw [choose_generated, Option.some.injEq] at chosen
  rw [← chosen]
  split <;> rfl

section Answers

variable (certified : Bool) (server : ServerBlock) (root : Webroot) (request : EdgeRequest) (uri : Path)
  (resolved : normal (parse request.path) = some uri)

include resolved

theorem strict_sent (value : String)
    (member : ("Strict-Transport-Security", value) ∈ server.sends (securityHeaders certified) root request) :
    certified = true := by
  rcases sends_from server _ root request uri resolved _ member with listed | ⟨location, heads, own⟩
  · exact (security_names certified _ listed).2 rfl
  · have inside := heads_member server root request uri location heads
    exact absurd rfl (tidy_header server.site _ inside _ own).1

theorem proxied_unstored (limit : Option Limit) (path : List Char) (proxied : server.answer request = .proxied limit path)
    (value : String) (member : ("Cache-Control", value) ∈ server.sends (securityHeaders certified) root request) :
    value = "no-store" := by
  rcases sends_from server _ root request uri resolved _ member with listed | ⟨location, heads, own⟩
  · exact absurd rfl (security_names certified _ listed).1
  · have inside := heads_member server root request uri location heads
    cases heads with
    | appended found answer =>
        rw [answer] at proxied
        cases proxied
    | chosen first found answer answering =>
        have same : location = first := by
          rw [answering, ServerBlock.answering, ← answer, proxied]
          rfl
        rw [same] at own inside
        have reply := proxied_reply request uri first server.site.panel limit path (answer ▸ proxied)
        exact congrArg Prod.snd ((tidy_header server.site first inside _ own).2.2 reply)

theorem marked_chunk (member : immutable ∈ server.sends (securityHeaders certified) root request) :
    server.answer request = .files [UrlPath.text uri] ∧ "/_next/static/".toList <+: UrlPath.text uri ∧
      (root.pages (UrlPath.text uri) = true ∨ server.site.errorPage = none) := by
  rcases sends_from server _ root request uri resolved _ member with listed | ⟨location, heads, own⟩
  · exact absurd rfl (security_names certified _ listed).1
  · have chunks := (tidy_header server.site _ (heads_member server root request uri location heads) _ own).2.1 rfl
    cases heads with
    | appended found answer =>
        have passes_on := (Locations.slashed_spec _ _ _ location found).2.1
        rw [chunks] at passes_on
        cases passes_on
    | chosen first found answer answering =>
        obtain ⟨same, held⟩ := answering_chunks server root request uri first (answering ▸ chunks)
        rw [same] at answer found
        refine ⟨answer.trans (chunk_answer request uri _), ?_, held⟩
        rcases (Locations.select_spec _ _ _ found).2 with ⟨exactly, -⟩ | ⟨begins, -⟩
        · exact absurd exactly (by decide)
        · rw [Locations.Location.begins, Bool.and_eq_true] at begins
          exact List.isPrefixOf_iff_prefix.mp begins.2

theorem chunk_marked (answer : server.answer request = .files [UrlPath.text uri])
    (below : "/_next/static/".toList <+: UrlPath.text uri)
    (held : root.pages (UrlPath.text uri) = true ∨ server.site.errorPage = none) :
    immutable ∈ server.sends (securityHeaders certified) root request := by
  rcases sends_spec server (securityHeaders certified) root request uri resolved with ⟨-, moved | missing⟩ |
    ⟨location, heads, sends⟩
  · rw [answer] at moved
    cases moved
  · rw [answer] at missing
    cases missing
  · cases heads with
    | appended found redirected =>
        rw [answer] at redirected
        cases redirected
    | chosen first found own answering =>
        have same := chunk_location server request uri first found _ (own ▸ answer) below
        have kept : location = staticChunks := by
          rw [answering, ServerBlock.answering, ← own, answer, same]
          rcases held with here | none
          · rw [if_neg (by simp [Webroot.misses, here])]
          · rw [none]
            exact ite_self _
        rw [sends, kept]
        exact List.mem_append_right _ List.mem_cons_self

end Answers

theorem sealed_right (certified : Bool) (container : Container) (known : Sealed certified container) (root : Webroot)
    (request : EdgeRequest) (answered : container.loaded.answer request ≠ .badRequest) :
    HeadersRight certified container root request := by
  obtain ⟨settings, generated⟩ := known.loaded
  obtain ⟨server, chosen⟩ : ∃ server, choose container.loaded request.https request.host = some server :=
    ⟨_, by rw [generated, choose_generated]⟩
  have serves : container.loaded.answer request = server.answer request := by rw [Conf.answer, chosen]
  have sent : container.sends root request = server.sends (securityHeaders certified) root request := by
    rw [Container.sends, chosen, known.hsts]
  obtain ⟨uri, resolved⟩ : ∃ uri, normal (parse request.path) = some uri := by
    cases found : normal (parse request.path) with
    | some uri => exact ⟨uri, rfl⟩
    | none =>
        rw [serves, ServerBlock.answer, found] at answered
        exact absurd rfl answered
  refine ⟨fun https header member => ?_, fun value member => ?_, fun limit path proxied value member => ?_, ?_⟩
  · rw [generated, https] at chosen
    rw [sent]
    exact sends_file server _ root request uri resolved (chosen_listens _ _ _ _ server chosen) header member
  · rw [sent] at member
    have real := strict_sent certified server root request uri resolved value member
    refine ⟨real, ?_⟩
    rw [generated, generated_paths, known.cert, real]
    simp
  · rw [sent] at member
    exact proxied_unstored certified server root request uri resolved limit path (serves ▸ proxied) value member
  · rw [sent]
    constructor
    · intro member
      exact ⟨server, uri, chosen, resolved, marked_chunk certified server root request uri resolved member⟩
    · rintro ⟨other, resource, picked, path, answer, below, held⟩
      rw [chosen, Option.some.injEq] at picked
      rw [resolved, Option.some.injEq] at path
      subst picked path
      exact chunk_marked certified server root request uri resolved answer below held

-- Whatever has happened to the container.
theorem headers_sent (disk : Disk) (events : List Event) (root : Webroot) (request : EdgeRequest)
    (answered : ((watch born).final (start born disk) events).container.loaded.answer request ≠ .badRequest) :
    HeadersRight disk.certified ((watch born).final (start born disk) events).container root request :=
  sealed_right disk.certified _ (final_sealed born disk events) root request answered

end Runs

def everyFile : Webroot := ⟨fun _ => true, fun _ => true⟩

-- A container that started before its certificate was issued.
theorem chunk_headers_right : HeadersRight false ((watch 10).final (start 10 {}) issued).container everyFile
    (panelRequest "/_next/static/app.js") :=
  headers_sent 10 {} issued everyFile (panelRequest "/_next/static/app.js") (by decide +kernel)

end Tempmail.Web
