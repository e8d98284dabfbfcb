import Tempmail.Web.Edge

set_option autoImplicit false

namespace Tempmail.Web

open Locations (select slashed)
open UrlPath (Part Path Parted normal parse)

-- $host of a request to a name: in lower case, without the dot at its end.
def hostVar (name : String) : String :=
  let lower := lowerName name
  if lower.toList.getLast? = some '.' then String.ofList lower.toList.dropLast else lower

-- The request a client makes next when it is redirected.
def Conf.follow (conf : Conf) (request : EdgeRequest) : Option EdgeRequest :=
  match conf.answer request with
  | .redirect _ https host path => some { request with https, host := hostVar host, path }
  | _ => none

-- A client that follows every redirect follows so many at most.
def Conf.Ends (conf : Conf) : Nat → EdgeRequest → Prop
  | 0, request => conf.follow request = none
  | n + 1, request => ∀ next, conf.follow request = some next → Conf.Ends conf n next

section Ends

variable (conf : Conf)

theorem ends_none (request : EdgeRequest) (n : Nat) (stays : conf.follow request = none) : conf.Ends n request := by
  cases n with
  | zero => exact stays
  | succ n =>
      intro next redirected
      rw [stays] at redirected
      cases redirected

theorem ends_more (n : Nat) (request : EdgeRequest) (ends : conf.Ends n request) : conf.Ends (n + 1) request := by
  induction n generalizing request with
  | zero => exact ends_none conf request 1 ends
  | succ n ih => exact fun next moved => ih next (ends next moved)

theorem ends_within (n m : Nat) (order : n ≤ m) (request : EdgeRequest) (ends : conf.Ends n request) : conf.Ends m request := by
  induction m with
  | zero =>
      rw [Nat.le_zero.mp order] at ends
      exact ends
  | succ m ih =>
      by_cases same : n = m + 1
      · rw [← same]
        exact ends
      · exact ends_more conf m request (ih (by omega))

end Ends

def rests (location : Location) (uri : Path) : Bool :=
  (!location.body.slashless || (slashlessPath uri).isNone) && match location.body.reply with
    | .toHttps => false
    | .toPanel => false
    | .moved _ => false
    | _ => true

def quiet (locations : List Location) (path : List Char) : Bool :=
  match normal (parse path) with
  | some uri => (slashed appends locations (UrlPath.text uri)).isNone &&
      (select locations (UrlPath.text uri)).all (fun location => rests location uri)
  | none => false

def targets (locations : List Location) : List (List Char) :=
  locations.filterMap (fun location => match location.body.reply with
    | .moved path => some path.toList
    | _ => none) ++
  (locations.filter (fun location => appends location &&
    locations.all (fun other => other.path ++ ['/'] != location.path))).map Locations.Location.path

section Settling

theorem quiet_iff (locations : List Location) (path : List Char) : quiet locations path = true ↔
    ∃ uri, normal (parse path) = some uri ∧ slashed appends locations (UrlPath.text uri) = none ∧
      ∀ location, select locations (UrlPath.text uri) = some location → rests location uri = true := by
  unfold quiet
  cases normal (parse path) with
  | none => simp
  | some uri => simp [Option.all_eq_true]

theorem slashed_target (locations : List Location) (text : List Char) (location : Location)
    (found : slashed appends locations text = some location) : location.path ∈ targets locations := by
  obtain ⟨member, passes_on, path, apart⟩ := Locations.slashed_spec _ _ _ location found
  refine List.mem_append_right _ (List.mem_map.mpr ⟨location, List.mem_filter.mpr ⟨member, ?_⟩, rfl⟩)
  rw [passes_on, Bool.true_and, List.all_eq_true]
  intro other inside
  rw [bne_iff_ne, path]
  exact fun same => apart other inside (List.append_cancel_right same)

structure Shortened (uri shorter : Path) : Prop where
  nonempty : shorter ≠ []
  unbroken : '\n' ∉ UrlPath.text shorter
  plain : ∀ part ∈ shorter, UrlPath.plain part = true
  parted : Parted shorter
  text : UrlPath.text shorter ++ ['/'] <+: UrlPath.text uri

theorem shorter_plain (path uri : Path) (resolved : normal path = some uri) :
    ∀ part ∈ uri.dropLast, UrlPath.plain part = true := by
  obtain ⟨body, rest, split, plainBody, tail⟩ := UrlPath.normal_parts path uri resolved
  intro part member
  rw [split] at member
  rcases tail with none | single
  · rw [none, List.append_nil] at member
    exact plainBody part (List.mem_of_mem_dropLast member)
  · rw [single, List.dropLast_concat] at member
    exact plainBody part member

theorem shorter_spec (uri shorter path : Path) (resolved : normal path = some uri) (parted : Parted path)
    (shortened : slashlessPath uri = some shorter) : Shortened uri shorter := by
  unfold slashlessPath at shortened
  split at shortened
  · rename_i last ending
    split at shortened
    · rename_i allowed
      obtain ⟨-, nonempty, unbroken⟩ := allowed
      rw [Option.some.injEq] at shortened
      rw [← shortened]
      refine ⟨nonempty, unbroken, shorter_plain path uri resolved, ?_, last, ?_⟩
      · intro part member
        exact UrlPath.normal_parted path uri parted resolved part (List.mem_of_mem_dropLast member)
      · have whole : uri = uri.dropLast ++ [last] := (List.dropLast_append_getLast? last ending).symm
        conv_rhs => rw [whole]
        rw [UrlPath.text_append]
        simp [UrlPath.text]
    · cases shortened
  · cases shortened

theorem shorter_kept (uri shorter : Path) (known : Shortened uri shorter) : slashlessPath shorter = none := by
  unfold slashlessPath
  split
  · rename_i part final
    have inside := List.mem_of_getLast? final
    rw [if_neg]
    rintro ⟨ends | ends, -, -⟩
    · rw [ends] at inside
      exact absurd (known.plain [] inside) (by decide)
    · rw [ends] at inside
      exact known.unbroken (List.mem_flatMap.mpr ⟨['\n'], inside, by simp⟩)
  · rfl

theorem before_query_kept (path : List Char) (apart : '?' ∉ path) : beforeQuery path = path := by
  rw [beforeQuery, List.takeWhile_eq_self_iff]
  intro c member
  rw [bne_iff_ne]
  rintro rfl
  exact apart member

theorem before_query_apart (path : List Char) : '?' ∉ beforeQuery path := by
  intro member
  simpa using List.mem_takeWhile_imp member

theorem text_without (c : Char) (other : c ≠ '/') (path : Path) (apart : ∀ part ∈ path, c ∉ part) : c ∉ UrlPath.text path := by
  intro member
  obtain ⟨part, inside, there⟩ := List.mem_flatMap.mp member
  rcases List.mem_cons.mp there with slash | within
  · exact other slash
  · exact apart part inside within

end Settling

def Site.pages : Site → Bool
  | .full => true
  | .withoutDocs => true
  | _ => false

def turnsToDocs (location : Location) : Bool :=
  match location.body.reply with
  | .moved path => path == "/api" && location.isExact && location.path == "/api/".toList
  | _ => true

def leaves (location : Location) : Bool := location.body.reply == .toHttps || location.body.reply == .toPanel

section Sites

theorem each_site (check : List Location → Bool) (challengeOnly : check Site.challengeOnly.locations = true)
    (full : check fullLocations = true) (withoutDocs : check Site.withoutDocs.locations = true)
    (limited : ∀ docs : Bool, check (limitedLocations ++ (if docs then docsLocations else [])) = true) (site : Site) :
    check site.locations = true := by
  cases site with
  | challengeOnly => exact challengeOnly
  | full => exact full
  | withoutDocs => exact withoutDocs
  | limited webHostname docs => exact limited docs

theorem site_turns (site : Site) (location : Location) (member : location ∈ site.locations) : turnsToDocs location = true := by
  have all := each_site (fun locations => locations.all turnsToDocs) (by decide +kernel) (by decide +kernel) (by decide +kernel)
    (fun docs => by cases docs <;> decide +kernel) site
  exact List.all_eq_true.mp all location member

theorem pages_stay (site : Site) (pages : site.pages = true) (location : Location) (member : location ∈ site.locations) :
    leaves location = false := by
  have all : site.locations.all (fun location => !leaves location) = true := by
    cases site with
    | challengeOnly => cases pages
    | full => decide +kernel
    | withoutDocs => decide +kernel
    | limited webHostname docs => cases pages
  simpa using List.all_eq_true.mp all location member

theorem limited_keeps (webHostname : String) (docs : Bool) (location : Location)
    (member : location ∈ (Site.limited webHostname docs).locations) :
    location.body.slashless = false ∧ location.body.reply ≠ .toHttps := by
  have all : (limitedLocations ++ (if docs then docsLocations else [])).all
      (fun location => !location.body.slashless && location.body.reply != .toHttps) = true := by
    cases docs <;> decide +kernel
  have here := List.all_eq_true.mp all location member
  simpa using here

theorem challenge_keeps (location : Location) (member : location ∈ Site.challengeOnly.locations) :
    location.body.slashless = false ∧ location.body.reply ≠ .toPanel := by
  simp only [Site.locations, List.mem_cons, List.not_mem_nil, or_false] at member
  rcases member with rfl | rfl <;> simp [acmeLocation]

theorem site_targets (site : Site) (target : List Char) (member : target ∈ targets site.locations) :
    quiet site.locations target = true ∧ '?' ∉ target := by
  have all := each_site (fun locations => (targets locations).all (fun target => quiet locations target && !target.contains '?'))
    (by decide +kernel) (by decide +kernel) (by decide +kernel) (fun docs => by cases docs <;> decide +kernel) site
  have here := List.all_eq_true.mp all target member
  simpa using here

theorem challenge_targets : targets Site.challengeOnly.locations = [] := by decide +kernel

theorem passed_apart (site : Site) (location other : Location) (member : location ∈ site.locations)
    (passes_on : appends location = true)
    (inside : other ∈ site.locations) (rewrites : other.body.slashless = true) :
    location.isExact = false ∧ ¬ location.path <+: other.path := by
  have all := each_site (fun locations => locations.all (fun location => !appends location || (!location.isExact &&
      locations.all (fun other => !other.body.slashless || !location.path.isPrefixOf other.path))))
    (by decide +kernel) (by decide +kernel) (by decide +kernel) (fun docs => by cases docs <;> decide +kernel) site
  have here := List.all_eq_true.mp all location member
  simp only [passes_on, Bool.not_true, Bool.false_or, Bool.and_eq_true, Bool.not_eq_true', List.all_eq_true] at here
  have there := here.2 other inside
  rw [rewrites, Bool.not_true, Bool.false_or, Bool.not_eq_true', ← Bool.not_eq_true, List.isPrefixOf_iff_prefix] at there
  exact ⟨here.1, there⟩

end Sites

section Answers

variable (server : ServerBlock) (request : EdgeRequest) (status : Nat) (https : Bool) (host : String) (path : List Char)

structure Turned (site : Site) (uri : Path) : Prop where
  here : https = request.https
  name : host = request.host
  path : (∃ location shorter, select site.locations (UrlPath.text uri) = some location ∧ location.body.slashless = true ∧
      slashlessPath uri = some shorter ∧ path = beforeQuery (UrlPath.text shorter)) ∨ path ∈ targets site.locations

theorem location_redirects (site : Site) (location : Location) (uri : Path)
    (chosen : select site.locations (UrlPath.text uri) = some location)
    (redirected : locationAnswer location site.panel request uri = .redirect status https host path) :
    Turned request https host path site uri ∨
      (location.body.reply = .toHttps ∧ https = true ∧ host = request.host) ∨
      (location.body.reply = .toPanel ∧ https = true ∧ host = site.panel) := by
  have member := (Locations.select_spec site.locations (UrlPath.text uri) location chosen).1
  unfold locationAnswer at redirected
  split at redirected
  · rename_i shorter shortened
    obtain ⟨-, sameScheme, sameHost, samePath⟩ := EdgeAnswer.redirect.inj redirected
    by_cases rewrites : location.body.slashless = true
    · rw [if_pos rewrites] at shortened
      exact Or.inl ⟨sameScheme.symm, sameHost.symm, Or.inl ⟨location, shorter, chosen, rewrites, shortened, samePath.symm⟩⟩
    · rw [if_neg rewrites] at shortened
      cases shortened
  · cases reply : location.body.reply with
    | toHttps =>
        rw [reply] at redirected
        obtain ⟨-, sameScheme, sameHost, -⟩ := EdgeAnswer.redirect.inj redirected
        exact Or.inr (Or.inl ⟨rfl, sameScheme.symm, sameHost.symm⟩)
    | toPanel =>
        rw [reply] at redirected
        obtain ⟨-, sameScheme, sameHost, -⟩ := EdgeAnswer.redirect.inj redirected
        exact Or.inr (Or.inr ⟨rfl, sameScheme.symm, sameHost.symm⟩)
    | moved target =>
        rw [reply] at redirected
        obtain ⟨-, sameScheme, sameHost, samePath⟩ := EdgeAnswer.redirect.inj redirected
        refine Or.inl ⟨sameScheme.symm, sameHost.symm,
          Or.inr (List.mem_append_left _ (List.mem_filterMap.mpr ⟨location, member, ?_⟩))⟩
        rw [reply, ← samePath]
    | challenge =>
        rw [reply] at redirected
        cases redirected
    | tryFiles candidates =>
        rw [reply] at redirected
        cases redirected
    | proxy =>
        rw [reply] at redirected
        cases redirected
    | proxyTo base =>
        rw [reply] at redirected
        cases redirected

def Direct (server : ServerBlock) (https : Bool) : Prop :=
  server.redirectsHttp = false ∨ server.site = .challengeOnly ∨ https = true

def Away (site : Site) : Prop := ∃ location ∈ site.locations,
  (location.body.reply = .toHttps ∧ https = true ∧ host = request.host) ∨
    (location.body.reply = .toPanel ∧ https = true ∧ host = site.panel)

theorem direct_stays (direct : Direct server request.https) :
    ¬ (server.redirectsHttp && server.site != .challengeOnly && !request.https) = true := by
  rcases direct with plain | only | secure
  · simp [plain]
  · simp [only]
  · simp [secure]

theorem direct_redirects (direct : Direct server request.https)
    (redirected : server.answer request = .redirect status https host path) :
    ∃ uri, normal (parse request.path) = some uri ∧
      (Turned request https host path server.site uri ∨ Away request https host server.site) := by
  unfold ServerBlock.answer at redirected
  split at redirected
  · cases redirected
  · rename_i uri resolved
    refine ⟨uri, resolved, ?_⟩
    rw [if_neg (direct_stays server request direct)] at redirected
    split at redirected
    · rename_i location found
      obtain ⟨-, sameScheme, sameHost, samePath⟩ := EdgeAnswer.redirect.inj redirected
      exact Or.inl ⟨sameScheme.symm, sameHost.symm, Or.inr (samePath ▸ slashed_target _ _ location found)⟩
    · split at redirected
      · cases redirected
      · rename_i location chosen
        have member := (Locations.select_spec _ _ location chosen).1
        exact (location_redirects request status https host path server.site location uri chosen redirected).imp_right
          fun leaves => ⟨location, member, leaves⟩

theorem quiet_stays (direct : Direct server request.https) (rest : quiet server.site.locations request.path = true) :
    server.answer request ≠ .redirect status https host path := by
  obtain ⟨uri, resolved, unslashed, all⟩ := (quiet_iff _ _).mp rest
  intro redirected
  rw [ServerBlock.answer, resolved] at redirected
  dsimp only at redirected
  rw [if_neg (direct_stays server request direct), unslashed] at redirected
  dsimp only at redirected
  split at redirected
  · cases redirected
  · rename_i location chosen
    have stays := all location chosen
    simp only [rests, Bool.and_eq_true, Bool.or_eq_true, Bool.not_eq_true', Option.isNone_iff_eq_none] at stays
    obtain ⟨slash, reply⟩ := stays
    have kept : (if location.body.slashless = true then slashlessPath uri else none) = none := by
      rcases slash with never | whole
      · rw [never, if_neg Bool.false_ne_true]
      · rw [whole, ite_self]
    rw [locationAnswer, kept] at redirected
    cases kind : location.body.reply with
    | toHttps =>
        rw [kind] at reply
        exact absurd reply Bool.false_ne_true
    | toPanel =>
        rw [kind] at reply
        exact absurd reply Bool.false_ne_true
    | moved path =>
        rw [kind] at reply
        exact absurd reply Bool.false_ne_true
    | _ =>
        rw [kind] at redirected
        cases redirected

theorem turned_apart (site : Site) (uri : Path) (turned : Turned request https host path site uri) : '?' ∉ path := by
  rcases turned.path with ⟨_, shorter, -, -, -, same⟩ | target
  · rw [same]
    exact before_query_apart _
  · exact (site_targets site path target).2

-- What such a request asks for on a site of pages is not turned again.
theorem turned_quiet (site : Site) (pages : site.pages = true) (uri : Path) (resolved : normal (parse request.path) = some uri)
    (apart : '?' ∉ request.path) (turned : Turned request https host path site uri) : quiet site.locations path = true := by
  rcases turned.path with ⟨location, shorter, chosen, rewrites, shortened, same⟩ | target
  · have known := shorter_spec uri shorter (parse request.path) resolved (UrlPath.parse_parted request.path) shortened
    have clean := UrlPath.normal_without '?' _ uri (UrlPath.parse_without '?' request.path apart) resolved
    have whole : '?' ∉ UrlPath.text shorter := by
      obtain ⟨rest, split⟩ := known.text
      intro inside
      refine text_without '?' (by decide) uri clean ?_
      rw [← split]
      exact List.mem_append_left _ (List.mem_append_left _ inside)
    rw [same, before_query_kept _ whole]
    have read := UrlPath.parse_of_text shorter known.parted known.nonempty
    refine (quiet_iff _ _).mpr ⟨shorter, by rw [read]; exact UrlPath.normal_plain shorter known.plain, ?_, ?_⟩
    · by_contra found
      obtain ⟨passed, found⟩ := Option.ne_none_iff_exists'.mp found
      obtain ⟨member, passes_on, ends, -⟩ := Locations.slashed_spec _ _ _ passed found
      have inside := (Locations.select_spec _ _ location chosen).1
      obtain ⟨loose, below⟩ := passed_apart site passed location member passes_on inside rewrites
      have begins : passed.begins (UrlPath.text uri) = true := by
        rw [Locations.Location.begins, loose, ends]
        simpa using known.text
      exact below (Locations.select_under _ _ passed location member begins chosen)
    · intro other picked
      obtain ⟨member, how⟩ := Locations.select_spec _ _ other picked
      have stays := pages_stay site pages other member
      have turns := site_turns site other member
      simp only [leaves, Bool.or_eq_false_iff, beq_eq_false_iff_ne] at stays
      rw [rests, shorter_kept uri shorter known, Option.isNone_none, Bool.or_true, Bool.true_and]
      split
      · exact absurd ‹_› stays.1
      · exact absurd ‹_› stays.2
      · rename_i docs reply
        simp only [turnsToDocs, reply, Bool.and_eq_true, beq_iff_eq] at turns
        obtain ⟨⟨-, exactly⟩, spelled⟩ := turns
        have here : other.path = UrlPath.text shorter := by
          rcases how with ⟨-, same⟩ | ⟨begins, -⟩
          · exact same
          · simp [Locations.Location.begins, exactly] at begins
        rw [← here, spelled] at read
        have parts : parse "/api/".toList = ["api".toList, []] := by decide +kernel
        rw [parts] at read
        exact absurd (known.plain [] (by rw [← read]; simp)) (by decide)
      · rfl
  · exact (site_targets site path target).1

end Answers

section Generated

variable (cert key : String) (settings : WebSettings)

-- The server of the panel's own name on a port, and the one for every other name.
def mainServer (https : Bool) : ServerBlock :=
  let serverName := if settings.webHostname = "" then "_" else settings.webHostname
  let tls := settings.tlsEnabled == "true"
  if https then ⟨["443 ssl"], serverName, some (cert, key), false, .full⟩
  else ⟨["80"], serverName, none, tls, if tls then .challengeOnly else .full⟩

def catchAll : ServerBlock :=
  let tls := settings.tlsEnabled == "true"
  let docs := settings.docsEnabled == "true"
  ⟨["80 default_server", "443 ssl default_server"], "_", some (cert, key), tls,
    if settings.webHostname ≠ "" ∧ settings.allowIp ≠ "true" then .limited settings.webHostname docs
    else if docs then .full else .withoutDocs⟩

theorem generated_servers :
    generateConf cert key settings =
      [mainServer cert key settings false, mainServer cert key settings true, catchAll cert key settings] := rfl

theorem choose_generated (https : Bool) (host : String) :
    choose (generateConf cert key settings) https host =
      some (if (mainServer cert key settings https).named host then mainServer cert key settings https
        else catchAll cert key settings) := by
  have plain : (mainServer cert key settings false).listensOn false = true ∧
    (mainServer cert key settings true).listensOn false = false ∧
      (catchAll cert key settings).listensOn false = true := by
    refine ⟨?_, ?_, ?_⟩ <;> rfl
  have secure : (mainServer cert key settings false).listensOn true = false ∧
    (mainServer cert key settings true).listensOn true = true ∧
      (catchAll cert key settings).listensOn true = true := by
    refine ⟨?_, ?_, ?_⟩ <;> rfl
  have fallback : (generateConf cert key settings).find? (fun server => server.isDefault https) =
    some (catchAll cert key settings) := by
    cases https <;> rfl
  have listening : (generateConf cert key settings).filter (fun server => server.listensOn https) =
      [mainServer cert key settings https, catchAll cert key settings] := by
    rw [generated_servers]
    cases https
    · simp [plain]
    · simp [secure]
  rw [choose, listening, fallback, List.find?_cons, List.find?_cons]
  by_cases own : (mainServer cert key settings https).named host = true
  · simp [own]
  · by_cases other : (catchAll cert key settings).named host = true <;> simp [own, other]

theorem main_site (https : Bool) (direct : https = true ∨ (settings.tlsEnabled == "true") = false) :
    (mainServer cert key settings https).site = .full := by
  cases https with
  | true => rfl
  | false =>
      have plain : (settings.tlsEnabled == "true") = false := direct.resolve_left Bool.false_ne_true
      simp [mainServer, plain]

variable (request : EdgeRequest)

theorem follow_generated (server : ServerBlock)
    (chosen : choose (generateConf cert key settings) request.https request.host = some server)
    (next : EdgeRequest) (followed : (generateConf cert key settings).follow request = some next) :
    ∃ status https host path, server.answer request = .redirect status https host path ∧
      next = { request with https, host := hostVar host, path } := by
  have answered : Conf.answer (generateConf cert key settings) request = server.answer request := by rw [Conf.answer, chosen]
  rw [Conf.follow, answered] at followed
  split at followed
  · rename_i status https host path same
    exact ⟨status, https, host, path, same, (Option.some.inj followed).symm⟩
  · cases followed

theorem quiet_end (server : ServerBlock)
    (chosen : choose (generateConf cert key settings) request.https request.host = some server)
    (direct : Direct server request.https) (rest : quiet server.site.locations request.path = true) :
    (generateConf cert key settings).follow request = none := by
  cases followed : (generateConf cert key settings).follow request with
  | none => rfl
  | some next =>
      obtain ⟨status, https, host, path, redirected, -⟩ := follow_generated cert key settings request server chosen next followed
      exact absurd redirected (quiet_stays server request status https host path direct rest)

section Pages

variable (server : ServerBlock) (named : hostVar request.host = request.host)
  (chosen : choose (generateConf cert key settings) request.https request.host = some server)
  (direct : Direct server request.https) (pages : server.site.pages = true)

include named chosen direct pages

theorem pages_turn (next : EdgeRequest) (followed : (generateConf cert key settings).follow request = some next) :
    next.https = request.https ∧ next.host = request.host ∧ '?' ∉ next.path ∧
      ('?' ∉ request.path → quiet server.site.locations next.path = true) := by
  obtain ⟨status, https, host, path, moved, same⟩ := follow_generated cert key settings request server chosen next followed
  obtain ⟨uri, resolved, turned | ⟨location, member, leaving⟩⟩ :=
    direct_redirects server request status https host path direct moved
  · rw [same]
    refine ⟨turned.here, ?_, turned_apart request https host path server.site uri turned, fun apart =>
      turned_quiet request https host path server.site pages uri resolved apart turned⟩
    dsimp only
    rw [turned.name, named]
  · have stays := pages_stay server.site pages location member
    simp only [leaves, Bool.or_eq_false_iff, beq_eq_false_iff_ne] at stays
    rcases leaving with ⟨reply, -⟩ | ⟨reply, -⟩
    · exact absurd reply stays.1
    · exact absurd reply stays.2

theorem plain_end (apart : '?' ∉ request.path) : Conf.Ends (generateConf cert key settings) 1 request := by
  intro next followed
  obtain ⟨scheme, host, -, rest⟩ := pages_turn cert key settings request server named chosen direct pages next followed
  exact quiet_end cert key settings next server (by rw [scheme, host]; exact chosen) (by rw [scheme]; exact direct) (rest apart)

theorem pages_end : Conf.Ends (generateConf cert key settings) 2 request := by
  intro next followed
  obtain ⟨scheme, host, apart, -⟩ := pages_turn cert key settings request server named chosen direct pages next followed
  exact plain_end cert key settings next server (by rw [host]; exact named) (by rw [scheme, host]; exact chosen)
    (by rw [scheme]; exact direct) pages apart

end Pages

theorem lower_dot (name : String) (last : (lowerName name).toList.getLast? = some '.') : name.toList.getLast? = some '.' := by
  rw [lowerName, String.toList_ofList, List.getLast?_map, Option.map_eq_some_iff] at last
  obtain ⟨c, here, same⟩ := last
  rw [here]
  by_cases upper : c.isUpper = true
  · have letter := Text.lower_letter c upper
    rw [same] at letter
    exact absurd letter (by decide)
  · rw [Text.lower_same c upper] at same
    rw [same]

theorem lower_twice (name : String) : lowerName (lowerName name) = lowerName name := by
  have chars : ∀ c : Char, c.toLower.toLower = c.toLower := by
    intro c
    refine Text.lower_same _ ?_
    rw [Text.lower_not_upper]
    exact Bool.false_ne_true
  rw [lowerName, lowerName, String.toList_ofList, List.map_map]
  congr 1
  exact List.map_congr_left (fun c _ => chars c)

def Dotless (settings : WebSettings) : Prop := settings.webHostname.toList.getLast? ≠ some '.'

theorem dotless_host (name : String) (dotless : name.toList.getLast? ≠ some '.') : hostVar name = lowerName name := by
  rw [hostVar, if_neg (fun last => dotless (lower_dot name last))]

theorem dotless_settled (name : String) (dotless : name.toList.getLast? ≠ some '.') : hostVar (hostVar name) = hostVar name := by
  rw [dotless_host name dotless, hostVar, lower_twice, if_neg (fun last => dotless (lower_dot name last))]

theorem limited_settings (webHostname : String) (docs : Bool)
    (site : (catchAll cert key settings).site = .limited webHostname docs) :
    webHostname = settings.webHostname ∧ settings.webHostname ≠ "" := by
  unfold catchAll at site
  dsimp only at site
  split at site
  · rename_i limits
    exact ⟨(Site.limited.inj site).1.symm, limits.1⟩
  · split at site <;> cases site

theorem panel_named (dotless : Dotless settings) (given : settings.webHostname ≠ "") (https : Bool) :
    (mainServer cert key settings https).named (hostVar settings.webHostname) = true := by
  have name : (mainServer cert key settings https).serverName = settings.webHostname := by
    cases https <;> simp [mainServer, given]
  rw [ServerBlock.named, name, dotless_host _ dotless]
  simp

-- Outside the panel's name: to a path of the API, or to a page under that name.
theorem limited_end (dotless : Dotless settings) (webHostname : String) (docs : Bool)
    (site : (catchAll cert key settings).site = .limited webHostname docs) (named : hostVar request.host = request.host)
    (chosen : choose (generateConf cert key settings) request.https request.host = some (catchAll cert key settings))
    (direct : Direct (catchAll cert key settings) request.https) : Conf.Ends (generateConf cert key settings) 3 request := by
  obtain ⟨panel, given⟩ := limited_settings cert key settings webHostname docs site
  intro next followed
  obtain ⟨status, https, host, path, redirected, same⟩ := follow_generated cert key settings request _ chosen next followed
  obtain ⟨uri, resolved, turned | ⟨location, member, leaving⟩⟩ :=
    direct_redirects _ request status https host path direct redirected
  · rcases turned.path with ⟨location, -, selected, rewrites, -⟩ | target
    · rw [site] at selected
      have keeps := limited_keeps webHostname docs location (Locations.select_spec _ _ location selected).1
      rw [keeps.1] at rewrites
      cases rewrites
    · refine ends_none _ next 2 ?_
      have scheme : next.https = request.https := by rw [same, turned.here]
      have name : next.host = request.host := by rw [same, turned.name, named]
      refine quiet_end cert key settings next _ (by rw [scheme, name]; exact chosen) (by rw [scheme]; exact direct) ?_
      rw [same]
      exact (site_targets _ path target).1
  · rw [site] at member leaving
    have keeps := limited_keeps webHostname docs location member
    rcases leaving with ⟨reply, -⟩ | ⟨-, secure, name⟩
    · exact absurd reply keeps.2
    · have scheme : next.https = true := by rw [same, secure]
      have host_panel : next.host = hostVar settings.webHostname := by
        rw [same, name, ← panel]
        rfl
      refine pages_end cert key settings next (mainServer cert key settings true) ?_ ?_ (Or.inr (Or.inr scheme)) rfl
      · rw [host_panel]
        exact dotless_settled _ dotless
      · rw [choose_generated, scheme, host_panel, panel_named cert key settings dotless given, if_pos rfl]

theorem catch_all_open : (catchAll cert key settings).site ≠ .challengeOnly := by
  intro site
  unfold catchAll at site
  dsimp only at site
  split at site
  · cases site
  · split at site <;> cases site

theorem direct_end (dotless : Dotless settings) (named : hostVar request.host = request.host)
    (direct : request.https = true ∨ (settings.tlsEnabled == "true") = false) :
    Conf.Ends (generateConf cert key settings) 3 request := by
  have picked := choose_generated cert key settings request.https request.host
  by_cases own : (mainServer cert key settings request.https).named request.host = true
  · rw [if_pos own] at picked
    have full := main_site cert key settings request.https direct
    have open_site : Direct (mainServer cert key settings request.https) request.https := by
      rcases direct with secure | plain
      · exact Or.inr (Or.inr secure)
      · refine Or.inl ?_
        cases request.https <;> simp [mainServer, plain]
    exact ends_within _ 2 3 (by decide) request
      (pages_end cert key settings request _ named picked open_site (by rw [full]; rfl))
  · rw [if_neg own] at picked
    have open_site : Direct (catchAll cert key settings) request.https := by
      rcases direct with secure | plain
      · exact Or.inr (Or.inr secure)
      · exact Or.inl plain
    cases site : (catchAll cert key settings).site with
    | challengeOnly => exact absurd site (catch_all_open cert key settings)
    | limited webHostname docs => exact limited_end cert key settings request dotless webHostname docs site named picked open_site
    | full =>
        exact ends_within _ 2 3 (by decide) request
          (pages_end cert key settings request _ named picked open_site (by rw [site]; rfl))
    | withoutDocs =>
        exact ends_within _ 2 3 (by decide) request
          (pages_end cert key settings request _ named picked open_site (by rw [site]; rfl))

theorem plain_secured (named : hostVar request.host = request.host) (plain : request.https = false)
    (tls : (settings.tlsEnabled == "true") = true) (next : EdgeRequest)
    (followed : (generateConf cert key settings).follow request = some next) : next.https = true ∧ next.host = request.host := by
  have picked := choose_generated cert key settings request.https request.host
  by_cases own : (mainServer cert key settings request.https).named request.host = true
  · rw [if_pos own] at picked
    have site : (mainServer cert key settings request.https).site = .challengeOnly := by
      rw [plain]
      simp [mainServer, tls]
    obtain ⟨status, https, host, path, redirected, same⟩ := follow_generated cert key settings request _ picked next followed
    obtain ⟨uri, -, turned | ⟨location, member, leaving⟩⟩ :=
      direct_redirects _ request status https host path (Or.inr (Or.inl site)) redirected
    · rw [site] at turned
      rcases turned.path with ⟨location, -, selected, rewrites, -⟩ | target
      · rw [(challenge_keeps location (Locations.select_spec _ _ location selected).1).1] at rewrites
        cases rewrites
      · rw [challenge_targets] at target
        cases target
    · rw [site] at member leaving
      rcases leaving with ⟨-, secure, name⟩ | ⟨reply, -⟩
      · rw [same, secure, name]
        exact ⟨rfl, named⟩
      · exact absurd reply (challenge_keeps location member).2
  · rw [if_neg own] at picked
    obtain ⟨status, https, host, path, redirected, same⟩ := follow_generated cert key settings request _ picked next followed
    unfold ServerBlock.answer at redirected
    split at redirected
    · cases redirected
    · have redirects : (catchAll cert key settings).redirectsHttp = true := tls
      rw [if_pos (by simp [redirects, catch_all_open cert key settings, plain])] at redirected
      obtain ⟨-, secure, name, -⟩ := EdgeAnswer.redirect.inj redirected
      rw [same, ← secure, ← name]
      exact ⟨rfl, named⟩

theorem generated_end (dotless : Dotless settings) (named : hostVar request.host = request.host) :
    Conf.Ends (generateConf cert key settings) 4 request := by
  by_cases direct : request.https = true ∨ (settings.tlsEnabled == "true") = false
  · exact ends_within _ 3 4 (by decide) request (direct_end cert key settings request dotless named direct)
  · simp only [not_or, Bool.not_eq_true, Bool.not_eq_false] at direct
    obtain ⟨plain, tls⟩ := direct
    intro next followed
    have secured := plain_secured cert key settings request named plain tls next followed
    exact direct_end cert key settings next dotless (by rw [secured.2]; exact named) (Or.inl secured.1)

end Generated

def ConfigFile.dotless (file : ConfigFile) : Bool := file.gives.webHostname.toList.getLast? != some '.'

def Disk.dotless (disk : Disk) : Bool := disk.webConfig.all ConfigFile.dotless && disk.config.all ConfigFile.dotless

def Event.dotless : Event → Bool
  | .files disk => disk.dotless
  | .iteration _ _ _ => true

def Served (conf : Conf) : Prop := ∃ cert key settings, Dotless settings ∧ conf = generateConf cert key settings

structure Orderly (system : System) : Prop where
  disk : system.disk.dotless = true
  last : Dotless system.container.last
  written : Served system.container.written
  loaded : Served system.container.loaded

section Runs

variable (born : Nat)

theorem read_dotless (last : WebSettings) (disk : Disk) (known : Dotless last) (files : disk.dotless = true) :
    Dotless (readConfig last disk) := by
  simp only [Disk.dotless, Bool.and_eq_true] at files
  have checked : ∀ read : WebSettings, Dotless read → Dotless (read.checked last) := by
    intro read dotless
    unfold WebSettings.checked Dotless
    dsimp only
    split
    · exact dotless
    · exact known
  unfold readConfig
  dsimp only
  apply checked
  cases web : disk.webConfig with
  | some file =>
      have here := files.1
      rw [web] at here
      simpa [ConfigFile.dotless, Dotless] using here
  | none =>
      cases plain : disk.config with
      | some file =>
          have here := files.2
          rw [plain] at here
          simpa [ConfigFile.dotless, Dotless] using here
      | none => simp [Dotless]

theorem start_orderly (disk : Disk) (files : disk.dotless = true) : Orderly (start born disk) := by
  have read : Dotless (readConfig ⟨"", "true", "false", "true"⟩ disk) := by
    refine read_dotless _ disk ?_ files
    simp [Dotless]
  exact ⟨files, read, ⟨_, _, _, read, rfl⟩, ⟨_, _, _, read, rfl⟩⟩

theorem reload_orderly (container : Container) (reload : Reload) (last : Dotless container.last)
    (written : Served container.written)
    (loaded : Served container.loaded) :
    Dotless (container.reload reload).last ∧ Served (container.reload reload).written ∧
      Served (container.reload reload).loaded := by
  cases reload with
  | applied => exact ⟨last, written, written⟩
  | refused => exact ⟨last, written, loaded⟩
  | failed => exact ⟨last, written, loaded⟩

theorem watch_cert_orderly (container : Container) (disk : Disk) (reload : Reload) (last : Dotless container.last)
    (written : Served container.written) (loaded : Served container.loaded) :
    Dotless (container.watchCert born disk reload).last ∧ Served (container.watchCert born disk reload).written ∧
      Served (container.watchCert born disk reload).loaded := by
  have reloaded := reload_orderly container reload last written loaded
  unfold Container.watchCert
  dsimp only
  split
  · split
    · exact reloaded
    · exact reloaded
  · exact ⟨last, written, loaded⟩

theorem watch_conf_orderly (container : Container) (disk : Disk) (nowConf : Nat) (tested : Bool) (reload : Reload)
    (files : disk.dotless = true) (last : Dotless container.last) (written : Served container.written)
    (loaded : Served container.loaded) :
    Dotless (container.watchConf disk nowConf tested reload).last ∧
      Served (container.watchConf disk nowConf tested reload).written ∧
      Served (container.watchConf disk nowConf tested reload).loaded := by
  have read := read_dotless container.last disk last files
  have reloaded := reload_orderly { container with
      last := readConfig container.last disk
      written := generateConf container.cert container.key (readConfig container.last disk) } reload read
        ⟨_, _, _, read, rfl⟩ loaded
  unfold Container.watchConf
  dsimp only
  split
  · split
    · split
      · exact reloaded
      · exact reloaded
    · exact ⟨read, ⟨_, _, _, read, rfl⟩, loaded⟩
  · exact ⟨last, written, loaded⟩

theorem step_orderly (system : System) (event : Event) (allowed : event.dotless = true) (orderly : Orderly system) :
    Orderly ((watch born).step system event).1 := by
  cases event with
  | files disk => exact ⟨allowed, orderly.last, orderly.written, orderly.loaded⟩
  | iteration certReload tested confReload =>
      have watched := watch_cert_orderly born system.container system.disk certReload orderly.last orderly.written orderly.loaded
      have turned := fun nowConf => watch_conf_orderly
        (system.container.watchCert born system.disk certReload) system.disk nowConf tested
        confReload orderly.disk watched.1 watched.2.1 watched.2.2
      simp only [watch, Container.iterate]
      split
      · split
        · exact ⟨orderly.disk, (turned _).1, (turned _).2.1, (turned _).2.2⟩
        · exact ⟨orderly.disk, watched.1, watched.2.1, watched.2.2⟩
      · exact orderly

-- Whatever the container has taken up, a client that follows its redirects
-- follows four at most.
theorem redirects_end (disk : Disk) (events : List Event) (files : disk.dotless = true)
    (later : ∀ event ∈ events, event.dotless = true) (request : EdgeRequest) (named : hostVar request.host = request.host) :
    Conf.Ends ((watch born).final (start born disk) events).container.loaded 4 request := by
  have orderly := ((watch born).invariant_run Orderly (fun event => event.dotless = true)
    (fun system event allowed orderly => step_orderly born system event allowed orderly) (start born disk) events later
    (start_orderly born disk files)).1
  obtain ⟨cert, key, settings, dotless, same⟩ := orderly.loaded
  rw [same]
  exact generated_end cert key settings request dotless named

end Runs

def limitedFile : ConfigFile := ⟨40, ⟨"panel.example.com", "false", "true", "true"⟩⟩

-- A question mark spelled %3F in the path.
def otherRequest : EdgeRequest := ⟨false, "198.51.100.1", "GET", "/x/?y/".toList, sampleAddress, none, none⟩

theorem limited_panel_reached :
    Conf.Ends ((watch 10).final
      (start 10 {}) [.files { webConfig := some limitedFile }, .iteration .applied true .applied]).container.loaded
      4 otherRequest :=
  redirects_end 10 {} [.files { webConfig := some limitedFile }, .iteration .applied true .applied]
    (by decide +kernel) (by decide +kernel)
    otherRequest (by decide +kernel)

-- To https, to the panel's name, to what stands before the question mark, and to
-- the page without its slash.
example : ((List.range 4).foldl
  (fun asked _ => asked.bind (generateConf realCert realKey ⟨"panel.example.com", "false", "true", "true"⟩).follow)
      (some otherRequest)).map (fun last => (last.host, last.path)) = some ("panel.example.com", "/x".toList) := by
  decide +kernel

-- A name with a dot at its end is not found again.
example : (generateConf realCert realKey ⟨"panel.example.com.", "false", "true", "true"⟩).follow
      ⟨true, "panel.example.com", "GET", "/".toList, sampleAddress, none, none⟩ =
    some ⟨true, "panel.example.com", "GET", "/".toList, sampleAddress, none, none⟩ := by
  decide +kernel

end Tempmail.Web
