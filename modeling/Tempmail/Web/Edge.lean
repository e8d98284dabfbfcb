import Tempmail.Api.Routes
import Tempmail.Api.Usernames
import Tempmail.Lib.Locations
import Tempmail.Web.Entrypoint

set_option autoImplicit false

namespace Tempmail.Web

open Locations (Modifier select slashed)
open UrlPath (Part Path Parted normal parse)

inductive Zone where
  | apiGeneral
  | apiStrict
deriving DecidableEq, Repr

structure Limit where
  zone : Zone
  burst : Nat
deriving DecidableEq, Repr

inductive Reply where
  | challenge
  | tryFiles (candidates : List String)
  | toHttps
  | toPanel
  | moved (path : String)
  | proxy
  | proxyTo (path : String)
deriving DecidableEq, Repr

-- The directives of a location: whether it includes security-headers.conf, its
-- own add_header lines and whether it rewrites ^(.+)/$.
structure Block where
  limit : Option Limit := none
  security : Bool := false
  headers : List (String × String) := []
  slashless : Bool := false
  reply : Reply
deriving DecidableEq, Repr

abbrev Location := Locations.Location Block

def noStore : String × String := ("Cache-Control", "no-store")
def immutable : String × String := ("Cache-Control", "public, max-age=31536000, immutable")
def pages : List String := ["$uri", "$uri.html", "$uri/index.html"]

def acmeLocation : Location := ⟨.priority, "/.well-known/acme-challenge/".toList, { reply := .challenge }⟩
def apiDocsPage : Location := ⟨.exact, "/api".toList, { reply := .tryFiles ["/api.html"] }⟩
def apiDocsSlash : Location := ⟨.exact, "/api/".toList, { reply := .moved "/api" }⟩

-- The API-key creation path: no edge limit.
def keyLocation : Location :=
  ⟨.priority, "/api/v1/api/".toList, { security := true, headers := [noStore], reply := .proxy }⟩

-- The catch-all's own /api/ has neither the headers nor the tighter locations.
def plainApi : Location := ⟨.none, "/api/".toList, { limit := some ⟨.apiGeneral, 120⟩, reply := .proxy }⟩

def staticChunks : Location :=
  ⟨.none, "/_next/static/".toList, { security := true, headers := [immutable], reply := .tryFiles ["$uri"] }⟩

def rootPages : Location :=
  ⟨.none, "/".toList,
    { security := true, headers := [("Cache-Control", "no-cache")], slashless := true, reply := .tryFiles pages }⟩

def docsLocations : List Location :=
  [⟨.exact, "/openapi.json".toList, { reply := .proxyTo "/openapi.json" }⟩,
    ⟨.none, "/docs".toList, { reply := .proxyTo "/docs" }⟩,
    ⟨.none, "/redoc".toList, { reply := .proxyTo "/redoc" }⟩]

def fullLocations : List Location :=
  [acmeLocation, apiDocsPage, apiDocsSlash,
    ⟨.none, "/api/".toList, { limit := some ⟨.apiGeneral, 120⟩, security := true, headers := [noStore], reply := .proxy }⟩,
    keyLocation,
    ⟨.priority, "/api/v1/setup/".toList,
      { limit := some ⟨.apiStrict, 10⟩, security := true, headers := [noStore], reply := .proxy }⟩,
    ⟨.priority, "/api/v1/admin/".toList,
      { limit := some ⟨.apiStrict, 20⟩, security := true, headers := [noStore], reply := .proxy }⟩] ++ docsLocations ++
    [⟨.priority, "/admin".toList,
      { security := true, headers := [("X-Robots-Tag", "noindex, nofollow"), noStore], slashless := true,
        reply := .tryFiles pages }⟩,
    staticChunks, rootPages]

def limitedLocations : List Location :=
  [acmeLocation, keyLocation, plainApi, apiDocsPage, apiDocsSlash,
    ⟨.priority, "/admin".toList, { reply := .tryFiles pages }⟩,
    ⟨.exact, "/setup".toList, { reply := .tryFiles ["/setup.html"] }⟩, staticChunks,
    ⟨.none, "/_next/".toList, { reply := .tryFiles ["$uri"] }⟩, ⟨.none, "/".toList, { reply := .toPanel }⟩]

def Site.locations : Site → List Location
  | .challengeOnly => [acmeLocation, ⟨.none, "/".toList, { reply := .toHttps }⟩]
  | .full => fullLocations
  | .withoutDocs => [acmeLocation, apiDocsPage, apiDocsSlash, keyLocation, plainApi, staticChunks, rootPages]
  | .limited _ docs => limitedLocations ++ (if docs then docsLocations else [])

def Site.panel : Site → String
  | .limited webHostname _ => webHostname
  | _ => ""

def isAddressChar (c : Char) : Bool := Api.isAlnum c || c == '.' || c == ':'

structure RemoteAddr where
  text : String
  given : text ≠ ""
  chars : text.toList.all isAddressChar = true
deriving DecidableEq

-- A request as it arrives: $host, and the percent-decoded path of its first line.
structure EdgeRequest where
  https : Bool
  host : String
  method : String
  path : List Char
  remote : RemoteAddr
  xForwardedFor : Option String
  authorization : Option String
deriving DecidableEq

inductive EdgeAnswer where
  | badRequest
  | redirect (status : Nat) (https : Bool) (host : String) (path : List Char)
  | challenge (path : List Char)
  | files (candidates : List (List Char))
  | proxied (limit : Option Limit) (path : List Char)
  | notFound
deriving DecidableEq, Repr

-- ^(.+)/$ on the resolved path: no dot takes a line break, and the end also
-- stands before a final one.
def slashlessPath (uri : Path) : Option Path :=
  match uri.getLast? with
  | some last => if (last = [] ∨ last = ['\n']) ∧ uri.dropLast ≠ [] ∧
    '\n' ∉ UrlPath.text uri.dropLast then some uri.dropLast else none
  | none => none

-- A replacement is sent unescaped: what stands behind a question mark of the path
-- has become the query of the next request.
def beforeQuery (path : List Char) : List Char := path.takeWhile (fun c => c != '?')

def candidate (uri : List Char) (pattern : String) : List Char :=
  if Text.hasPrefix "$uri" pattern then uri ++ pattern.toList.drop 4 else pattern.toList

def locationAnswer (location : Location) (panel : String) (request : EdgeRequest) (uri : Path) : EdgeAnswer :=
  match if location.body.slashless then slashlessPath uri else none with
  | some shorter => .redirect 301 request.https request.host (beforeQuery (UrlPath.text shorter))
  | none => match location.body.reply with
    | .challenge => .challenge (UrlPath.text uri)
    | .tryFiles candidates => .files (candidates.map (candidate (UrlPath.text uri)))
    | .toHttps => .redirect 301 true request.host request.path
    | .toPanel => .redirect 302 true panel request.path
    | .moved path => .redirect 301 request.https request.host path.toList
    | .proxy => .proxied location.body.limit request.path
    | .proxyTo path => .proxied location.body.limit (path.toList ++ (UrlPath.text uri).drop location.path.length)

-- A proxy_pass location whose path ends in a slash is answered for without it.
def appends (location : Location) : Bool :=
  match location.body.reply with
  | .proxy => location.path.getLast? == some '/'
  | .proxyTo _ => location.path.getLast? == some '/'
  | _ => false

def lowerName (name : String) : String := String.ofList (name.toList.map Char.toLower)

namespace ServerBlock

def listensOn (server : ServerBlock) (https : Bool) : Bool :=
  server.listens.any (fun listen => listen == (if https then "443 ssl" else "80") ||
    listen == (if https then "443 ssl default_server" else "80 default_server"))

def isDefault (server : ServerBlock) (https : Bool) : Bool :=
  server.listens.contains (if https then "443 ssl default_server" else "80 default_server")

-- Names compare without case; one that starts with a dot stands for its subdomains too.
def named (server : ServerBlock) (host : String) : Bool :=
  let name := lowerName server.serverName
  name == host || (name.toList.head? == some '.' && (name.toList.tail == host.toList || name.toList.isSuffixOf host.toList))

-- The redirect to https stands before the locations, except in the server
-- block that keeps the challenge path.
def answer (server : ServerBlock) (request : EdgeRequest) : EdgeAnswer :=
  match normal (parse request.path) with
  | none => .badRequest
  | some uri =>
      if server.redirectsHttp && server.site != .challengeOnly && !request.https then
        .redirect 301 true request.host request.path
      else match slashed appends server.site.locations (UrlPath.text uri) with
        | some location => .redirect 301 request.https request.host location.path
        | none => match select server.site.locations (UrlPath.text uri) with
          | none => .notFound
          | some location => locationAnswer location server.site.panel request uri

end ServerBlock

def choose (conf : Conf) (https : Bool) (host : String) : Option ServerBlock :=
  ((conf.filter (fun server => server.listensOn https)).find? (fun server => server.named host)).or
    (conf.find? (fun server => server.isDefault https))

def Conf.answer (conf : Conf) (request : EdgeRequest) : EdgeAnswer :=
  match choose conf request.https request.host with
  | none => .notFound
  | some server => server.answer request

-- proxy_set_header: the API sees the address of the connection, whatever the
-- client sent; peer is nginx's own address.
def EdgeRequest.forwarded (request : EdgeRequest) (peer : Option String) : Api.Request :=
  ⟨some request.remote.text, peer, request.authorization⟩

def areas : List Part := ["admin".toList, "setup".toList, "api".toList]

def areaRoot (area : Part) : Path := ["api".toList, "v1".toList, area]

def areaPath (area : Part) : List Char := UrlPath.text (areaRoot area) ++ ['/']

def general : Limit := ⟨.apiGeneral, 120⟩

def Site.areaLimit : Site → Part → Option Limit
  | .full, area =>
      if area = "admin".toList then some ⟨.apiStrict, 20⟩
      else if area = "setup".toList then some ⟨.apiStrict, 10⟩
      else if area = "api".toList then none
      else some general
  | .challengeOnly, _ => some general
  | _, area => if area = "api".toList then none else some general

def docsBases : List String := ["/openapi.json", "/docs", "/redoc"]

def proxies (locations : List Location) (limits : Part → Option Limit) : Bool :=
  locations.all (fun location => match location.body.reply with
    | .proxyTo base => location.body.limit == none && docsBases.contains base
    | .proxy => !location.isExact && (location.path == "/api/".toList && location.body.limit == some general ||
        areas.any (fun area => location.path == areaPath area && location.body.limit == limits area))
    | _ => true) &&
  areas.all (fun area => limits area == some general ||
    locations.any (fun location => !location.isExact && location.path == areaPath area))

theorem site_proxies (site : Site) : proxies site.locations site.areaLimit = true := by
  cases site with
  | challengeOnly => decide +kernel
  | full => decide +kernel
  | withoutDocs => decide +kernel
  | limited webHostname docs =>
      have both : ∀ docs, proxies (limitedLocations ++ (if docs = true then docsLocations else []))
          (fun area => if area = "api".toList then none else some general) = true := by
        intro docs
        cases docs <;> decide +kernel
      exact both docs

section Proxied

variable (site : Site) (location : Location)

theorem docs_proxy (base : String) (member : location ∈ site.locations) (reply : location.body.reply = .proxyTo base) :
    location.body.limit = none ∧ base ∈ docsBases := by
  have all := site_proxies site
  simp only [proxies, Bool.and_eq_true, List.all_eq_true] at all
  have here := all.1 location member
  rw [reply] at here
  simpa using here

theorem api_proxy (member : location ∈ site.locations) (reply : location.body.reply = .proxy) :
    location.isExact = false ∧ ((location.path = "/api/".toList ∧ location.body.limit = some general) ∨
      ∃ area ∈ areas, location.path = areaPath area ∧ location.body.limit = site.areaLimit area) := by
  have all := site_proxies site
  simp only [proxies, Bool.and_eq_true, List.all_eq_true] at all
  have here := all.1 location member
  rw [reply] at here
  simpa using here

theorem area_location (area : Part) (known : area ∈ areas) :
    site.areaLimit area = some general ∨ ∃ location ∈ site.locations, location.isExact = false ∧
      location.path = areaPath area := by
  have all := site_proxies site
  simp only [proxies, Bool.and_eq_true, List.all_eq_true] at all
  have here := all.2 area known
  simpa using here

theorem area_parted (area : Part) (known : area ∈ areas) : Parted (areaRoot area) := by
  have all : areas.all (fun area => (areaRoot area).all (fun part => !part.contains '/')) = true := by decide +kernel
  intro part member
  have here := List.all_eq_true.mp (List.all_eq_true.mp all area known) part member
  simpa using here

variable (uri : Path)

theorem begins_area (parted : Parted uri) (area : Part) (known : area ∈ areas) (path : location.path = areaPath area)
    (loose : location.isExact = false) :
    location.begins (UrlPath.text uri) = true ↔ ∃ more, more ≠ [] ∧ uri = areaRoot area ++ more := by
  rw [← UrlPath.under_iff uri (areaRoot area) parted (area_parted area known), Locations.Location.begins, loose, path,
    areaPath]
  simp

variable (parted : Parted uri) (chosen : select site.locations (UrlPath.text uri) = some location)
  (reply : location.body.reply = .proxy)

include parted chosen reply

theorem proxy_limit :
    (∀ area ∈ areas, (∃ more, more ≠ [] ∧ uri = areaRoot area ++ more) → location.body.limit = site.areaLimit area) ∧
      ((∀ area ∈ areas, ¬ ∃ more, more ≠ [] ∧ uri = areaRoot area ++ more) → location.body.limit = some general) := by
  obtain ⟨member, how⟩ := Locations.select_spec site.locations (UrlPath.text uri) location chosen
  obtain ⟨loose, kind⟩ := api_proxy site location member reply
  have begins : location.begins (UrlPath.text uri) = true ∧
      ∀ other ∈ site.locations, other.begins (UrlPath.text uri) = true → other.path.length ≤ location.path.length := by
    rcases how with ⟨exactly, -⟩ | longest
    · rw [loose] at exactly
      cases exactly
    · exact longest
  constructor
  · intro area known below
    rcases kind with ⟨path, limit⟩ | ⟨other, listed, path, limit⟩
    · rcases area_location site area known with same | ⟨closer, inside, free, named⟩
      · rw [limit, same]
      · have shorter := begins.2 closer inside ((begins_area closer uri parted area known named free).mpr below)
        rw [named, path] at shorter
        exact absurd shorter (by simp [areaPath, areaRoot, UrlPath.text])
    · obtain ⟨more, -, split⟩ := (begins_area location uri parted other listed path loose).mp begins.1
      obtain ⟨deeper, -, again⟩ := below
      rw [split] at again
      have same := (List.cons_eq_cons.mp (List.cons_eq_cons.mp (List.cons_eq_cons.mp again).2).2).1
      rw [limit, same]
  · intro none_below
    rcases kind with ⟨-, limit⟩ | ⟨other, listed, path, -⟩
    · exact limit
    · exact absurd ((begins_area location uri parted other listed path loose).mp begins.1) (none_below other listed)

end Proxied

theorem other_area (site : Site) (area : Part) (other : area ∉ areas) : site.areaLimit area = some general := by
  have admin : area ≠ "admin".toList := fun same => other (by simp [same, areas])
  have setup : area ≠ "setup".toList := fun same => other (by simp [same, areas])
  have key : area ≠ "api".toList := fun same => other (by simp [same, areas])
  cases site <;> simp only [Site.areaLimit, if_neg admin, if_neg setup, if_neg key]

theorem area_reserved (area : Part) (known : area ∈ areas) : area ∈ Api.reserved := by
  have all : areas.all (fun area => Api.reserved.contains area) = true := by decide +kernel
  simpa using List.all_eq_true.mp all area known

section Reached

variable (site : Site) (location : Location) (uri : Path) (parted : Parted uri)
  (chosen : select site.locations (UrlPath.text uri) = some location) (reply : location.body.reply = .proxy)

include parted chosen reply

theorem limit_below (area : Part) (out : Path) (nonempty : out ≠ []) (split : uri = areaRoot area ++ out) :
    location.body.limit = site.areaLimit area := by
  obtain ⟨inside, outside⟩ := proxy_limit site location uri parted chosen reply
  by_cases known : area ∈ areas
  · exact inside area known ⟨out, nonempty, split⟩
  · rw [other_area site area known]
    refine outside ?_
    rintro other listed ⟨more, -, again⟩
    rw [split] at again
    have same := (List.cons_eq_cons.mp (List.cons_eq_cons.mp (List.cons_eq_cons.mp again).2).2).1
    rw [same] at known
    exact known listed

theorem limit_outside (elsewhere : ∀ area ∈ Api.reserved, ∀ more, uri ≠ areaRoot area ++ more ∨ more = []) :
    location.body.limit = some general := by
  refine (proxy_limit site location uri parted chosen reply).2 ?_
  rintro area known ⟨more, nonempty, split⟩
  rcases elsewhere area (area_reserved area known) more with apart | empty
  · exact apart split
  · exact nonempty empty

theorem proxy_root : uri.head? = some "api".toList := by
  obtain ⟨member, how⟩ := Locations.select_spec site.locations (UrlPath.text uri) location chosen
  obtain ⟨loose, kind⟩ := api_proxy site location member reply
  have begins : location.begins (UrlPath.text uri) = true := by
    rcases how with ⟨exactly, -⟩ | ⟨longest, -⟩
    · rw [loose] at exactly
      cases exactly
    · exact longest
  rcases kind with ⟨path, -⟩ | ⟨area, known, path, -⟩
  · have root : "/api/".toList = UrlPath.text ["api".toList] ++ ['/'] := by decide +kernel
    have single : Parted ["api".toList] := by
      intro part inside
      rw [List.mem_singleton.mp inside]
      decide
    simp only [Locations.Location.begins, loose, path, root, Bool.not_false, Bool.true_and, List.isPrefixOf_iff_prefix] at begins
    obtain ⟨more, -, split⟩ := (UrlPath.under_iff uri ["api".toList] parted single).mp begins
    rw [split]
    rfl
  · obtain ⟨more, -, split⟩ := (begins_area location uri parted area known path loose).mp begins
    rw [split]
    rfl

end Reached

theorem root_plain : ∀ part ∈ ["api".toList, "v1".toList], UrlPath.plain part = true := by
  have all : ["api".toList, "v1".toList].all UrlPath.plain = true := by decide +kernel
  exact List.all_eq_true.mp all

section Paths

open Api (Endpoint Placed reserved)
open Router (Route Piece Pattern fits deep)

variable (site : Site) (location : Location)

theorem bare_limit (uri : Path) (parted : Parted uri) (chosen : select site.locations (UrlPath.text uri) = some location)
    (reply : location.body.reply = .proxy) (area : Part) (free : area ∉ areas) (same : uri = areaRoot area) :
    location.body.limit = site.areaLimit area := by
  rw [other_area site area free]
  refine limit_outside site location uri parted chosen reply ?_
  intro other _ below
  by_cases empty : below = []
  · exact Or.inr empty
  · refine Or.inl fun again => ?_
    rw [same] at again
    have lengths := congrArg List.length again
    rw [List.length_append] at lengths
    exact empty (List.eq_nil_of_length_eq_zero (by simpa [areaRoot] using lengths))

theorem short_free (route : Route Endpoint) (piece : Piece) (rest : Pattern)
    (placed : Placed route piece rest) (short : rest = [])
    (area : Part) (third : piece.fits rest.isEmpty area = true) : area ∉ areas := by
  intro known
  have taken := area_reserved area known
  have shape := placed.third
  split at shape
  · exact shape.2.1 short
  · obtain ⟨literal, -, -, far⟩ := shape
    have away := far.resolve_left (fun nonempty => nonempty short)
    rw [literal] at third
    simp only [Piece.fits, Bool.or_eq_true, beq_iff_eq, Bool.and_eq_true] at third
    rcases third with same_area | ⟨-, broken⟩
    · rw [same_area] at taken
      exact away.1 taken
    · rw [broken] at taken
      exact away.2 taken

theorem dotted_limit (rest : Pattern) (more uri : Path) (area : Part) (uriParted : Parted uri)
    (resolved : normal ("api".toList :: "v1".toList :: area :: more) = some uri)
    (chosen : select site.locations (UrlPath.text uri) = some location) (reply : location.body.reply = .proxy)
    (dotted : area = ['.'] ∨ area = UrlPath.parent) (long : more ≠ []) (later : fits rest more = true)
    (deep : Router.deep 0 rest = true)
    (far : ∀ text, .lit text ∈ rest → text ∉ reserved ∧ text ++ ['\n'] ∉ reserved) :
    location.body.limit = site.areaLimit area := by
  obtain ⟨out, inner⟩ := Router.deep_normal rest more later deep
  have head := Router.deep_normal_head (fun part => part ∉ reserved) rest more out later deep inner (by decide +kernel) far
  have lonely : area ∉ areas := by
    rcases dotted with same | same <;> rw [same] <;> decide +kernel
  rw [other_area site area lonely]
  refine limit_outside site location uri uriParted chosen reply ?_
  rcases dotted with same | same
  · have joined := UrlPath.normal_skipped ["api".toList, "v1".toList] more out area root_plain (by rw [same]; decide) long inner
    have path_uri : uri = ["api".toList, "v1".toList] ++ out := Option.some.inj (resolved.symm.trans joined)
    intro other known below
    refine Or.inl fun again => ?_
    rw [path_uri] at again
    have tails : out = other :: below := (List.cons_eq_cons.mp (List.cons_eq_cons.mp again).2).2
    exact head other (by rw [tails]; rfl) known
  · rw [same] at resolved
    have joined := UrlPath.normal_left ["api".toList] more out "v1".toList root_plain long inner
    have path_uri : uri = ["api".toList] ++ out := Option.some.inj (resolved.symm.trans joined)
    intro other known below
    refine Or.inl fun again => ?_
    rw [path_uri] at again
    have tails : out = "v1".toList :: other :: below := (List.cons_eq_cons.mp again).2
    exact head "v1".toList (by rw [tails]; rfl) (by decide +kernel)

-- A route of the API below /api/v1 has the edge limit of its area, whatever
-- its parameters are resolved to.
theorem placed_limit (route : Route Endpoint) (piece : Piece) (rest : Pattern)
    (placed : Placed route piece rest) (path uri : Path)
    (fitting : fits route.pattern path = true) (parted : Parted path) (resolved : normal path = some uri)
    (chosen : select site.locations (UrlPath.text uri) = some location) (reply : location.body.reply = .proxy) :
    ∃ area more, path = "api".toList :: "v1".toList :: area :: more ∧ piece.fits rest.isEmpty area = true ∧
      location.body.limit = site.areaLimit area := by
  rw [placed.pattern] at fitting
  obtain ⟨area, more, split, third, later⟩ := Api.fits_placed piece rest path fitting
  refine ⟨area, more, split, third, ?_⟩
  have uriParted := UrlPath.normal_parted path uri parted resolved
  have long : rest ≠ [] → more ≠ [] := by
    intro nonempty empty
    rw [empty] at later
    exact nonempty (List.eq_nil_of_length_eq_zero (Api.fits_length rest [] later))
  rw [split] at resolved
  by_cases whole : UrlPath.plain area = true
  · have above : ∀ part ∈ areaRoot area, UrlPath.plain part = true := by
      intro part member
      rcases List.mem_append.mp (show part ∈ ["api".toList, "v1".toList] ++ [area] from member) with root | last
      · exact root_plain part root
      · rw [List.mem_singleton.mp last]
        exact whole
    by_cases ends : more = []
    · rw [ends] at resolved
      have same : uri = areaRoot area := Option.some.inj (resolved.symm.trans (UrlPath.normal_plain (areaRoot area) above))
      have short : rest = [] := by
        by_contra nonempty
        exact long nonempty ends
      exact bare_limit site location uri uriParted chosen reply area (short_free route piece rest placed short area third) same
    · obtain ⟨out, inner⟩ := Router.deep_normal rest more later placed.deep
      have joined := UrlPath.normal_below (areaRoot area) more out above ends inner
      have same : uri = areaRoot area ++ out := Option.some.inj (resolved.symm.trans joined)
      exact limit_below site location uri uriParted chosen reply area out (UrlPath.normal_nonempty more out ends inner) same
  · have shape := placed.third
    split at shape
    · obtain ⟨any, filled, far⟩ := shape
      rw [any] at third
      have given : area ≠ [] := by simpa [Piece.fits] using third
      have dotted : area = ['.'] ∨ area = UrlPath.parent := by
        by_contra neither
        simp only [not_or] at neither
        exact whole (by simp [UrlPath.plain, UrlPath.skipped, given, neither.1, neither.2])
      exact dotted_limit site location rest more uri area uriParted resolved chosen reply dotted
        (long filled) later placed.deep far
    · obtain ⟨literal, one, two, -⟩ := shape
      rw [literal] at third
      exact absurd (Router.lit_plain _ area _ one two third) whole

end Paths

section Guards

open Api (Endpoint HTTPException Limiter Instant Deployment)
open Router (dispatch)

def passes (deployment : Deployment) (limiter : Limiter) (now : Instant) (request : Api.Request) (endpoint : Endpoint) :
    Except HTTPException Unit × Limiter :=
  match endpoint.scope with
  | some scope => Api.runDependencies (Api.dependencies deployment scope) limiter now request
  | none => (.ok (), limiter)

-- What stands before an endpoint: the edge limit of the area it lies in, the
-- admin token, and a limiter that counts by the address of the connection.
structure Guarded (deployment : Deployment) (server : ServerBlock) (request : EdgeRequest)
    (limit : Option Limit) (path : List Char)
    (endpoint : Endpoint) : Prop where
  edge : if endpoint.docs then limit = none
    else path = request.path ∧ ∃ area more, parse path = "api".toList :: "v1".toList :: area :: more ∧
      limit = server.site.areaLimit area ∧
      (endpoint.byToken = false → area = endpoint.area.toList ∨ (area = endpoint.area.toList ++ ['\n'] ∧ more = []))
  admin : endpoint.admin = true → deployment.adminToken ≠ "" ∧ Api.bearerToken request.authorization = some deployment.adminToken
  client : ∀ peer, Api.getClientIp (request.forwarded peer) = request.remote.text

theorem answer_proxied (server : ServerBlock) (request : EdgeRequest) (limit : Option Limit) (path : List Char)
    (proxied : server.answer request = .proxied limit path) :
    ∃ uri location, normal (parse request.path) = some uri ∧ select server.site.locations (UrlPath.text uri) = some location ∧
      location.body.limit = limit ∧ ((location.body.reply = .proxy ∧ path = request.path) ∨
        ∃ base, location.body.reply = .proxyTo base ∧ path = base.toList ++ (UrlPath.text uri).drop location.path.length) := by
  unfold ServerBlock.answer at proxied
  split at proxied
  · cases proxied
  · rename_i uri resolved
    split at proxied
    · cases proxied
    · split at proxied
      · cases proxied
      · split at proxied
        · cases proxied
        · rename_i location chosen
          refine ⟨uri, location, resolved, chosen, ?_⟩
          unfold locationAnswer at proxied
          split at proxied
          · cases proxied
          · cases reply : location.body.reply with
            | proxy =>
                rw [reply] at proxied
                obtain ⟨same, sent⟩ := EdgeAnswer.proxied.inj proxied
                exact ⟨same, Or.inl ⟨rfl, sent.symm⟩⟩
            | proxyTo base =>
                rw [reply] at proxied
                obtain ⟨same, sent⟩ := EdgeAnswer.proxied.inj proxied
                exact ⟨same, Or.inr ⟨base, rfl, sent.symm⟩⟩
            | _ =>
                rw [reply] at proxied
                cases proxied

theorem passes_admin (deployment : Deployment) (limiter : Limiter) (now : Instant) (request : Api.Request) (endpoint : Endpoint)
    (admin : endpoint.admin = true) (passed : (passes deployment limiter now request endpoint).1 = .ok ()) :
    deployment.adminToken ≠ "" ∧ Api.bearerToken request.authorization = some deployment.adminToken := by
  have scope : endpoint.scope = some .admin := by
    unfold Endpoint.scope
    rw [if_pos admin]
  simp only [passes, scope, Api.dependencies, Api.adminRouter, Api.runDependencies] at passed
  apply (Api.require_admin_ok_iff deployment request.authorization).mp
  cases checked : Api.requireAdmin deployment request.authorization with
  | ok done => rfl
  | error refusal =>
      rw [checked] at passed
      cases passed

theorem address_plain (address : RemoteAddr) (c : Char) (member : c ∈ address.text.toList) : c ≠ ',' ∧ Api.isBlank c = false := by
  have known := List.all_eq_true.mp address.chars c member
  constructor
  · rintro rfl
    exact absurd known (by decide)
  · by_cases colon : c = ':'
    · subst colon
      decide
    · have name : Api.isUsernameChar c = true := by
        simp only [isAddressChar, Bool.or_eq_true, beq_iff_eq, colon, or_false] at known
        simp only [Api.isUsernameChar, Bool.or_eq_true, beq_iff_eq]
        exact Or.inl (Or.inl known)
      exact (Api.username_char_plain c name).2.1

theorem forwarded_client (request : EdgeRequest) (peer : Option String) :
    Api.getClientIp (request.forwarded peer) = request.remote.text := by
  have chars := address_plain request.remote
  have whole : request.remote.text.toList.takeWhile (fun c => decide (c ≠ ',')) = request.remote.text.toList := by
    rw [List.takeWhile_eq_self_iff]
    intro c member
    exact decide_eq_true (chars c member).1
  rw [Api.getClientIp, EdgeRequest.forwarded]
  dsimp only
  rw [if_neg request.remote.given, whole, String.ofList_toList]
  exact Text.trim_solid Api.isBlank _ (fun c member => (chars c member).2)

theorem docs_base_start (base : String) (known : base ∈ docsBases) : ∃ c rest, base.toList = '/' :: c :: rest ∧ c ≠ 'a' := by
  simp only [docsBases, List.mem_cons, List.not_mem_nil, or_false] at known
  rcases known with rfl | rfl | rfl
  · exact ⟨'o', "penapi.json".toList, by decide +kernel, by decide⟩
  · exact ⟨'d', "ocs".toList, by decide +kernel, by decide⟩
  · exact ⟨'r', "edoc".toList, by decide +kernel, by decide⟩

theorem docs_base_apart (base : String) (known : base ∈ docsBases) (more : List Char) :
    (parse (base.toList ++ more)).head? ≠ some "api".toList := by
  intro first
  obtain ⟨c, rest, start, apart⟩ := docs_base_start base known
  rw [start, List.cons_append] at first
  have whole := UrlPath.parse_text ((c :: rest) ++ more)
  cases parts : parse ('/' :: ((c :: rest) ++ more)) with
  | nil =>
      rw [parts] at first
      cases first
  | cons part others =>
      rw [parts, List.head?_cons, Option.some.injEq] at first
      rw [parts, first] at whole
      have second : some 'a' = some c := congrArg (fun chars => (chars.tail).head?) whole
      exact apart (Option.some.inj second).symm

section Edges

open Router (Route fits)

variable (site : Site) (request : EdgeRequest) (path : List Char) (route : Route Endpoint) (uri : Path)
  (location : Location) (chosen : select site.locations (UrlPath.text uri) = some location)
  (resolved : normal (parse request.path) = some uri) (fitting : fits route.pattern (parse path) = true)
  (how : (location.body.reply = .proxy ∧ path = request.path) ∨
    ∃ base, location.body.reply = .proxyTo base ∧ path = base.toList ++ (UrlPath.text uri).drop location.path.length)

include chosen resolved fitting how

theorem docs_unlimited (known : Api.placed route = true) (documented : route.handler.docs = true) :
    location.body.limit = none := by
  rcases how with ⟨reply, sent⟩ | ⟨base, reply, -⟩
  · obtain ⟨whole, start⟩ := Api.documents_parts route known documented (parse path) fitting
    have file := UrlPath.normal_plain (parse path) whole
    rw [← sent, file, Option.some.injEq] at resolved
    rw [resolved] at start
    exact absurd (proxy_root site location uri (resolved ▸ UrlPath.parse_parted path) chosen reply) start
  · exact (docs_proxy site location base (Locations.select_spec _ _ location chosen).1 reply).1

theorem area_limited (known : Api.placed route = true) (other : route.handler.docs = false) : path = request.path ∧
    ∃ area more, parse path = "api".toList :: "v1".toList :: area :: more ∧ location.body.limit = site.areaLimit area ∧
      (route.handler.byToken = false → area = route.handler.area.toList ∨
        (area = route.handler.area.toList ++ ['\n'] ∧ more = [])) := by
  obtain ⟨piece, rest, placed⟩ := Api.placed_parts route known other
  rcases how with ⟨reply, sent⟩ | ⟨base, reply, sent⟩
  · have resolved_path : normal (parse path) = some uri := by
      rw [sent]
      exact resolved
    obtain ⟨area, more, split, third, limited⟩ := placed_limit site location route piece rest placed (parse path) uri
      fitting (UrlPath.parse_parted path) resolved_path chosen reply
    refine ⟨sent, area, more, split, limited, ?_⟩
    intro fixed
    have shape := placed.third
    rw [fixed, if_neg Bool.false_ne_true] at shape
    rw [shape.1] at third
    simp only [Router.Piece.fits, Bool.or_eq_true, beq_iff_eq, Bool.and_eq_true, List.isEmpty_iff] at third
    refine third.imp_right ?_
    rintro ⟨empty, broken⟩
    refine ⟨broken, ?_⟩
    rw [placed.pattern, split, empty] at fitting
    have lengths := Api.fits_length _ _ fitting
    exact List.eq_nil_of_length_eq_zero (by simpa using lengths.symm)
  · have start : (parse path).head? = some "api".toList := by
      rw [placed.pattern] at fitting
      obtain ⟨area, more, split, -, -⟩ := Api.fits_placed piece rest (parse path) fitting
      rw [split]
      rfl
    rw [sent] at start
    exact absurd start (docs_base_apart base
      (docs_proxy site location base (Locations.select_spec _ _ location chosen).1 reply).2 _)

end Edges

theorem guarded (docs : Bool) (deployment : Deployment) (limiter : Limiter) (now : Instant) (conf : Conf) (request : EdgeRequest)
    (peer : Option String) (limit : Option Limit) (path : List Char) (endpoint : Endpoint)
    (proxied : conf.answer request = .proxied limit path)
    (reached : dispatch (Api.routes docs) request.method (parse path) = .handler endpoint)
    (passed : (passes deployment limiter now (request.forwarded peer) endpoint).1 = .ok ()) :
    ∃ server, choose conf request.https request.host = some server ∧ Guarded deployment server request limit path endpoint := by
  unfold Conf.answer at proxied
  split at proxied
  · cases proxied
  · rename_i server picked
    refine ⟨server, picked, ?_, ?_, forwarded_client request⟩
    · obtain ⟨uri, location, resolved, chosen, same, how⟩ := answer_proxied server request limit path proxied
      obtain ⟨route, member, takes, handler⟩ :=
        Router.dispatch_handler (Api.routes docs) request.method (parse path) endpoint reached
      have fitting := ((Api.takes_parts route request.method (parse path)).mp takes).2
      have known := (Api.routes_checked docs).placed route member
      rw [← same, ← handler]
      split
      · rename_i documented
        exact docs_unlimited server.site request path route uri location chosen resolved fitting how known documented
      · rename_i documented
        exact area_limited server.site request path route uri location chosen resolved fitting how known
          (Bool.not_eq_true _ ▸ documented)
    · exact fun admin => passes_admin deployment limiter now (request.forwarded peer) endpoint admin passed

end Guards

def panelConf : Conf := generateConf realCert realKey ⟨"panel.example.com", "false", "true", "true"⟩

def sampleAddress : RemoteAddr := ⟨"198.51.100.7", by decide, by decide +kernel⟩

def panelRequest (path : String) : EdgeRequest :=
  ⟨true, "panel.example.com", "GET", path.toList, sampleAddress, some "203.0.113.9", some "Bearer s3cret"⟩

theorem config_request_guarded :
    ∃ server, choose panelConf true "panel.example.com" = some server ∧
      Guarded (Api.sampleDeployment 1) server (panelRequest "/api/v1/admin/config") (some ⟨.apiStrict, 20⟩)
        "/api/v1/admin/config".toList .getConfig :=
  guarded true (Api.sampleDeployment 1) Api.start 0 panelConf (panelRequest "/api/v1/admin/config") none (some ⟨.apiStrict, 20⟩)
    "/api/v1/admin/config".toList .getConfig (by decide +kernel) (by decide +kernel) (by decide +kernel)

-- A detour through the location without a limit ends at no endpoint.
example : panelConf.answer (panelRequest "/api/v1/admin/../api/x") = .proxied none "/api/v1/admin/../api/x".toList ∧
    Router.dispatch (Api.routes true) "GET" (parse "/api/v1/admin/../api/x".toList) = .notFound := by
  decide +kernel

end Tempmail.Web
