import Mathlib.Data.List.Pairwise
import Tempmail.Api.AdminAuth
import Tempmail.Lib.Router

set_option autoImplicit false

namespace Tempmail.Api

open Router (Pattern Piece Route Dispatched dispatch fits meets deep)
open UrlPath (Part Path plain)

-- The functions behind the routes; those of two routers with one name get
-- their router's name first.
inductive Endpoint where
  | openapi | swaggerUi | swaggerUiRedirect | redoc
  | healthCheck
  | setupStatus | completeSetup
  | getStats | adminListAddresses | adminGetAddress | adminDeleteAddress | adminListEmails | adminGetEmail | adminDeleteEmail
  | adminListDomains | checkDomain | addDomain | removeDomain | getConfig | updateConfig | runCleanupNow | tlsStatus | tlsIssue
  | permanentStats | listPermanentAddresses | createPermanentAddressAdmin | purgePermanentEmails | runPermanentRetention
  | apikeyStatus | apikeyRegenerate
  | createPermanentAddressPublic | createPermanentAddressApi
  | listDomains | createAddress
  | getAddressInfo | listEmails | getEmail | downloadRawEmail | downloadAttachment | deleteEmail
deriving DecidableEq, Repr

def pathPattern (text : String) : Pattern :=
  (UrlPath.parse text.toList).map (fun part => if part.head? = some '\x7b' then .any else .lit part)

def route (methods : List String) (text : String) (endpoint : Endpoint) : Route Endpoint := ⟨methods, pathPattern text, endpoint⟩

def docsRoutes : List (Route Endpoint) :=
  [route ["GET", "HEAD"] "/openapi.json" .openapi, route ["GET", "HEAD"] "/docs" .swaggerUi,
    route ["GET", "HEAD"] "/docs/oauth2-redirect" .swaggerUiRedirect, route ["GET", "HEAD"] "/redoc" .redoc]

def setupRouter : List (Route Endpoint) :=
  [route ["GET"] "/api/v1/setup/status" .setupStatus, route ["POST"] "/api/v1/setup/complete" .completeSetup]

def adminRoutes : List (Route Endpoint) :=
  [route ["GET"] "/api/v1/admin/stats" .getStats,
    route ["GET"] "/api/v1/admin/addresses" .adminListAddresses,
    route ["GET"] "/api/v1/admin/addresses/\x7baddress_id\x7d" .adminGetAddress,
    route ["DELETE"] "/api/v1/admin/addresses/\x7baddress_id\x7d" .adminDeleteAddress,
    route ["GET"] "/api/v1/admin/emails" .adminListEmails,
    route ["GET"] "/api/v1/admin/emails/\x7bemail_id\x7d" .adminGetEmail,
    route ["DELETE"] "/api/v1/admin/emails/\x7bemail_id\x7d" .adminDeleteEmail,
    route ["GET"] "/api/v1/admin/domains" .adminListDomains,
    route ["GET"] "/api/v1/admin/domains/check" .checkDomain,
    route ["POST"] "/api/v1/admin/domains" .addDomain,
    route ["DELETE"] "/api/v1/admin/domains/\x7bdomain\x7d" .removeDomain,
    route ["GET"] "/api/v1/admin/config" .getConfig,
    route ["PUT"] "/api/v1/admin/config" .updateConfig,
    route ["POST"] "/api/v1/admin/cleanup/run" .runCleanupNow,
    route ["GET"] "/api/v1/admin/tls/status" .tlsStatus,
    route ["POST"] "/api/v1/admin/tls/issue" .tlsIssue,
    route ["GET"] "/api/v1/admin/permanent-addresses/stats" .permanentStats,
    route ["GET"] "/api/v1/admin/permanent-addresses" .listPermanentAddresses,
    route ["POST"] "/api/v1/admin/permanent-addresses" .createPermanentAddressAdmin,
    route ["POST"] "/api/v1/admin/permanent-addresses/\x7baddress_id\x7d/purge-emails" .purgePermanentEmails,
    route ["POST"] "/api/v1/admin/permanent-addresses/run-retention" .runPermanentRetention,
    route ["GET"] "/api/v1/admin/apikey/status" .apikeyStatus,
    route ["POST"] "/api/v1/admin/apikey/regenerate" .apikeyRegenerate]

def permanentRouter : List (Route Endpoint) :=
  [route ["POST"] "/api/v1/permanent-addresses" .createPermanentAddressPublic,
    route ["POST"] "/api/v1/api/addresses" .createPermanentAddressApi]

def addressesRouter : List (Route Endpoint) :=
  [route ["GET"] "/api/v1/domains" .listDomains, route ["POST"] "/api/v1/addresses" .createAddress]

def emailsRouter : List (Route Endpoint) :=
  [route ["GET"] "/api/v1/\x7btoken\x7d/info" .getAddressInfo,
    route ["GET"] "/api/v1/\x7btoken\x7d/emails" .listEmails,
    route ["GET"] "/api/v1/\x7btoken\x7d/emails/\x7bemail_id\x7d" .getEmail,
    route ["GET"] "/api/v1/\x7btoken\x7d/emails/\x7bemail_id\x7d/raw" .downloadRawEmail,
    route ["GET"] "/api/v1/\x7btoken\x7d/emails/\x7bemail_id\x7d/attachments/\x7battachment_id\x7d" .downloadAttachment,
    route ["DELETE"] "/api/v1/\x7btoken\x7d/emails/\x7bemail_id\x7d" .deleteEmail]

-- The routers in the order they are included; docs is settings.DOCS_ENABLED at the start.
def routes (docs : Bool) : List (Route Endpoint) :=
  (if docs then docsRoutes else []) ++ [route ["GET"] "/api/v1/health" .healthCheck] ++
    setupRouter ++ adminRoutes ++ permanentRouter ++ addressesRouter ++ emailsRouter

def Endpoint.docs : Endpoint → Bool
  | .openapi | .swaggerUi | .swaggerUiRedirect | .redoc => true
  | _ => false

def Endpoint.byToken : Endpoint → Bool
  | .getAddressInfo | .listEmails | .getEmail | .downloadRawEmail | .downloadAttachment | .deleteEmail => true
  | _ => false

def Endpoint.admin (endpoint : Endpoint) : Bool := adminRoutes.any (fun route => route.handler == endpoint)

def Endpoint.area (endpoint : Endpoint) : String :=
  if endpoint.admin then "admin"
  else match endpoint with
    | .healthCheck => "health"
    | .setupStatus | .completeSetup => "setup"
    | .createPermanentAddressPublic => "permanent-addresses"
    | .createPermanentAddressApi => "api"
    | .listDomains => "domains"
    | .createAddress => "addresses"
    | _ => ""

def Endpoint.scope (endpoint : Endpoint) : Option Scope :=
  if endpoint.admin then some .admin
  else if endpoint.byToken then some .emails
  else match endpoint with
    | .completeSetup => some .setup
    | .createPermanentAddressPublic => some .permanentCreate
    | .createPermanentAddressApi => some .permanentCreateApi
    | .createAddress => some .createAddress
    | _ => none

-- The token routes that an admin route takes where the token is admin.
def shadowed : List (Endpoint × Endpoint) :=
  [(.adminListEmails, .listEmails), (.adminGetEmail, .getEmail), (.adminDeleteEmail, .deleteEmail)]

def Endpoint.Shadowed (endpoint : Endpoint) (path : Path) : Prop :=
  path[2]? = some "admin".toList ∧ ∃ admin, (admin, endpoint) ∈ shadowed

def compete (one two : Route Endpoint) : Bool :=
  one.methods.any two.methods.contains && meets one.pattern two.pattern

def literals (pattern : Pattern) : List Part :=
  pattern.filterMap (fun piece => match piece with
    | .lit text => some text
    | .any => none)

-- Parts that stand for an area of their own before the API.
def reserved : List Part := ["v1".toList, "api".toList, "admin".toList, "setup".toList]

def documents (pattern : Pattern) : Bool :=
  pattern.all (fun piece => piece != .any) && (literals pattern).all (fun text => plain text && plain (text ++ ['\n'])) &&
    pattern.head? != some (.lit "api".toList)

def placed (route : Route Endpoint) : Bool :=
  if route.handler.docs then documents route.pattern
  else match route.pattern with
    | root :: version :: piece :: rest =>
        root == .lit "api".toList && version == .lit "v1".toList && deep 0 rest &&
          (if route.handler.byToken then
            piece == .any && rest != [] && (literals rest).all (fun text => text ∉ reserved && text ++ ['\n'] ∉ reserved)
          else piece == .lit route.handler.area.toList && plain route.handler.area.toList &&
            plain (route.handler.area.toList ++ ['\n']) &&
            (rest != [] || (route.handler.area.toList ∉ reserved && route.handler.area.toList ++ ['\n'] ∉ reserved)))
    | _ => false

def isTwin (admin : Endpoint) (route twin : Route Endpoint) : Bool :=
  twin.handler == admin && twin.methods == route.methods && twin.pattern == route.pattern.set 2 (.lit "admin".toList)

-- No two routes compete but the three that the order of the routers settles.
structure Checked (table : List (Route Endpoint)) : Prop where
  unbroken : ∀ route ∈ table, ∀ piece ∈ route.pattern, piece.unbroken = true
  placed : ∀ route ∈ table, placed route = true
  apart : table.Pairwise (fun earlier later => compete earlier later = true →
    (earlier.handler, later.handler) ∈ shadowed ∧ earlier.pattern[2]? = some (.lit "admin".toList) ∧ 4 ≤ earlier.pattern.length)
  twins : ∀ route ∈ table, ∀ pair ∈ shadowed, pair.2 = route.handler → ∃ twin ∈ table, isTwin pair.1 route twin = true

def checks (table : List (Route Endpoint)) : Bool :=
  table.all (fun route => route.pattern.all Piece.unbroken) && table.all placed &&
    decide (table.Pairwise (fun earlier later => compete earlier later = true →
      (earlier.handler, later.handler) ∈ shadowed ∧ earlier.pattern[2]? = some (.lit "admin".toList) ∧
        4 ≤ earlier.pattern.length)) &&
    table.all (fun route => shadowed.all (fun pair => pair.2 != route.handler || table.any (isTwin pair.1 route)))

theorem routes_checked (docs : Bool) : Checked (routes docs) := by
  have all : checks (routes docs) = true := by
    cases docs <;> decide +kernel
  simp only [checks, Bool.and_eq_true, List.all_eq_true, decide_eq_true_eq, Bool.or_eq_true, bne_iff_ne, ne_eq,
    List.any_eq_true] at all
  refine ⟨all.1.1.1, all.1.1.2, all.1.2, ?_⟩
  intro route member pair among same
  exact (all.2 route member pair among).resolve_left (fun apart => apart same)

theorem shadowed_once (admin endpoint other : Endpoint) (pair : (admin, endpoint) ∈ shadowed) : (other, admin) ∉ shadowed := by
  simp only [shadowed, List.mem_cons, List.not_mem_nil, or_false, Prod.mk.injEq] at pair ⊢
  rcases pair with ⟨same, -⟩ | ⟨same, -⟩ | ⟨same, -⟩ <;> simp [same]

theorem shadowed_apart (admin endpoint : Endpoint) (pair : (admin, endpoint) ∈ shadowed) : admin ≠ endpoint := by
  simp only [shadowed, List.mem_cons, List.not_mem_nil, or_false, Prod.mk.injEq] at pair
  rcases pair with ⟨one, two⟩ | ⟨one, two⟩ | ⟨one, two⟩ <;> simp [one, two]

theorem takes_parts (route : Route Endpoint) (method : String) (path : Path) :
    route.takes method path = true ↔ route.methods.contains method = true ∧ fits route.pattern path = true := by
  rw [Route.takes, Bool.and_eq_true]

theorem takers_compete (one two : Route Endpoint) (method : String) (path : Path)
    (first : ∀ piece ∈ one.pattern, piece.unbroken = true) (second : ∀ piece ∈ two.pattern, piece.unbroken = true)
    (left : one.takes method path = true) (right : two.takes method path = true) : compete one two = true := by
  rw [takes_parts] at left right
  rw [compete, Bool.and_eq_true, List.any_eq_true]
  refine ⟨⟨method, ?_, right.1⟩, Router.fits_meets one.pattern two.pattern path first second left.2 right.2⟩
  simpa using left.1

theorem fits_fixed (pattern : Pattern) (path : Path) (text : Part) (fitting : fits pattern path = true)
    (third : path[2]? = some text) : fits (pattern.set 2 (.lit text)) path = true := by
  cases pattern with
  | nil => exact fitting
  | cons a pattern =>
      cases pattern with
      | nil => exact fitting
      | cons b pattern =>
          cases pattern with
          | nil => exact fitting
          | cons c pattern =>
              cases path with
              | nil => cases fitting
              | cons x path =>
                  cases path with
                  | nil => cases third
                  | cons y path =>
                      cases path with
                      | nil => cases third
                      | cons z path =>
                          simp only [List.getElem?_cons_succ, List.getElem?_cons_zero, Option.some.injEq] at third
                          simp only [fits, Bool.and_eq_true, List.isEmpty_cons] at fitting
                          simp only [List.set, fits, Bool.and_eq_true, List.isEmpty_cons]
                          exact ⟨fitting.1, fitting.2.1, by simp [Piece.fits, third], fitting.2.2.2⟩

theorem fits_length (pattern : Pattern) (path : Path) (fitting : fits pattern path = true) : pattern.length = path.length := by
  induction pattern generalizing path with
  | nil =>
      cases path with
      | nil => rfl
      | cons part parts => cases fitting
  | cons piece rest ih =>
      cases path with
      | nil => cases fitting
      | cons part parts =>
          simp only [fits, Bool.and_eq_true] at fitting
          rw [List.length_cons, List.length_cons, ih parts fitting.2]

theorem fits_lit_third (pattern : Pattern) (path : Path) (text : Part) (fitting : fits pattern path = true)
    (third : pattern[2]? = some (.lit text)) (more : 4 ≤ pattern.length) : path[2]? = some text := by
  cases pattern with
  | nil => cases third
  | cons a pattern =>
      cases pattern with
      | nil => cases third
      | cons b pattern =>
          cases pattern with
          | nil => cases third
          | cons c pattern =>
              cases path with
              | nil => cases fitting
              | cons x path =>
                  cases path with
                  | nil => exact absurd (fits_length _ _ fitting) (by simp)
                  | cons y path =>
                      cases path with
                      | nil => exact absurd (fits_length _ _ fitting) (by simp)
                      | cons z path =>
                          simp only [List.getElem?_cons_succ, List.getElem?_cons_zero, Option.some.injEq] at third
                          simp only [fits, Bool.and_eq_true, List.isEmpty_cons] at fitting
                          cases pattern with
                          | nil => exact absurd more (by simp)
                          | cons d pattern =>
                              have here := fitting.2.2.1
                              simpa [third, Piece.fits] using here

theorem twin_takes (route twin : Route Endpoint) (admin : Endpoint) (method : String) (path : Path)
    (same : isTwin admin route twin = true) (third : path[2]? = some "admin".toList)
    (takes : route.takes method path = true) : twin.handler = admin ∧ twin.takes method path = true := by
  simp only [isTwin, Bool.and_eq_true, beq_iff_eq] at same
  rw [takes_parts] at takes ⊢
  rw [same.1.2, same.2]
  exact ⟨same.1.1, takes.1, fits_fixed route.pattern path _ takes.2 third⟩

theorem taken_dispatched (docs : Bool) (method : String) (path : Path) (route : Route Endpoint) (member : route ∈ routes docs)
    (takes : route.takes method path = true) (unshadowed : ¬ route.handler.Shadowed path) :
    dispatch (routes docs) method path = .handler route.handler := by
  have checked := routes_checked docs
  obtain ⟨before, after, split⟩ := List.append_of_mem member
  have apart := checked.apart
  rw [split, List.pairwise_append] at apart
  rw [split]
  refine Router.dispatch_first before after route method path takes ?_
  intro earlier inside
  by_contra also
  rw [Bool.not_eq_false] at also
  have listed : earlier ∈ routes docs := by
    rw [split]
    exact List.mem_append_left _ inside
  have compete := takers_compete earlier route method path (checked.unbroken earlier listed) (checked.unbroken route member)
    also takes
  obtain ⟨pair, third, long⟩ := apart.2.2 earlier inside route List.mem_cons_self compete
  rw [takes_parts] at also
  exact unshadowed ⟨fits_lit_third earlier.pattern path _ also.2 third long, earlier.handler, pair⟩

theorem dispatched_iff (docs : Bool) (method : String) (path : Path) (endpoint : Endpoint) :
    dispatch (routes docs) method path = .handler endpoint ↔
      (∃ route ∈ routes docs, route.handler = endpoint ∧ route.takes method path = true) ∧ ¬ endpoint.Shadowed path := by
  constructor
  · intro reached
    obtain ⟨route, member, takes, same⟩ := Router.dispatch_handler (routes docs) method path endpoint reached
    refine ⟨⟨route, member, same, takes⟩, ?_⟩
    rintro ⟨third, admin, pair⟩
    obtain ⟨twin, listed, alike⟩ := (routes_checked docs).twins route member (admin, endpoint) pair same.symm
    obtain ⟨handler, also⟩ := twin_takes route twin admin method path alike third takes
    have free : ¬ twin.handler.Shadowed path := by
      rw [handler]
      rintro ⟨-, other, again⟩
      exact shadowed_once admin endpoint other pair again
    have first := taken_dispatched docs method path twin listed also free
    rw [reached, Dispatched.handler.injEq, handler] at first
    exact shadowed_apart admin endpoint pair first.symm
  · rintro ⟨⟨route, member, same, takes⟩, unshadowed⟩
    rw [← same] at unshadowed ⊢
    exact taken_dispatched docs method path route member takes unshadowed

section Placed

theorem literal_member (pattern : Pattern) (text : Part) (member : .lit text ∈ pattern) : text ∈ literals pattern :=
  List.mem_filterMap.mpr ⟨.lit text, member, rfl⟩

theorem fixed_plain (pattern : Pattern) (path : Path) (fitting : fits pattern path = true)
    (fixed : ∀ piece ∈ pattern, piece ≠ .any)
    (whole : ∀ text, .lit text ∈ pattern → plain text = true ∧ plain (text ++ ['\n']) = true) :
    ∀ part ∈ path, plain part = true := by
  induction pattern generalizing path with
  | nil =>
      cases path with
      | nil => exact fun part member => absurd member List.not_mem_nil
      | cons part parts => cases fitting
  | cons piece rest ih =>
      cases path with
      | nil => cases fitting
      | cons part parts =>
          simp only [fits, Bool.and_eq_true] at fitting
          intro p member
          rcases List.mem_cons.mp member with same | later
          · cases piece with
            | any => exact absurd rfl (fixed .any List.mem_cons_self)
            | lit text =>
                obtain ⟨one, two⟩ := whole text List.mem_cons_self
                rw [same]
                exact Router.lit_plain text part _ one two fitting.1
          · exact ih parts fitting.2 (fun q inside => fixed q (List.mem_cons_of_mem _ inside))
              (fun text inside => whole text (List.mem_cons_of_mem _ inside)) p later

structure Placed (route : Route Endpoint) (piece : Piece) (rest : Pattern) : Prop where
  pattern : route.pattern = .lit "api".toList :: .lit "v1".toList :: piece :: rest
  deep : deep 0 rest = true
  third : if route.handler.byToken then
      piece = .any ∧ rest ≠ [] ∧ ∀ text, .lit text ∈ rest → text ∉ reserved ∧ text ++ ['\n'] ∉ reserved
    else piece = .lit route.handler.area.toList ∧ plain route.handler.area.toList = true ∧
      plain (route.handler.area.toList ++ ['\n']) = true ∧
      (rest ≠ [] ∨ (route.handler.area.toList ∉ reserved ∧ route.handler.area.toList ++ ['\n'] ∉ reserved))

theorem placed_parts (route : Route Endpoint) (known : placed route = true) (other : route.handler.docs = false) :
    ∃ piece rest, Placed route piece rest := by
  rw [placed, other, if_neg Bool.false_ne_true] at known
  split at known
  · rename_i root version piece rest shape
    simp only [Bool.and_eq_true, beq_iff_eq] at known
    obtain ⟨⟨⟨first, second⟩, below⟩, third⟩ := known
    refine ⟨piece, rest, by rw [shape, first, second], below, ?_⟩
    split at third
    · rename_i token
      rw [if_pos token]
      simp only [Bool.and_eq_true, beq_iff_eq, bne_iff_ne, ne_eq, List.all_eq_true, decide_eq_true_eq] at third
      refine ⟨third.1.1, third.1.2, ?_⟩
      intro text member
      exact third.2 text (literal_member rest text member)
    · rename_i token
      rw [if_neg token]
      simp only [Bool.and_eq_true, beq_iff_eq, bne_iff_ne, ne_eq, Bool.or_eq_true, decide_eq_true_eq] at third
      exact ⟨third.1.1.1, third.1.1.2, third.1.2, third.2⟩
  · cases known

theorem fits_placed (piece : Piece) (rest : Pattern) (path : Path)
    (fitting : fits (.lit "api".toList :: .lit "v1".toList :: piece :: rest) path = true) :
    ∃ area more, path = "api".toList :: "v1".toList :: area :: more ∧ piece.fits rest.isEmpty area = true ∧
      fits rest more = true := by
  cases path with
  | nil => cases fitting
  | cons x path =>
      cases path with
      | nil => exact absurd (fits_length _ _ fitting) (by simp)
      | cons y path =>
          cases path with
          | nil => exact absurd (fits_length _ _ fitting) (by simp)
          | cons z path =>
              simp only [fits, Bool.and_eq_true, List.isEmpty_cons, Piece.fits, Bool.false_and, Bool.or_false,
                beq_iff_eq] at fitting
              obtain ⟨first, second, third, later⟩ := fitting
              exact ⟨z, path, by rw [first, second], third, later⟩

theorem documents_parts (route : Route Endpoint) (known : placed route = true) (docs : route.handler.docs = true) (path : Path)
    (fitting : fits route.pattern path = true) :
    (∀ part ∈ path, plain part = true) ∧ path.head? ≠ some "api".toList := by
  rw [placed, docs, if_pos rfl] at known
  simp only [documents, Bool.and_eq_true, List.all_eq_true, bne_iff_ne, ne_eq] at known
  obtain ⟨⟨fixed, whole⟩, start⟩ := known
  constructor
  · intro part member
    exact fixed_plain route.pattern path fitting fixed (fun text inside => whole text (literal_member _ text inside)) part member
  · intro first
    cases shape : route.pattern with
    | nil =>
        rw [shape] at fitting
        cases path with
        | nil => cases first
        | cons part parts => cases fitting
    | cons piece rest =>
        rw [shape] at fitting start fixed
        cases path with
        | nil => cases first
        | cons part parts =>
            simp only [List.head?_cons, Option.some.injEq] at first start
            simp only [fits, Bool.and_eq_true, first] at fitting
            cases piece with
            | any => exact fixed .any List.mem_cons_self rfl
            | lit text =>
                simp only [Piece.fits, Bool.or_eq_true, beq_iff_eq, Bool.and_eq_true] at fitting
                rcases fitting.1 with same | ⟨-, broken⟩
                · exact start (by rw [same])
                · have last : '\n' ∈ "api".toList := by
                    rw [broken]
                    simp
                  exact absurd last (by decide)

end Placed

end Tempmail.Api
