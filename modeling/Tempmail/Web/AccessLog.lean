import Tempmail.Lib.Percent
import Tempmail.Web.Headers

set_option autoImplicit false

namespace Tempmail.Web

open Api (Endpoint)
open Router (dispatch)
open UrlPath (Part Path parse)

def apiRoot : List Char := "/api/v1/".toList

def isTokenChar (c : Char) : Bool := Api.isAlnum c || c == '_' || c == '-'

-- map $request_uri $redacted_uri: ^(/api/v1/)([A-Za-z0-9_-]{20,})(/.*)$
def redactedUri (uri : List Char) : List Char :=
  if apiRoot.isPrefixOf uri then
    let rest := uri.drop apiRoot.length
    let tail := rest.dropWhile isTokenChar
    if 20 ≤ (rest.takeWhile isTokenChar).length ∧ tail.head? = some '/' ∧ '\n' ∉ tail then apiRoot ++ "<token>".toList ++ tail
    else uri
  else uri

-- write_security_headers also sets the redacting access_log; a server without it
-- has the one of the image, which writes the line as it came.
def ServerBlock.logs (server : ServerBlock) (uri : List Char) : List Char :=
  if server.listensOn true then redactedUri uri else uri

def target (uri : List Char) : List Char := uri.takeWhile (fun c => c != '?' && c != '#')

structure IsToken (token : Part) : Prop where
  chars : ∀ c ∈ token, isTokenChar c = true
  long : 20 ≤ token.length

def clear (token rest : List Char) : List Char := apiRoot ++ (token ++ '/' :: rest)

section Redacting

theorem token_char_plain (c : Char) (known : isTokenChar c = true) : c ∉ ['/', '%', '?', '#', '\n'] ∧ c.toNat < 128 := by
  have small : c.toNat < 128 := by
    simp only [isTokenChar, Api.isAlnum, Bool.or_eq_true, Text.letter_iff, Text.digit_iff, beq_iff_eq] at known
    rcases known with ((letter | digit) | rfl) | rfl
    · omega
    · omega
    · decide
    · decide
  refine ⟨fun member => ?_, small⟩
  have none_known : ['/', '%', '?', '#', '\n'].all (fun c => !isTokenChar c) = true := rfl
  have other := List.all_eq_true.mp none_known c member
  rw [known] at other
  cases other

theorem token_rest (token rest : List Char) (known : IsToken token) :
    (token ++ '/' :: rest).takeWhile isTokenChar = token ∧ (token ++ '/' :: rest).dropWhile isTokenChar = '/' :: rest := by
  rw [List.takeWhile_append_of_pos known.chars, List.dropWhile_append_of_pos known.chars, List.takeWhile_cons_of_neg (by decide),
    List.dropWhile_cons_of_neg (by decide), List.append_nil]
  exact ⟨rfl, rfl⟩

theorem redacted_clear (token rest : List Char) (known : IsToken token) (unbroken : '\n' ∉ rest) :
    redactedUri (clear token rest) = clear "<token>".toList rest := by
  obtain ⟨taken, left⟩ := token_rest token rest known
  have begins : apiRoot.isPrefixOf (clear token rest) = true := List.isPrefixOf_iff_prefix.mpr (List.prefix_append _ _)
  have after : (clear token rest).drop apiRoot.length = token ++ '/' :: rest := List.drop_left ..
  have whole : '\n' ∉ '/' :: rest := by
    rw [List.mem_cons, not_or]
    exact ⟨by decide, unbroken⟩
  rw [redactedUri, if_pos begins, after]
  dsimp only
  rw [taken, left, if_pos ⟨known.long, rfl, whole⟩, clear, List.append_assoc]

theorem redacted_other (uri : List Char) (other : ∀ token rest, IsToken token → uri ≠ clear token rest) :
    redactedUri uri = uri := by
  rw [redactedUri]
  split
  · rename_i begins
    refine if_neg ?_
    rintro ⟨long, slash, -⟩
    obtain ⟨rest, whole⟩ := List.isPrefixOf_iff_prefix.mp begins
    rw [← whole, List.drop_left] at long slash
    cases tail : rest.dropWhile isTokenChar with
    | nil =>
        rw [tail] at slash
        cases slash
    | cons c more =>
        rw [tail, List.head?_cons, Option.some.injEq] at slash
        refine other (rest.takeWhile isTokenChar) more ⟨fun c member => List.mem_takeWhile_imp member, long⟩ ?_
        rw [clear, ← slash, ← tail, List.takeWhile_append_dropWhile, whole]
  · rfl

end Redacting

section Spelling

open Percent (unquote)

theorem unquote_plain (front rest : List Char) (plain : ∀ c ∈ front, c ≠ '%' ∧ c.toNat < 128) :
    unquote (front ++ rest) = (unquote rest).map (fun bytes => Utf8.encode front ++ bytes) := by
  induction front with
  | nil => simp [Utf8.encode]
  | cons c front ih =>
      obtain ⟨⟨whole, small⟩, later⟩ := List.forall_mem_cons.mp plain
      have value : (UInt8.ofNat c.toNat).toNat = c.toNat := Utf8.byte_of_nat _ (Nat.lt_trans small (by decide))
      have single : Percent.encodes (UInt8.ofNat c.toNat) [c] = true := by simp [Percent.encodes, whole, value, small]
      have step := Percent.unquote_encoded (UInt8.ofNat c.toNat) [c] (front ++ rest) single
      rw [List.singleton_append] at step
      rw [List.cons_append, step, ih later, Option.map_map, Utf8.encode_cons, Utf8.encoded_low c small]
      rfl

theorem encode_front (front path : List Char) (bytes : Utf8.Bytes) (plain : ∀ c ∈ front, c.toNat < 128)
    (same : Utf8.encode path = Utf8.encode front ++ bytes) : ∃ more, path = front ++ more := by
  induction front generalizing path with
  | nil => exact ⟨path, rfl⟩
  | cons c front ih =>
      obtain ⟨small, later⟩ := List.forall_mem_cons.mp plain
      have value : (UInt8.ofNat c.val.toNat).toNat = c.val.toNat := Utf8.byte_of_nat _ (Nat.lt_trans small (by decide))
      rw [Utf8.encode_cons, Utf8.encoded_low c small] at same
      cases path with
      | nil => cases same
      | cons d path =>
          obtain ⟨first, others, encoded⟩ := Utf8.encoded_cons d
          rw [Utf8.encode_cons, encoded] at same
          have head := List.head_eq_of_cons_eq same
          have alone := Utf8.encoded_alone d first (by rw [encoded]; exact List.mem_cons_self) (by rw [head, value]; exact small)
          have here : d = c := Utf8.encoded_injective d c (by rw [alone, Utf8.encoded_low c small, head])
          rw [encoded] at alone
          rw [List.tail_eq_of_cons_eq alone] at same
          obtain ⟨more, split⟩ := ih path later (List.tail_eq_of_cons_eq same)
          exact ⟨more, by rw [here, split, List.cons_append]⟩

theorem clear_path (uri token rest path : List Char) (known : IsToken token) (shown : uri = clear token rest)
    (spelled : unquote (target uri) = some (Utf8.encode path)) : ∃ more, path = clear token more := by
  have front : ∀ c ∈ apiRoot ++ (token ++ ['/']), c ∉ ['%', '?', '#'] ∧ c.toNat < 128 := by
    have all : apiRoot.all (fun c => !(['%', '?', '#'].contains c) && decide (c.toNat < 128)) = true := rfl
    have root : ∀ c ∈ apiRoot, c ∉ ['%', '?', '#'] ∧ c.toNat < 128 := by
      intro c member
      simpa using List.all_eq_true.mp all c member
    intro c member
    rcases List.mem_append.mp member with early | later
    · exact root c early
    · rcases List.mem_append.mp later with inside | slash
      · obtain ⟨apart, small⟩ := token_char_plain c (known.chars c inside)
        exact ⟨fun other => apart (by simp only [List.mem_cons] at other ⊢; grind), small⟩
      · rw [List.mem_singleton.mp slash]
        decide
  have split : target uri = (apiRoot ++ (token ++ ['/'])) ++ target rest := by
    rw [shown, clear, target, target, ← List.takeWhile_append_of_pos]
    · simp
    · intro c member
      have apart := (front c member).1
      simp only [List.mem_cons, not_or] at apart
      simp [apart]
  rw [split, unquote_plain _ _ fun c member => ⟨fun same => (front c member).1 (by simp [same]), (front c member).2⟩] at spelled
  obtain ⟨bytes, -, same⟩ := Option.map_eq_some_iff.mp spelled
  obtain ⟨more, whole⟩ := encode_front _ path bytes (fun c member => (front c member).2) same.symm
  exact ⟨more, by rw [whole, clear]; simp⟩

theorem parse_clear (token rest : List Char) (solid : '/' ∉ token) :
    parse (clear token rest) = "api".toList :: "v1".toList :: token :: parse ('/' :: rest) := by
  have whole : UrlPath.text ("api".toList :: "v1".toList :: token :: parse ('/' :: rest)) = clear token rest := by
    have tail := UrlPath.parse_text rest
    simp only [UrlPath.text, List.flatMap_cons] at tail ⊢
    rw [tail]
    rfl
  rw [← whole]
  refine UrlPath.parse_of_text _ ?_ (List.cons_ne_nil _ _)
  refine List.forall_mem_cons.mpr ⟨by decide, List.forall_mem_cons.mpr ⟨by decide, List.forall_mem_cons.mpr ⟨solid, ?_⟩⟩⟩
  exact UrlPath.parse_parted _

end Spelling

structure Logged (server : ServerBlock) (uri : List Char) (token : Part) : Prop where
  shown : ∀ rest, uri = clear token rest → server.logs uri = if server.listensOn true then clear "<token>".toList rest else uri
  spelled : (∀ rest, uri ≠ clear token rest) → server.logs uri = uri

theorem token_logged (server : ServerBlock) (uri path : List Char) (token : Part) (more : Path) (known : IsToken token)
    (parts : parse path = "api".toList :: "v1".toList :: token :: more) (unbroken : '\n' ∉ uri)
    (spelled : Percent.unquote (target uri) = some (Utf8.encode path)) : Logged server uri token := by
  constructor
  · rintro rest rfl
    rw [ServerBlock.logs]
    split
    · exact redacted_clear token rest known fun inside => unbroken (by simp [clear, inside])
    · rfl
  · intro other
    rw [ServerBlock.logs]
    split
    · refine redacted_other uri fun shown rest real same => ?_
      obtain ⟨beyond, whole⟩ := clear_path uri shown rest path real same spelled
      have solid : '/' ∉ shown := fun inside => (token_char_plain '/' (real.chars '/' inside)).1 List.mem_cons_self
      rw [whole, parse_clear shown beyond solid] at parts
      have third := (List.cons_eq_cons.mp (List.cons_eq_cons.mp (List.cons_eq_cons.mp parts).2).2).1
      exact other rest (third ▸ same)
    · rfl

theorem by_token_plain (endpoint : Endpoint) (byToken : endpoint.byToken = true) : endpoint.docs = false := by
  cases endpoint with
  | openapi => cases byToken
  | swaggerUi => cases byToken
  | swaggerUiRedirect => cases byToken
  | redoc => cases byToken
  | _ => rfl

theorem plain_server_logs (server : ServerBlock) (panel : server.listens = ["80"]) (uri : List Char) : server.logs uri = uri := by
  have open_port : server.listensOn true = false := by
    rw [ServerBlock.listensOn, panel]
    rfl
  rw [ServerBlock.logs, open_port, if_neg Bool.false_ne_true]

-- Over the whole life of the container: a token the client spelled out is not in
-- the log of a server that redacts, which every server on 443 does, and a token it
-- percent-encoded is. The panel's server on port 80 writes every line as it came.
theorem tokens_redacted (born : Nat) (disk : Disk) (events : List Event) (docs : Bool) (request : EdgeRequest) (uri : List Char)
    (endpoint : Endpoint) (unbroken : '\n' ∉ uri) (spelled : Percent.unquote (target uri) = some (Utf8.encode request.path))
    (reached : dispatch (Api.routes docs) request.method (parse request.path) = .handler endpoint)
    (byToken : endpoint.byToken = true) :
    ∃ token more server, parse request.path = "api".toList :: "v1".toList :: token :: more ∧
      choose ((watch born).final (start born disk) events).container.loaded request.https request.host = some server ∧
      (request.https = true → server.listensOn true = true) ∧ (server.listens = ["80"] → server.logs uri = uri) ∧
      (IsToken token → Logged server uri token) := by
  obtain ⟨settings, generated⟩ := (final_sealed born disk events).loaded
  obtain ⟨route, member, takes, handler⟩ :=
    Router.dispatch_handler (Api.routes docs) request.method (parse request.path) endpoint reached
  have fitting := ((Api.takes_parts route request.method (parse request.path)).mp takes).2
  obtain ⟨piece, rest, placed⟩ := Api.placed_parts route ((Api.routes_checked docs).placed route member)
    (handler ▸ by_token_plain endpoint byToken)
  rw [placed.pattern] at fitting
  obtain ⟨token, more, parts, -, -⟩ := Api.fits_placed piece rest (parse request.path) fitting
  obtain ⟨server, chosen⟩ :
    ∃ server, choose ((watch born).final (start born disk) events).container.loaded request.https request.host =
      some server := ⟨_, by rw [generated, choose_generated]⟩
  refine ⟨token, more, server, parts, chosen, fun https => ?_, fun panel => plain_server_logs server panel uri, fun real => ?_⟩
  · rw [generated, https] at chosen
    exact chosen_listens _ _ _ _ server chosen
  · exact token_logged server uri request.path token more real parts unbroken spelled

def infoUri : List Char := "/api/v1/abcdefghijklmnopqrstuvwxyz0123456789/info?from=mail".toList

def infoRequest : EdgeRequest := panelRequest "/api/v1/abcdefghijklmnopqrstuvwxyz0123456789/info"

theorem info_token_redacted : ∃ token more server, parse infoRequest.path = "api".toList :: "v1".toList :: token :: more ∧
    choose ((watch 10).final (start 10 {}) issued).container.loaded true "panel.example.com" = some server ∧
    (true = true → server.listensOn true = true) ∧ (server.listens = ["80"] → server.logs infoUri = infoUri) ∧
    (IsToken token → Logged server infoUri token) :=
  tokens_redacted 10 {} issued true infoRequest infoUri .getAddressInfo (by decide +kernel) (by decide +kernel)
    (by decide +kernel) rfl

end Tempmail.Web
