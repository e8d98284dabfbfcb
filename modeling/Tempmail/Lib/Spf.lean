import Tempmail.Lib.Ip

set_option autoImplicit false

-- RFC 7208: the grammar of a record and its evaluation for one client.
namespace Spf

inductive Qualifier where
  | pass
  | fail
  | softfail
  | neutral
deriving DecidableEq, Repr

inductive Result where
  | none
  | neutral
  | pass
  | fail
  | softfail
  | temperror
  | permerror
deriving DecidableEq, Repr

-- lookup is a mechanism that asks the DNS: include, a, mx, ptr or exists.
inductive Mechanism where
  | all
  | ip4 (network : BitVec 32) (length : Nat)
  | ip6 (network : BitVec 128) (length : Nat)
  | lookup (name argument : String)
deriving DecidableEq, Repr

inductive Term where
  | directive (qualifier : Qualifier) (mechanism : Mechanism)
  | redirect (domain : String)
  | explanation
  | modifier
deriving DecidableEq, Repr

inductive Answer where
  | hit
  | miss
  | temperror
  | permerror
deriving DecidableEq, Repr

-- An answer may depend on the place of its term in the record, as the limit on
-- lookups makes it.
structure Dns where
  answer : Nat → String → String → Answer
  redirected : String → Result

section Grammar

def visible (c : Char) : Bool := 0x21 ≤ c.toNat && c.toNat ≤ 0x7e

inductive Piece where
  | literal (c : Char)
  | expand
deriving DecidableEq, Repr

def Piece.char : Piece → Option Char
  | .literal c => some c
  | .expand => none

-- What stands between %{ and }: a letter, digits, an r and delimiters.
def expansion (chars : List Char) : Bool :=
  match chars with
  | [] => false
  | letter :: rest =>
      let behind := rest.dropWhile Char.isDigit
      let marks := if behind.head?.any (fun c => c.toLower == 'r') then behind.tail else behind
      "slodiphcrtv".toList.contains letter.toLower && marks.all ".-+,/_=".toList.contains

def pieces : Nat → List Char → Option (List Piece)
  | _, [] => some []
  | 0, _ => none
  | fuel + 1, '%' :: '{' :: rest =>
      if rest.contains '}' && expansion (rest.takeWhile (· ≠ '}')) then
        (pieces fuel (rest.dropWhile (· ≠ '}')).tail).map (.expand :: ·)
      else none
  | fuel + 1, '%' :: c :: rest => if "%_-".toList.contains c then (pieces fuel rest).map (.expand :: ·) else none
  | fuel + 1, c :: rest => if c ≠ '%' && visible c then (pieces fuel rest).map (.literal c :: ·) else none

def macroString (chars : List Char) : Bool := (pieces chars.length chars).isSome

def alnum (c : Char) : Bool := c.isAlpha || c.isDigit

def topLabel (label : List Char) : Bool :=
  label.all (fun c => alnum c || c == '-') && label.head?.any alnum && label.getLast?.any alnum && label.any
    (fun c => c.isAlpha || c == '-')

def endsInLabel (chars : List Char) : Bool :=
  let body := if chars.getLast? = some '.' then chars.dropLast else chars
  2 ≤ (body.splitOn '.').length && topLabel ((body.splitOn '.').getLastD [])

def domainSpec (chars : List Char) : Bool :=
  match pieces chars.length chars with
  | none => false
  | some all => all.getLast? == some .expand ||
      endsInLabel ((all.reverse.takeWhile (fun piece => piece != .expand)).reverse.filterMap Piece.char)

def dualCidr (chars : List Char) : Bool :=
  (List.range (chars.length + 1)).any fun cut =>
    let (front, back) := chars.splitAt cut
    (front.isEmpty || (front.head? == some '/' && (Ip.decimal 32 front.tail).isSome)) &&
      (back.isEmpty || (['/', '/'].isPrefixOf back && (Ip.decimal 128 (back.drop 2)).isSome))

def optionalDomain (chars : List Char) : Bool := chars.isEmpty || (chars.head? == some ':' && domainSpec chars.tail)

def host (chars : List Char) : Bool :=
  (List.range (chars.length + 1)).any fun cut => optionalDomain (chars.take cut) && dualCidr (chars.drop cut)

def parseRange {width : Nat} (address : List Char → Option (BitVec width)) (chars : List Char) : Option (BitVec width × Nat) := do
  let network ← address (chars.takeWhile (· ≠ '/'))
  match chars.dropWhile (· ≠ '/') with
  | [] => some (network, width)
  | _ :: length => (Ip.decimal width length).map (fun length => (network, length))

def nameChar (c : Char) : Bool := alnum c || c == '-' || c == '_' || c == '.'

def parseMechanism (chars : List Char) : Option Mechanism :=
  let name := String.ofList ((chars.takeWhile nameChar).map Char.toLower)
  let rest := chars.dropWhile nameChar
  let lookup := Mechanism.lookup name (String.ofList rest)
  if name = "all" then if rest.isEmpty then some .all else none
  else if name = "ip4" then
    if rest.head? = some ':' then (parseRange Ip.parseV4 rest.tail).map (fun range => .ip4 range.1 range.2) else none
  else if name = "ip6" then
    if rest.head? = some ':' then (parseRange Ip.parseV6 rest.tail).map (fun range => .ip6 range.1 range.2) else none
  else if name = "include" ∨ name = "exists" then if rest.head? == some ':' && domainSpec rest.tail then some lookup else none
  else if name = "ptr" then if optionalDomain rest then some lookup else none
  else if name = "a" ∨ name = "mx" then if host rest then some lookup else none
  else none

def parseModifier (name text : List Char) : Option Term :=
  let lower := String.ofList (name.map Char.toLower)
  if !name.head?.any Char.isAlpha then none
  else if lower = "redirect" then if domainSpec text then some (.redirect (String.ofList text)) else none
  else if lower = "exp" then if domainSpec text then some .explanation else none
  else if macroString text then some .modifier else none

def qualifier (c : Char) : Option Qualifier :=
  if c = '+' then some .pass
  else if c = '-' then some .fail
  else if c = '~' then some .softfail
  else if c = '?' then some .neutral
  else none

def parseTerm (text : String) : Option Term :=
  match text.toList with
  | [] => none
  | c :: rest => match qualifier c with
      | some given => (parseMechanism rest).map (.directive given)
      | none => match (c :: rest).dropWhile nameChar with
          | '=' :: behind => parseModifier ((c :: rest).takeWhile nameChar) behind
          | _ => (parseMechanism (c :: rest)).map (.directive .pass)

def version (record : String) : String := String.ofList ((record.toList.takeWhile (· ≠ ' ')).map Char.toLower)

def tokens (record : String) : List String := (Text.fields (· == ' ') record).drop 1

def Term.redirection : Term → Option String
  | .redirect domain => some domain
  | _ => none

def single (terms : List Term) : Bool :=
  (terms.filter (fun term => term.redirection.isSome)).length ≤ 1 && (terms.filter (· == .explanation)).length ≤ 1

def parse (record : String) : Option (List Term) :=
  if record.toList.all (fun c => c == ' ' || visible c) then ((tokens record).mapM parseTerm).filter single else none

end Grammar

section Evaluation

variable (dns : Dns) (ip : Ip.Address) (place : Nat)

def Qualifier.result : Qualifier → Result
  | .pass => .pass
  | .fail => .fail
  | .softfail => .softfail
  | .neutral => .neutral

def Mechanism.answer : Mechanism → Answer
  | .all => .hit
  | .ip4 network length => match ip.plain with
      | .v4 bits => if Ip.agree (Ip.mask 32 length) network bits then .hit else .miss
      | .v6 _ => .miss
  | .ip6 network length => match ip.plain with
      | .v4 _ => .miss
      | .v6 bits => if Ip.agree (Ip.mask 128 length) network bits then .hit else .miss
  | .lookup name argument => dns.answer place name argument

def Term.decision : Term → Option Result
  | .directive given mechanism => match mechanism.answer dns ip place with
      | .hit => some given.result
      | .miss => none
      | .temperror => some .temperror
      | .permerror => some .permerror
  | _ => none

def scan : Nat → List Term → Option Result
  | _, [] => none
  | place, term :: rest => (term.decision dns ip place).or (scan (place + 1) rest)

def fallback (terms : List Term) : Result :=
  match terms.findSome? Term.redirection with
  | none => .neutral
  | some domain => if dns.redirected domain = .none then .permerror else dns.redirected domain

def Valid (record : String) : Prop := version record = "v=spf1" ∧ (parse record).isSome = true

end Evaluation

end Spf
