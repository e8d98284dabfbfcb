import Tempmail.Lib.Spf
import Tempmail.Mx.Validation

set_option autoImplicit false

namespace Tempmail.Mx

section Net

def parseAddress (text : List Char) : Option Ip.Address :=
  if ':' ∈ text then (Ip.parseV6 text).map .v6 else (Ip.parseV4 text).map .v4

def addressWidth : Ip.Address → Nat
  | .v4 _ => 32
  | .v6 _ => 128

-- IPNet.Contains, which takes mapped addresses and mapped networks for IPv4.
def networkContains (network : Ip.Address) (length : Nat) (ip : Ip.Address) : Bool :=
  match network with
  | .v4 bits => match ip.plain with
      | .v4 own => Ip.agree (Ip.mask 32 length) bits own
      | .v6 _ => false
  | .v6 bits => match (Ip.Address.v6 (bits &&& Ip.mask 128 length)).plain, ip.plain with
      | .v4 low, .v4 own => Ip.agree ((Ip.mask 128 length).extractLsb' 0 32) low own
      | .v6 whole, .v6 own => Ip.agree (Ip.mask 128 length) whole own
      | _, _ => false

def cidrContains (text : String) (ip : Ip.Address) : Bool :=
  match parseAddress (text.toList.takeWhile (· ≠ '/')), Ip.digits (text.toList.dropWhile (· ≠ '/')).tail with
  | some network, some length => decide (length ≤ addressWidth network) && networkContains network length ip
  | _, _ => false

def goNetwork (outside : Network Ip.Address) : Network Ip.Address :=
  { outside with
    parseIP := fun text => parseAddress text.toList
    ipEqual := fun left right => left.plain == right.plain
    cidrContains := cidrContains }

end Net

section Decisions

variable {IP : Type} (network : Network IP) (ip : IP)

def decides (mech : String) : Option SPFResult :=
  if isIPMechanism mech then if matchIP network ip (mechanismRange mech) then some .pass else none
  else if mech = "a" ∨ mech = "+a" then some .neutral
  else if mech = "-all" then some .fail
  else if mech = "~all" then some .softfail
  else if mech = "?all" then some .neutral
  else none

def skipped (record : String) : List String :=
  ((Text.fields isSpace record).drop 1).takeWhile (fun mech => (decides network ip mech).isNone)

end Decisions

section Matching

variable (outside : Network Ip.Address) (dns : Spf.Dns) (ip : Ip.Address) (place : Nat)

end Matching

section Terms

variable (outside : Network Ip.Address) (dns : Spf.Dns) (ip : Ip.Address) (place : Nat)

end Terms

section Verdicts

variable (outside : Network Ip.Address) (dns : Spf.Dns) (ip : Ip.Address)

def earlier (record : String) : Option Spf.Result :=
  ((skipped (goNetwork outside) ip record).mapM Spf.parseTerm).bind (Spf.scan dns ip 0)

end Verdicts

section Sample

def answering (answer : Spf.Answer) : Spf.Dns where
  answer _ _ _ := answer
  redirected _ := .none

end Sample

end Tempmail.Mx
