import Tempmail.Mx.Config

set_option autoImplicit false

namespace Tempmail.Mx

inductive SPFResult where
  | pass
  | fail
  | softfail
  | neutral
  | none
deriving DecidableEq, Repr

inductive DMARCResult where
  | pass
  | fail
  | none
deriving DecidableEq, Repr

structure ValidationResult where
  dkimValid : Option Bool := Option.none
  spfResult : SPFResult := .none
  dmarcResult : DMARCResult := .none
deriving DecidableEq, Repr

-- Validator keeps the configuration it was created with.
structure Validator where
  cfg : Config
deriving DecidableEq, Repr

inductive DKIMError where
  | tooManySignatures
  | noSignatures
deriving DecidableEq, Repr

structure Verification where
  domain : String
  valid : Bool
deriving DecidableEq, Repr

-- Everything validation asks the outside for: DNS, the net package's address
-- parsing, the public suffix list and the dkim library.
structure Network (IP : Type) where
  lookupTXT : String → Option (List String)
  parseIP : String → Option IP
  ipEqual : IP → IP → Bool
  cidrContains : String → IP → Bool
  effectiveTLDPlusOne : String → Option String
  verifyDKIM : Nat → Bytes → Except DKIMError (List Verification)

def maxDKIMVerifications : Nat := 3

variable {IP : Type} (runes : Runes) (network : Network IP)

def extractDomain (email : String) : String :=
  match (Text.trim (fun c => c == '<' || c == '>') email).toList.splitOn '@' with
  | [_, host] => runes.lower (String.ofList host)
  | _ => ""

def matchIP (ip : IP) (ipRange : String) : Bool :=
  if '/' ∈ ipRange.toList then network.cidrContains ipRange ip
  else
    match network.parseIP ipRange with
    | none => false
    | some testIP => network.ipEqual testIP ip

def isIPMechanism (mech : String) : Bool := Text.hasPrefix "ip4:" mech || Text.hasPrefix "ip6:" mech

def mechanismRange (mech : String) : String := Text.trimPrefix "ip6:" (Text.trimPrefix "ip4:" mech)

def evaluateMechanisms (ip : IP) : List String → SPFResult
  | [] => .neutral
  | mech :: rest =>
      if isIPMechanism mech then
        if matchIP network ip (mechanismRange mech) then .pass else evaluateMechanisms ip rest
      else if mech = "a" ∨ mech = "+a" then .neutral
      else if mech = "-all" then .fail
      else if mech = "~all" then .softfail
      else if mech = "?all" then .neutral
      else evaluateMechanisms ip rest

-- The record starts with v=spf1, so its first field exists.
def evaluateBasicSPF (ip : IP) (spfRecord : String) : SPFResult :=
  evaluateMechanisms network ip ((Text.fields isSpace spfRecord).drop 1)

def lookupSPFRecord (domain : String) : Option String :=
  (network.lookupTXT domain).bind (List.find? (Text.hasPrefix "v=spf1"))

def validateSPF (clientIP sender : String) : SPFResult :=
  let domain := extractDomain runes sender
  if domain = "" then .none
  else
    match network.parseIP clientIP with
    | none => .none
    | some ip =>
        match lookupSPFRecord network domain with
        | none => .none
        | some spfRecord => evaluateBasicSPF network ip spfRecord

def validateDKIM (rawMessage : Bytes) : Bool :=
  match network.verifyDKIM maxDKIMVerifications rawMessage with
  | .error _ => false
  | .ok verifications => verifications.any Verification.valid

def getOrganizationalDomain (domain : String) : String :=
  if domain = "" then "" else (network.effectiveTLDPlusOne domain).getD ""

def policyAt (domain : String) : Option String :=
  (network.lookupTXT ("_dmarc." ++ domain)).bind (List.find? (Text.hasPrefix "v=DMARC1"))

def lookupDMARCRecord (domain : String) : Option String :=
  match policyAt network domain with
  | some record => some record
  | none =>
      let orgDomain := getOrganizationalDomain network domain
      if orgDomain ≠ "" ∧ orgDomain ≠ domain then policyAt network orgDomain else none

def validateDMARC (domain : String) (spfResult : SPFResult) (dkimValid : Option Bool) : DMARCResult :=
  if domain = "" then .none
  else
    match lookupDMARCRecord network domain with
    | none => .none
    | some _ => if spfResult = .pass ∨ dkimValid = some true then .pass else .fail

-- heloName is passed on to validateSPF, which does not read it.
def Validator.validateEmail (validator : Validator) (rawMessage : Bytes) (sender clientIP : String) : ValidationResult :=
  let checks := validator.cfg.validation
  let dkimValid := if checks.checkDKIM then some (validateDKIM network rawMessage) else none
  let spfResult := if checks.checkSPF then validateSPF runes network clientIP sender else .none
  let dmarcResult :=
    if checks.checkDMARC then validateDMARC network (extractDomain runes sender) spfResult dkimValid else .none
  { dkimValid, spfResult, dmarcResult }

def HasPolicy (domain : String) : Prop :=
  ∃ record, Text.hasPrefix "v=DMARC1" record = true ∧
    ∃ owner, (owner = domain ∨ owner = getOrganizationalDomain network domain ∧ owner ≠ "") ∧
      ∃ records, network.lookupTXT ("_dmarc." ++ owner) = some records ∧ record ∈ records

def Terminal (mech : String) : Prop := mech ∈ ["a", "+a", "-all", "~all", "?all"]

def Lists (ip : IP) (mech : String) : Prop :=
  isIPMechanism mech = true ∧ matchIP network ip (mechanismRange mech) = true

def SpfAuthorizes (domain : String) (clientIP : String) : Prop :=
  ∃ ip record, network.parseIP clientIP = some ip ∧ lookupSPFRecord network domain = some record ∧
    ∃ before mech after, (Text.fields isSpace record).drop 1 = before ++ mech :: after ∧
      Lists network ip mech ∧ ∀ earlier ∈ before, ¬ Terminal earlier

def VerifiedSignature (rawMessage : Bytes) (domain : String) : Prop :=
  ∃ verifications, network.verifyDKIM maxDKIMVerifications rawMessage = .ok verifications ∧
    ⟨domain, true⟩ ∈ verifications

end Tempmail.Mx
