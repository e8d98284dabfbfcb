import Tempmail.Mx.Validation

set_option autoImplicit false

namespace Tempmail.Mx

variable {IP : Type} (runes : Runes) (network : Network IP)

theorem lists_not_terminal (mech : String) (listed : isIPMechanism mech = true) : ¬ Terminal mech := by
  intro terminal
  simp only [Terminal, List.mem_cons, List.not_mem_nil, or_false] at terminal
  rcases terminal with same | same | same | same | same <;> subst same <;> exact absurd listed (by decide)

-- The scan passes when some mechanism lists the address before the record ends it.
theorem evaluate_pass_iff (ip : IP) (mechanisms : List String) :
    evaluateMechanisms network ip mechanisms = .pass ↔
      ∃ before mech after, mechanisms = before ++ mech :: after ∧ Lists network ip mech ∧
        ∀ earlier ∈ before, ¬ Terminal earlier := by
  induction mechanisms with
  | nil => simp [evaluateMechanisms]
  | cons head rest ih =>
      by_cases here : Lists network ip head
      · have passes : evaluateMechanisms network ip (head :: rest) = .pass := by
          simp only [evaluateMechanisms, if_pos here.1, if_pos here.2]
        exact iff_of_true passes ⟨[], head, rest, rfl, here, by simp⟩
      · have split : (∃ before mech after, head :: rest = before ++ mech :: after ∧ Lists network ip mech ∧
            ∀ earlier ∈ before, ¬ Terminal earlier) ↔
            ¬ Terminal head ∧ ∃ before mech after, rest = before ++ mech :: after ∧ Lists network ip mech ∧
              ∀ earlier ∈ before, ¬ Terminal earlier := by
          constructor
          · rintro ⟨before, mech, after, same, listed, unended⟩
            cases before with
            | nil =>
                rw [List.nil_append, List.cons.injEq] at same
                exact absurd (same.1 ▸ listed) here
            | cons first before =>
                rw [List.cons_append, List.cons.injEq] at same
                obtain ⟨first_eq, rest_eq⟩ := same
                subst first_eq
                exact ⟨unended head (by simp), before, mech, after, rest_eq, listed,
                  fun earlier member => unended earlier (by simp [member])⟩
          · rintro ⟨headUnended, before, mech, after, same, listed, restUnended⟩
            refine ⟨head :: before, mech, after, by rw [same, List.cons_append], listed, ?_⟩
            intro earlier member
            rcases List.mem_cons.mp member with first | later
            · exact first ▸ headUnended
            · exact restUnended earlier later
        rw [split, ← ih]
        by_cases isIP : isIPMechanism head = true
        · have miss : ¬ matchIP network ip (mechanismRange head) = true := fun found => here ⟨isIP, found⟩
          simp [evaluateMechanisms, isIP, miss, lists_not_terminal head isIP]
        · by_cases terminal : Terminal head
          · have ends := terminal
            simp only [Terminal, List.mem_cons, List.not_mem_nil, or_false] at ends
            simp only [evaluateMechanisms, if_neg isIP, terminal, not_true, false_and, iff_false]
            split
            · exact SPFResult.noConfusion
            · split
              · exact SPFResult.noConfusion
              · split
                · exact SPFResult.noConfusion
                · split
                  · exact SPFResult.noConfusion
                  · grind
          · have continues : evaluateMechanisms network ip (head :: rest) = evaluateMechanisms network ip rest := by
              simp only [Terminal, List.mem_cons, List.not_mem_nil, or_false, not_or] at terminal
              simp [evaluateMechanisms, isIP, terminal]
            rw [continues]
            simp [terminal]

theorem validate_spf_pass_iff (clientIP sender : String) :
    validateSPF runes network clientIP sender = .pass ↔
      extractDomain runes sender ≠ "" ∧ SpfAuthorizes network (extractDomain runes sender) clientIP := by
  simp only [validateSPF, SpfAuthorizes]
  by_cases empty : extractDomain runes sender = ""
  · simp [empty]
  · cases parsed : network.parseIP clientIP with
    | none => simp [empty]
    | some ip =>
        cases found : lookupSPFRecord network (extractDomain runes sender) with
        | none => simp [empty]
        | some record => simp [empty, evaluateBasicSPF, evaluate_pass_iff]

theorem policy_at_iff (domain : String) :
    (policyAt network domain).isSome = true ↔
      ∃ record, Text.hasPrefix "v=DMARC1" record = true ∧
        ∃ records, network.lookupTXT ("_dmarc." ++ domain) = some records ∧ record ∈ records := by
  unfold policyAt
  cases answered : network.lookupTXT ("_dmarc." ++ domain) with
  | none => simp
  | some records =>
      simp only [Option.bind_some, List.find?_isSome, Option.some.injEq, exists_eq_left']
      exact ⟨fun ⟨record, member, tagged⟩ => ⟨record, tagged, member⟩, fun ⟨record, tagged, member⟩ => ⟨record, member, tagged⟩⟩

theorem lookup_dmarc_iff (domain : String) :
    (lookupDMARCRecord network domain).isSome = true ↔ HasPolicy network domain := by
  have spread : HasPolicy network domain ↔
      (policyAt network domain).isSome = true ∨
        (getOrganizationalDomain network domain ≠ "" ∧
          (policyAt network (getOrganizationalDomain network domain)).isSome = true) := by
    rw [policy_at_iff, policy_at_iff]
    constructor
    · rintro ⟨record, tagged, owner, owns | ⟨owns, named⟩, published⟩
      · subst owns
        exact Or.inl ⟨record, tagged, published⟩
      · subst owns
        exact Or.inr ⟨named, record, tagged, published⟩
    · rintro (⟨record, tagged, published⟩ | ⟨named, record, tagged, published⟩)
      · exact ⟨record, tagged, domain, Or.inl rfl, published⟩
      · exact ⟨record, tagged, _, Or.inr ⟨rfl, named⟩, published⟩
  rw [spread]
  unfold lookupDMARCRecord
  cases direct : policyAt network domain with
  | some record => simp
  | none =>
      by_cases same : getOrganizationalDomain network domain = domain
      · simp [same, direct]
      · by_cases named : getOrganizationalDomain network domain = "" <;> simp [same, named]

theorem validate_dkim_iff (rawMessage : Bytes) :
    validateDKIM network rawMessage = true ↔ ∃ domain, VerifiedSignature network rawMessage domain := by
  unfold validateDKIM VerifiedSignature
  cases verified : network.verifyDKIM maxDKIMVerifications rawMessage with
  | error reason => simp
  | ok verifications =>
      simp only [List.any_eq_true, Except.ok.injEq, exists_eq_left']
      constructor
      · rintro ⟨⟨domain, valid⟩, member, holds⟩
        dsimp only at holds
        subst holds
        exact ⟨domain, member⟩
      · rintro ⟨domain, member⟩
        exact ⟨⟨domain, true⟩, member, rfl⟩

theorem validate_dmarc_pass_iff (domain : String) (spfResult : SPFResult) (dkimValid : Option Bool) :
    validateDMARC network domain spfResult dkimValid = .pass ↔
      domain ≠ "" ∧ HasPolicy network domain ∧ (spfResult = .pass ∨ dkimValid = some true) := by
  rw [← lookup_dmarc_iff]
  unfold validateDMARC
  by_cases empty : domain = ""
  · simp [empty]
  · cases lookupDMARCRecord network domain with
    | none => simp [empty]
    | some record => by_cases either : spfResult = .pass ∨ dkimValid = some true <;> simp [empty, either]

-- The verdict is about the envelope sender's domain only.
theorem dmarc_pass_iff (validator : Validator) (rawMessage : Bytes) (sender clientIP : String) :
    (validator.validateEmail runes network rawMessage sender clientIP).dmarcResult = .pass ↔
      validator.cfg.validation.checkDMARC = true ∧ extractDomain runes sender ≠ "" ∧
        HasPolicy network (extractDomain runes sender) ∧
        ((validator.cfg.validation.checkSPF = true ∧ SpfAuthorizes network (extractDomain runes sender) clientIP) ∨
          (validator.cfg.validation.checkDKIM = true ∧ ∃ domain, VerifiedSignature network rawMessage domain)) := by
  unfold Validator.validateEmail
  by_cases dmarc : validator.cfg.validation.checkDMARC = true
  · simp only [dmarc, if_true, true_and, validate_dmarc_pass_iff]
    refine and_congr_right fun named => and_congr_right fun _ => or_congr ?_ ?_
    · by_cases spf : validator.cfg.validation.checkSPF = true
      · simp [spf, validate_spf_pass_iff, named]
      · simp [spf]
    · by_cases dkim : validator.cfg.validation.checkDKIM = true
      · simp [dkim, validate_dkim_iff]
      · simp [dkim]
  · simp [dmarc]

-- RFC 7489 soundness, with the From header's domain read by headerFrom.
def Aligned (a b : String) : Prop :=
  a = b ∨ (getOrganizationalDomain network a = getOrganizationalDomain network b ∧ getOrganizationalDomain network a ≠ "")

def DmarcSound (headerFrom : Bytes → String) (validator : Validator) (rawMessage : Bytes) (sender clientIP : String) :
    Prop :=
  let result := validator.validateEmail runes network rawMessage sender clientIP
  result.dmarcResult = .pass →
    HasPolicy network (headerFrom rawMessage) ∧
      ((result.spfResult = .pass ∧ Aligned network (extractDomain runes sender) (headerFrom rawMessage)) ∨
        ∃ domain, VerifiedSignature network rawMessage domain ∧ Aligned network domain (headerFrom rawMessage))

section Spoofing

def spoofNetwork : Network String where
  lookupTXT name :=
    if name = "attacker.test" then some ["v=spf1 ip4:203.0.113.5 -all"]
    else if name = "_dmarc.attacker.test" then some ["v=DMARC1; p=none"]
    else if name = "_dmarc.bank.test" then some ["v=DMARC1; p=reject"]
    else none
  parseIP := some
  ipEqual a b := a == b
  cidrContains _ _ := false
  effectiveTLDPlusOne := some
  verifyDKIM _ _ := .error .noSignatures

def spoofMessage : Bytes := "From: ceo@bank.test\n\nhello".toList.map (fun c => c.toNat.toUInt8)

def bareHeaderFrom (rawMessage : Bytes) : String :=
  let lines := ((rawMessage.map (fun byte => Char.ofNat byte.toNat)).splitOn '\n').map String.ofList
  match (lines.takeWhile (· ≠ "")).find? (Text.hasPrefix "From: ") with
  | none => ""
  | some line => extractDomain asciiRunes (Text.trimPrefix "From: " line)

def checkingValidator : Validator := ⟨{ validation := { checkDKIM := true, checkSPF := true, checkDMARC := true } }⟩

theorem spoofed_header_passes :
    ¬ DmarcSound asciiRunes spoofNetwork bareHeaderFrom checkingValidator spoofMessage "mallory@attacker.test"
      "203.0.113.5" := by
  intro sound
  have header : bareHeaderFrom spoofMessage = "bank.test" := by decide
  have envelope : extractDomain asciiRunes "mallory@attacker.test" = "attacker.test" := by decide
  obtain ⟨-, ⟨-, aligned⟩ | ⟨domain, ⟨verifications, verified, -⟩, -⟩⟩ := sound (by decide)
  · rw [header, envelope] at aligned
    rcases aligned with same | ⟨same, -⟩
    · exact absurd same (by decide)
    · exact absurd same (by decide)
  · exact absurd verified (by simp [spoofNetwork])

end Spoofing

end Tempmail.Mx
