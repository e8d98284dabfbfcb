import Tempmail.Api.RateLimit
import Tempmail.Lib.Machine

set_option autoImplicit false

namespace Tempmail.Api

def adminNotConfigured : HTTPException := ⟨503, "Admin token not configured (set admin.token in config.yaml)", []⟩
def unauthorized : HTTPException := ⟨401, "Unauthorized", []⟩

def bearerToken (authorization : Option String) : Option String :=
  match authorization with
  | none => none
  | some header =>
      if Text.hasPrefix "Bearer " header then some (String.ofList (header.toList.drop "Bearer ".length)) else none

def requireAdmin (deployment : Deployment) (authorization : Option String) : Except HTTPException Unit :=
  if deployment.adminToken = "" then .error adminNotConfigured
  else
    match bearerToken authorization with
    | none => .error unauthorized
    | some token => if token = deployment.adminToken then .ok () else .error unauthorized

abbrev Dependency := Limiter → Instant → Request → Except HTTPException Unit × Limiter

-- Router dependencies run in list order; the first that raises ends the request.
def runDependencies : List Dependency → Dependency
  | [] => fun limiter _ _ => (.ok (), limiter)
  | first :: rest => fun limiter now request =>
      match first limiter now request with
      | (.ok (), next) => runDependencies rest next now request
      | (.error refusal, next) => (.error refusal, next)

def adminRouter (deployment : Deployment) : List Dependency :=
  [fun limiter _ request => (requireAdmin deployment request.authorization, limiter), ipRateLimit deployment .admin]

-- A request that reaches a rate limited surface; the other scopes share the
-- limiter's table.
structure Visit where
  now : Instant
  scope : Scope
  request : Request
deriving DecidableEq, Repr

def dependencies (deployment : Deployment) : Scope → List Dependency
  | .admin => adminRouter deployment
  | scope => [ipRateLimit deployment scope]

def api (deployment : Deployment) : Machine Limiter Visit (Except HTTPException Unit) where
  step limiter visit :=
    let result := runDependencies (dependencies deployment visit.scope) limiter visit.now visit.request
    (result.2, result.1)

abbrev Moment := Machine.Moment Limiter Visit (Except HTTPException Unit)

def Visit.toAdmin (visit : Visit) (ip : String) : Bool := visit.scope == .admin && getClientIp visit.request == ip

def answered : Except HTTPException Unit → Bool
  | .ok _ => true
  | .error refusal => refusal == unauthorized

def isOk : Except HTTPException Unit → Bool
  | .ok _ => true
  | .error _ => false

def compared (ip : String) (moments : List Moment) : List Instant :=
  (moments.filter (fun moment =>
    moment.event.toAdmin ip && (bearerToken moment.event.request.authorization).isSome && answered moment.answer)).map
      (fun moment => moment.event.now)

-- Two readings of "at most limit per 60 seconds": no window holds more, and a
-- request that finds limit of them in the window before it is answered 429.
structure Throttled (limit : Nat) (ip : String) (moments : List Moment) : Prop where
  windows : ∀ last, ((SlidingWindow.live monotonic 60 last (compared ip moments)).filter
    (fun instant => decide (instant ≤ last))).length ≤ limit
  refused : ∀ earlier moment later, moments = earlier ++ moment :: later → moment.event.toAdmin ip = true →
    limit ≤ (SlidingWindow.live monotonic 60 moment.event.now (compared ip earlier)).length →
    moment.answer = .error (tooManyRequests 60)

def isGuess (deployment : Deployment) (ip : String) (visit : Visit) : Bool :=
  visit.toAdmin ip && (bearerToken visit.request.authorization).any (· ≠ deployment.adminToken)

def guesses (deployment : Deployment) (ip : String) (visits : List Visit) : List Instant :=
  (visits.filter (isGuess deployment ip)).map Visit.now

def Limiter.spent (limiter : Limiter) (ip : String) (now : Instant) : Nat :=
  (SlidingWindow.prune monotonic 60 now (limiter.queue (Scope.admin.key ip))).length

-- The wrong tokens of the last minute, which cost nothing, fit under the limit
-- beside the admitted requests; or the token is right and the budget is spent.
def GuessesFit (deployment : Deployment) (limit : Nat) (ip : String) (before : List Visit) (limiter : Limiter)
    (visit : Visit) : Prop :=
  deployment.adminToken ≠ "" → visit.toAdmin ip = true →
    (SlidingWindow.live monotonic 60 visit.now (guesses deployment ip before)).length + limiter.spent ip visit.now < limit ∨
      (bearerToken visit.request.authorization = some deployment.adminToken ∧ limit ≤ limiter.spent ip visit.now)

section Admin

variable (deployment : Deployment)

def admitted (ip : String) (moments : List Moment) : List Instant :=
  (moments.filter (fun moment => moment.event.toAdmin ip && isOk moment.answer)).map (fun moment => moment.event.now)

theorem admin_refused (limiter : Limiter) (visit : Visit) (refusal : HTTPException) (scope : visit.scope = .admin)
    (refused : requireAdmin deployment visit.request.authorization = .error refusal) :
    (api deployment).step limiter visit = (limiter, .error refusal) := by
  simp only [api, scope, dependencies, adminRouter, runDependencies, refused]

theorem admin_passed (limiter : Limiter) (visit : Visit) (scope : visit.scope = .admin)
    (passed : requireAdmin deployment visit.request.authorization = .ok ()) :
    (api deployment).step limiter visit =
      ((ipRateLimit deployment .admin limiter visit.now visit.request).2,
        (ipRateLimit deployment .admin limiter visit.now visit.request).1) := by
  simp only [api, scope, dependencies, adminRouter, runDependencies, passed]
  cases limited : ipRateLimit deployment .admin limiter visit.now visit.request with
  | mk answer next => cases answer <;> rfl

theorem other_passed (limiter : Limiter) (visit : Visit) (scope : visit.scope ≠ .admin) :
    (api deployment).step limiter visit =
      ((ipRateLimit deployment visit.scope limiter visit.now visit.request).2,
        (ipRateLimit deployment visit.scope limiter visit.now visit.request).1) := by
  have single : dependencies deployment visit.scope = [ipRateLimit deployment visit.scope] := by
    cases kind : visit.scope with
    | admin => exact absurd kind scope
    | _ => rfl
  simp only [api, single, runDependencies]
  cases limited : ipRateLimit deployment visit.scope limiter visit.now visit.request with
  | mk answer next => cases answer <;> rfl

theorem require_admin_ok_iff (authorization : Option String) :
    requireAdmin deployment authorization = .ok () ↔
      deployment.adminToken ≠ "" ∧ bearerToken authorization = some deployment.adminToken := by
  unfold requireAdmin
  split
  · simp [*]
  · rename_i configured
    cases bearerToken authorization with
    | none => simp
    | some token => by_cases same : token = deployment.adminToken <;> simp [same, configured]

theorem require_admin_refusal (authorization : Option String) (configured : deployment.adminToken ≠ "")
    (wrong : bearerToken authorization ≠ some deployment.adminToken) :
    requireAdmin deployment authorization = .error unauthorized := by
  rw [requireAdmin, if_neg configured]
  cases presented : bearerToken authorization with
  | none => rfl
  | some token =>
      have different : token ≠ deployment.adminToken := fun same => wrong (by rw [presented, same])
      exact if_neg different

theorem rate_limit_admin (limiter : Limiter) (now : Instant) (request : Request) (testing : deployment.testing = false)
    (limit : Nat) (positive : 0 < limit) (configured : deployment.rateLimit .admin = some (limit : Int)) :
    ipRateLimit deployment .admin limiter now request =
      let outcome := isAllowed limiter now (Scope.admin.key (getClientIp request)) limit 60
      (if outcome.1 then .ok () else .error (tooManyRequests 60), outcome.2) := by
  have active : ¬ (limit : Int) ≤ 0 := by omega
  simp only [ipRateLimit, testing, Bool.false_eq_true, if_false, configured, Option.getD_some, if_neg active]
  cases outcome : isAllowed limiter now (Scope.admin.key (getClientIp request)) limit 60 with
  | mk allowed next => cases allowed <;> rfl

theorem rate_limit_answer (scope : Scope) (limiter : Limiter) (now : Instant) (request : Request) :
    (ipRateLimit deployment scope limiter now request).1 = .ok () ∨
      (ipRateLimit deployment scope limiter now request).1 = .error (tooManyRequests 60) := by
  unfold ipRateLimit
  split
  · exact Or.inl rfl
  · dsimp only
    split
    · exact Or.inl rfl
    · split
      · exact Or.inl rfl
      · exact Or.inr rfl

theorem rate_limit_cases (scope : Scope) (limiter : Limiter) (now : Instant) (request : Request) :
    (ipRateLimit deployment scope limiter now request).2 = limiter ∨
      ∃ limit, (ipRateLimit deployment scope limiter now request).2 =
        (isAllowed limiter now (scope.key (getClientIp request)) limit 60).2 := by
  unfold ipRateLimit
  split
  · exact Or.inl rfl
  · dsimp only
    split
    · exact Or.inl rfl
    · refine Or.inr ⟨(deployment.rateLimit scope).getD scope.limit, ?_⟩
      split <;> rename_i outcome <;> rw [outcome]

theorem to_admin_iff (visit : Visit) (ip : String) :
    visit.toAdmin ip = true ↔ visit.scope = .admin ∧ getClientIp visit.request = ip := by
  simp [Visit.toAdmin]

-- One visit, seen from the admin budget of one address.
theorem visit_remembers (ip : String) (limiter : Limiter) (visit : Visit) (log : List Instant)
    (testing : deployment.testing = false) (limit : Nat) (positive : 0 < limit)
    (configured : deployment.rateLimit .admin = some (limit : Int))
    (sorted : log.Pairwise (· ≤ ·)) (past : ∀ instant ∈ log, instant ≤ visit.now)
    (known : SlidingWindow.Remembers monotonic 60 visit.now log (limiter.queue (Scope.admin.key ip))) :
    SlidingWindow.Remembers monotonic 60 visit.now
      (if visit.toAdmin ip = true ∧ isOk ((api deployment).step limiter visit).2 = true then log ++ [visit.now] else log)
      (((api deployment).step limiter visit).1.queue (Scope.admin.key ip)) := by
  by_cases scope : visit.scope = .admin
  · cases checked : requireAdmin deployment visit.request.authorization with
    | error refusal =>
        rw [admin_refused deployment limiter visit refusal scope checked]
        simpa [isOk] using known
    | ok passed =>
        have moved := is_allowed_remembers 60 60 (by decide) limiter visit.now
          (Scope.admin.key (getClientIp visit.request)) (Scope.admin.key ip) (fun _ => rfl) limit log sorted past known
        rw [admin_passed deployment limiter visit scope checked,
          rate_limit_admin deployment limiter visit.now visit.request testing limit positive configured]
        have sameKey : Scope.admin.key (getClientIp visit.request) = Scope.admin.key ip ↔ visit.toAdmin ip = true := by
          rw [to_admin_iff]
          exact ⟨fun same => ⟨scope, (key_injective _ _ _ _ same).2⟩, fun same => by rw [same.2]⟩
        have sameAnswer : ∀ allowed : Bool,
            isOk (if allowed = true then .ok () else .error (tooManyRequests 60)) = true ↔ allowed = true := by
          intro allowed
          cases allowed <;> simp [isOk]
        simp only [sameAnswer]
        simpa only [sameKey, Int.cast_ofNat] using moved
  · have elsewhere : ¬ (visit.toAdmin ip = true ∧ isOk ((api deployment).step limiter visit).2 = true) :=
      fun both => scope ((to_admin_iff visit ip).mp both.1).1
    rw [if_neg elsewhere, other_passed deployment limiter visit scope]
    dsimp only
    rcases rate_limit_cases deployment visit.scope limiter visit.now visit.request with same | ⟨other, moved⟩
    · rw [same]
      exact known
    · have apart : visit.scope.key (getClientIp visit.request) ≠ Scope.admin.key ip :=
        fun same => scope (key_injective _ _ _ _ same).1
      have kept := is_allowed_remembers 60 60 (by decide) limiter visit.now
        (visit.scope.key (getClientIp visit.request)) (Scope.admin.key ip) (fun _ => rfl) other log sorted past known
      rw [if_neg (fun both => apart both.1), Int.cast_ofNat] at kept
      rw [moved]
      exact kept

def start : Limiter := ⟨∅, 0⟩

-- Over a whole run the queue of an address knows every admitted request that
-- can still count.
theorem run_remembers (ip : String) (visits : List Visit) (testing : deployment.testing = false) (limit : Nat)
    (positive : 0 < limit) (configured : deployment.rateLimit .admin = some (limit : Int))
    (sorted : (visits.map Visit.now).Pairwise (· ≤ ·)) (now : Instant) (past : ∀ visit ∈ visits, visit.now ≤ now) :
    SlidingWindow.Remembers monotonic 60 now (admitted ip ((api deployment).trace start visits))
      (((api deployment).final start visits).queue (Scope.admin.key ip)) := by
  induction visits using List.reverseRecOn generalizing now with
  | nil => exact ⟨[], rfl, by simp⟩
  | append_singleton earlier visit ih =>
      have sublist : (admitted ip ((api deployment).trace start earlier)).Sublist (earlier.map Visit.now) :=
        Machine.trace_sublist (api deployment) Visit.now _ start earlier
      rw [List.map_append, List.pairwise_append] at sorted
      obtain ⟨earlierSorted, -, across⟩ := sorted
      have before : ∀ other ∈ earlier, other.now ≤ visit.now :=
        fun other member => across other.now (List.mem_map_of_mem member) visit.now (by simp)
      have logPast : ∀ instant ∈ admitted ip ((api deployment).trace start earlier), instant ≤ visit.now := by
        intro instant member
        obtain ⟨other, known, same⟩ := List.mem_map.mp (sublist.subset member)
        exact same ▸ before other known
      have moved := visit_remembers deployment ip ((api deployment).final start earlier) visit _ testing limit positive
        configured (earlierSorted.sublist sublist) logPast (ih earlierSorted visit.now before)
      have grown : admitted ip ((api deployment).trace start (earlier ++ [visit])) =
          if visit.toAdmin ip = true ∧
              isOk ((api deployment).step ((api deployment).final start earlier) visit).2 = true then
            admitted ip ((api deployment).trace start earlier) ++ [visit.now]
          else admitted ip ((api deployment).trace start earlier) := by
        rw [Machine.trace_append]
        by_cases counted : visit.toAdmin ip = true ∧
            isOk ((api deployment).step ((api deployment).final start earlier) visit).2 = true
        · simp [admitted, Machine.trace, counted]
        · have skipped : (visit.toAdmin ip &&
              isOk ((api deployment).step ((api deployment).final start earlier) visit).2) = false := by
            simpa using counted
          simp [admitted, Machine.trace, skipped, counted]
      rw [grown, Machine.final_append]
      exact SlidingWindow.remembers_later monotonic 60 visit.now now _ _ (past visit (by simp)) moved

-- A compared token is a guess or an admission, never both.
theorem compared_two_kinds (configured : deployment.adminToken ≠ "") (ip : String) (visits : List Visit) (now : Instant) :
    (SlidingWindow.live monotonic 60 now (compared ip ((api deployment).trace start visits))).length =
      (SlidingWindow.live monotonic 60 now (guesses deployment ip visits)).length +
        (SlidingWindow.live monotonic 60 now (admitted ip ((api deployment).trace start visits))).length := by
  have events : guesses deployment ip visits =
      (((api deployment).trace start visits).filter (fun moment => isGuess deployment ip moment.event)).map
        (fun moment => moment.event.now) := by
    rw [guesses, ← Machine.trace_events (api deployment) start visits, List.filter_map, List.map_map,
      Machine.trace_events]
    rfl
  rw [events]
  apply SlidingWindow.live_two_kinds
  intro moment member
  have answer := Machine.trace_answer (api deployment) start visits moment member
  by_cases toAdmin : moment.event.toAdmin ip = true
  · have scope := ((to_admin_iff moment.event ip).mp toAdmin).1
    by_cases right : bearerToken moment.event.request.authorization = some deployment.adminToken
    · have passed := (require_admin_ok_iff deployment moment.event.request.authorization).mpr ⟨configured, right⟩
      have answers : answered moment.answer = isOk moment.answer := by
        rw [answer, admin_passed deployment moment.before moment.event scope passed]
        dsimp only
        rcases rate_limit_answer deployment .admin moment.before moment.event.now moment.event.request with ok | limited
        · rw [ok]
          rfl
        · rw [limited]
          rfl
      simp [isGuess, toAdmin, right, answers]
    · have refused := require_admin_refusal deployment moment.event.request.authorization configured right
      rw [admin_refused deployment moment.before moment.event unauthorized scope refused] at answer
      cases presented : bearerToken moment.event.request.authorization with
      | none => simp [isGuess, presented, answer, isOk]
      | some token =>
          have different : token ≠ deployment.adminToken := fun same => right (by rw [presented, same])
          simp [isGuess, toAdmin, presented, different, answer, answered, isOk]
  · simp [isGuess, toAdmin]

theorem admin_answer_iff (limiter : Limiter) (visit : Visit) (ip : String) (toAdmin : visit.toAdmin ip = true)
    (token : deployment.adminToken ≠ "") (testing : deployment.testing = false) (limit : Nat) (positive : 0 < limit)
    (configured : deployment.rateLimit .admin = some (limit : Int)) :
    ((api deployment).step limiter visit).2 = .error (tooManyRequests 60) ↔
      bearerToken visit.request.authorization = some deployment.adminToken ∧ limit ≤ limiter.spent ip visit.now := by
  obtain ⟨scope, address⟩ := (to_admin_iff visit ip).mp toAdmin
  have different : unauthorized ≠ tooManyRequests 60 := by decide
  by_cases right : bearerToken visit.request.authorization = some deployment.adminToken
  · have passed := (require_admin_ok_iff deployment visit.request.authorization).mpr ⟨token, right⟩
    have counted := is_allowed_iff limiter visit.now (Scope.admin.key ip) limit 60
    rw [Int.cast_ofNat] at counted
    rw [admin_passed deployment limiter visit scope passed,
      rate_limit_admin deployment limiter visit.now visit.request testing limit positive configured, address]
    simp only [right, true_and, Limiter.spent]
    cases outcome : (isAllowed limiter visit.now (Scope.admin.key ip) limit 60).1 with
    | true =>
        have room := counted.mp outcome
        simp only [if_true, reduceCtorEq, false_iff]
        omega
    | false =>
        have full : ¬ _ := mt counted.mpr (by simp [outcome])
        simp only [Bool.false_eq_true, if_false, true_iff]
        omega
  · have refused := require_admin_refusal deployment visit.request.authorization token right
    rw [admin_refused deployment limiter visit unauthorized scope refused]
    simp [right, different]

theorem refused_throttled (limit : Nat) (ip : String) (visits : List Visit)
    (sorted : (visits.map Visit.now).Pairwise (· ≤ ·))
    (refused : ∀ earlier moment later, (api deployment).trace start visits = earlier ++ moment :: later →
      moment.event.toAdmin ip = true →
      limit ≤ (SlidingWindow.live monotonic 60 moment.event.now (compared ip earlier)).length →
      moment.answer = .error (tooManyRequests 60)) :
    Throttled limit ip ((api deployment).trace start visits) := by
  refine ⟨?_, refused⟩
  apply SlidingWindow.paced_window
  · exact sorted.sublist (Machine.trace_sublist (api deployment) Visit.now _ start visits)
  · intro earlierLog instant laterLog split
    obtain ⟨earlier, moment, later, moments, chosen, now, log⟩ := SlidingWindow.logged_split _ _ _ _ _ _ split
    simp only [Bool.and_eq_true] at chosen
    rw [← now, ← log]
    by_contra many
    have limited := refused earlier moment later moments chosen.1.1 (not_lt.mp many)
    rw [limited] at chosen
    exact absurd chosen.2 (by decide)

theorem compared_unconfigured (token : deployment.adminToken = "") (ip : String) (visits : List Visit) :
    compared ip ((api deployment).trace start visits) = [] := by
  rw [compared, List.map_eq_nil_iff, List.filter_eq_nil_iff]
  intro moment member
  have answer := Machine.trace_answer (api deployment) start visits moment member
  by_cases toAdmin : moment.event.toAdmin ip = true
  · have refused : requireAdmin deployment moment.event.request.authorization = .error adminNotConfigured := if_pos token
    rw [admin_refused deployment moment.before moment.event _ ((to_admin_iff _ _).mp toAdmin).1 refused] at answer
    have other : answered moment.answer = false := by
      rw [answer]
      rfl
    simp [other]
  · simp [toAdmin]

-- For one address, over every run that starts with an empty table.
theorem admin_guesses_throttled_iff (limit : Nat) (positive : 0 < limit) (testing : deployment.testing = false)
    (configured : deployment.rateLimit .admin = some (limit : Int)) (ip : String) (visits : List Visit)
    (sorted : (visits.map Visit.now).Pairwise (· ≤ ·)) :
    Throttled limit ip ((api deployment).trace start visits) ↔
      ∀ before visit after, visits = before ++ visit :: after →
        GuessesFit deployment limit ip before ((api deployment).final start before) visit := by
  have readings : Throttled limit ip ((api deployment).trace start visits) ↔ _ :=
    ⟨Throttled.refused, refused_throttled deployment limit ip visits sorted⟩
  rw [readings]
  have history := Machine.trace_history_iff (api deployment) start visits (fun earlier moment =>
    moment.event.toAdmin ip = true →
      limit ≤ (SlidingWindow.live monotonic 60 moment.event.now (compared ip earlier)).length →
      moment.answer = .error (tooManyRequests 60))
  rw [history]
  refine forall_congr' fun before => forall_congr' fun visit => forall_congr' fun after => forall_congr' fun split => ?_
  by_cases token : deployment.adminToken = ""
  · simp only [GuessesFit, token, ne_eq, not_true_eq_false, IsEmpty.forall_iff, iff_true]
    rw [compared_unconfigured deployment token ip before]
    intro _ full
    exact absurd full (by simpa [SlidingWindow.live] using positive.ne')
  · rw [split, List.map_append, List.pairwise_append] at sorted
    obtain ⟨beforeSorted, -, across⟩ := sorted
    have past : ∀ other ∈ before, other.now ≤ visit.now :=
      fun other member => across other.now (List.mem_map_of_mem member) visit.now (by simp)
    have known := run_remembers deployment ip before testing limit positive configured beforeSorted visit.now past
    have spent : ((api deployment).final start before).spent ip visit.now =
        (SlidingWindow.live monotonic 60 visit.now (admitted ip ((api deployment).trace start before))).length := by
      rw [Limiter.spent, SlidingWindow.remembers_prune monotonic 60 visit.now _ _
        (beforeSorted.sublist (Machine.trace_sublist (api deployment) Visit.now _ start before)) known]
      rfl
    dsimp only
    rw [compared_two_kinds deployment token ip before visit.now, ← spent, GuessesFit]
    rw [forall_prop_of_true token]
    refine forall_congr' fun toAdmin => ?_
    rw [admin_answer_iff deployment _ visit ip toAdmin token testing limit positive configured]
    constructor
    · intro refused
      by_cases room : (SlidingWindow.live monotonic 60 visit.now (guesses deployment ip before)).length +
          ((api deployment).final start before).spent ip visit.now < limit
      · exact Or.inl room
      · exact Or.inr (refused (not_lt.mp room))
    · rintro (room | full) many
      · exact absurd many (not_le.mpr room)
      · exact full

end Admin

def sampleDeployment (limit : Nat) : Deployment := ⟨false, "s3cret", fun _ => some limit⟩

def visitWith (now : Instant) (authorization : String) : Visit :=
  ⟨now, .admin, ⟨some "198.51.100.7", none, some authorization⟩⟩

def mixedVisits : List Visit :=
  [visitWith 0 "Bearer guess", visitWith 1 "Bearer s3cret", visitWith 60 "Bearer s3cret", visitWith 60 "Bearer s3cret"]

theorem mixed_visits_throttled :
    ((api (sampleDeployment 2)).trace start mixedVisits).map (fun moment => moment.answer) =
      [.error unauthorized, .ok (), .ok (), .error (tooManyRequests 60)] ∧
    Throttled 2 "198.51.100.7" ((api (sampleDeployment 2)).trace start mixedVisits) := by
  refine ⟨by decide +kernel, (admin_guesses_throttled_iff (sampleDeployment 2) 2 (by decide) rfl rfl "198.51.100.7" mixedVisits
    (by decide +kernel)).mpr ?_⟩
  intro before visit after split
  rcases before with _ | ⟨guess, _ | ⟨login, _ | ⟨second, _ | ⟨third, rest⟩⟩⟩⟩
  · cases split
    exact fun _ _ => Or.inl (by decide +kernel)
  · cases split
    exact fun _ _ => Or.inl (by decide +kernel)
  · cases split
    exact fun _ _ => Or.inl (by decide +kernel)
  · cases split
    exact fun _ _ => Or.inr (by decide +kernel)
  · simp [mixedVisits] at split

-- With a limit of one per minute, two wrong tokens in the same second are both compared.
theorem second_guess_compared :
    ¬ Throttled 1 "198.51.100.7" ((api (sampleDeployment 1)).trace start
      [visitWith 0 "Bearer guess1", visitWith 1 "Bearer guess2"]) := by
  intro throttled
  exact absurd (throttled.windows 1) (by decide +kernel)

end Tempmail.Api
