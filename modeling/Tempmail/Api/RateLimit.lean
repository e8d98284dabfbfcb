import Tempmail.Lib.Rounding
import Tempmail.Lib.SlidingWindow
import Tempmail.Lib.Table
import Tempmail.Lib.Text

set_option autoImplicit false

namespace Tempmail.Api

-- What time.monotonic() reads, in seconds. It is a double, and so is the difference
-- of two of them: the exact one rounded to 53 binary digits.
abbrev Instant := Rat

def elapsed (now instant : Instant) : Rat := Rounding.round 52 (now - instant)

def monotonic : SlidingWindow.Clock Instant Rat where
  age := elapsed
  later instant _ _ order := Rounding.round_mono 52 (sub_le_sub_right order instant)
  earlier now _ _ order := Rounding.round_mono 52 (sub_le_sub_left order now)

structure HTTPException where
  statusCode : Nat
  detail : String
  headers : List (String × String) := []
deriving DecidableEq, Repr

structure Request where
  xForwardedFor : Option String
  clientHost : Option String
  authorization : Option String
deriving DecidableEq, Repr

structure Limiter where
  windows : Table String (List Instant)
  lastSweep : Instant

def Limiter.queue (limiter : Limiter) (key : String) : List Instant := (limiter.windows.lookup key).getD []

def stale (now : Instant) (queue : List Instant) : Bool :=
  match queue.getLast? with
  | none => true
  | some newest => elapsed now newest ≥ 3600

def sweepLocked (limiter : Limiter) (now : Instant) : Limiter :=
  if elapsed now limiter.lastSweep < 60 then limiter
  else if limiter.windows.size < 512 then ⟨limiter.windows, now⟩
  else ⟨limiter.windows.keep (fun _ queue => !stale now queue), now⟩

def isAllowed (limiter : Limiter) (now : Instant) (key : String) (limit windowSeconds : Int) : Bool × Limiter :=
  let queue := SlidingWindow.prune monotonic windowSeconds now (limiter.queue key)
  if (queue.length : Int) ≥ limit then (false, ⟨limiter.windows.insert key queue, limiter.lastSweep⟩)
  else (true, sweepLocked ⟨limiter.windows.insert key (queue ++ [now]), limiter.lastSweep⟩ now)

def isBlank (c : Char) : Bool :=
  (0x09 ≤ c.toNat && c.toNat ≤ 0x0d) || (0x1c ≤ c.toNat && c.toNat ≤ 0x20) || c.toNat == 0x85 || c.toNat == 0xa0 ||
    c.toNat == 0x1680 || (0x2000 ≤ c.toNat && c.toNat ≤ 0x200a) || c.toNat == 0x2028 || c.toNat == 0x2029 ||
    c.toNat == 0x202f || c.toNat == 0x205f || c.toNat == 0x3000

def strip (text : String) : String := Text.trim isBlank text

def getClientIp (request : Request) : String :=
  let peer := match request.clientHost with
    | some host => if host = "" then "unknown" else host
    | none => "unknown"
  match request.xForwardedFor with
  | some xff => if xff = "" then peer else strip (String.ofList (xff.toList.takeWhile (· ≠ ',')))
  | none => peer

-- The six dependencies built by ip_rate_limit, all with a window of 60 seconds.
inductive Scope where
  | admin
  | emails
  | createAddress
  | permanentCreate
  | permanentCreateApi
  | setup
deriving DecidableEq, Repr

def Scope.name : Scope → String
  | .admin => "admin"
  | .emails => "emails"
  | .createAddress => "create_address"
  | .permanentCreate => "permanent_create"
  | .permanentCreateApi => "permanent_create_api"
  | .setup => "setup"

def Scope.limit : Scope → Int
  | .admin => 120
  | .emails => 300
  | .createAddress => 50
  | .permanentCreate => 20
  | .permanentCreateApi => 0
  | .setup => 5

def Scope.key (scope : Scope) (ip : String) : String := scope.name ++ ":" ++ ip

-- int(settings.RL_...) for each scope, none where int raises.
structure Deployment where
  testing : Bool
  adminToken : String
  rateLimit : Scope → Option Int

def tooManyRequests (windowSeconds : Int) : HTTPException :=
  ⟨429, "Too many requests", [("Retry-After", toString windowSeconds)]⟩

def ipRateLimit (deployment : Deployment) (scope : Scope) (limiter : Limiter) (now : Instant) (request : Request) :
    Except HTTPException Unit × Limiter :=
  if deployment.testing then (.ok (), limiter)
  else
    let effective := (deployment.rateLimit scope).getD scope.limit
    if effective ≤ 0 then (.ok (), limiter)
    else
      match isAllowed limiter now (scope.key (getClientIp request)) effective 60 with
      | (true, next) => (.ok (), next)
      | (false, next) => (.error (tooManyRequests 60), next)

theorem key_injective (a b : Scope) (x y : String) (same : a.key x = b.key y) : a = b ∧ x = y := by
  have plain : ∀ scope : Scope, ∀ c ∈ scope.name.toList, decide (c ≠ ':') = true := by
    intro scope
    apply List.all_eq_true.mp
    cases scope <;> rfl
  have head : ∀ (scope : Scope) (ip : String),
      (scope.key ip).toList.takeWhile (fun c => decide (c ≠ ':')) = scope.name.toList := by
    intro scope ip
    rw [Scope.key, String.append_assoc, String.toList_append, List.takeWhile_append_of_pos (plain scope),
      String.toList_append]
    simp
  have names : a.name = b.name := Text.chars_ext _ _ (by rw [← head a x, ← head b y, same])
  have scopes : a = b := by
    cases a <;> cases b <;> first | rfl | exact absurd names (by decide)
  subst scopes
  refine ⟨rfl, Text.chars_ext _ _ ?_⟩
  have chars := congrArg String.toList same
  simpa [Scope.key] using chars

theorem elapsed_window (now instant : Instant) (past : instant ≤ now) (windowSeconds : Int) (short : windowSeconds ≤ 3600) :
    (elapsed now instant < windowSeconds → now - instant < windowSeconds) ∧
      (now - instant < windowSeconds → elapsed now instant ≤ windowSeconds) := by
  have forward : 0 ≤ now - instant := sub_nonneg.mpr past
  rcases lt_or_ge windowSeconds 0 with negative | nonneg
  · have below : (windowSeconds : Rat) < 0 := Int.cast_lt_zero.mpr negative
    constructor
    · intro young
      exact absurd (young.trans below) (not_lt.mpr (Rounding.round_nonneg 52 _ forward))
    · intro young
      exact absurd (young.trans below) (not_lt.mpr forward)
  · obtain ⟨count, rfl⟩ := Int.eq_ofNat_of_zero_le nonneg
    have kept : Rounding.round 52 (((count : Int) : Rat)) = ((count : Int) : Rat) := by
      rw [Int.cast_natCast]
      exact Rounding.round_nat 52 count (by omega)
    constructor
    · intro young
      by_contra old
      have reached := Rounding.round_mono 52 (not_lt.mp old)
      rw [kept] at reached
      exact absurd young (not_lt.mpr reached)
    · intro young
      have reached := Rounding.round_mono 52 young.le
      rwa [kept] at reached

theorem stale_expired (windowSeconds : Int) (short : windowSeconds ≤ 3600) (now : Instant) (queue : List Instant)
    (sorted : queue.Pairwise (· ≤ ·)) (old : stale now queue = true) :
    ∀ instant ∈ queue, windowSeconds ≤ elapsed now instant := by
  intro instant member
  cases newest : queue.getLast? with
  | none =>
      rw [List.getLast?_eq_none_iff.mp newest] at member
      cases member
  | some last =>
      simp only [stale, newest, ge_iff_le, decide_eq_true_eq] at old
      obtain ⟨front, split⟩ := List.getLast?_eq_some_iff.mp newest
      have before : instant ≤ last := by
        rw [split] at member sorted
        rcases List.mem_append.mp member with earlier | here
        · exact (List.pairwise_append.mp sorted).2.2 instant earlier last (by simp)
        · rw [List.mem_singleton.mp here]
      calc (windowSeconds : Rat) ≤ 3600 := mod_cast short
        _ ≤ elapsed now last := old
        _ ≤ elapsed now instant := monotonic.earlier now instant last before

theorem sweep_remembers (windowSeconds : Int) (short : windowSeconds ≤ 3600) (limiter : Limiter) (now : Instant) (key : String)
    (log : List Instant) (sorted : log.Pairwise (· ≤ ·))
    (known : SlidingWindow.Remembers monotonic windowSeconds now log (limiter.queue key)) :
    SlidingWindow.Remembers monotonic windowSeconds now log ((sweepLocked limiter now).queue key) := by
  unfold sweepLocked
  split
  · exact known
  · split
    · exact known
    · simp only [Limiter.queue, Table.lookup_keep]
      cases present : limiter.windows.lookup key with
      | none => simpa [Limiter.queue, present] using known
      | some queue =>
          simp only [Limiter.queue, present, Option.getD_some] at known
          by_cases old : stale now queue = true
          · simp only [Option.filter_some, old, Bool.not_true, Bool.false_eq_true, if_false, Option.getD_none]
            obtain ⟨forgotten, parted, expired⟩ := known
            apply SlidingWindow.remembers_nothing
            intro instant member
            rw [parted] at member sorted
            rcases List.mem_append.mp member with gone | queued
            · exact expired instant gone
            · exact stale_expired windowSeconds short now queue (List.pairwise_append.mp sorted).2.1 old instant queued
          · simpa [Option.filter, old] using known

-- One call of _is_allowed, seen from any key: a call on the key itself uses the
-- window the key is known by.
theorem is_allowed_remembers (width windowSeconds : Int) (short : width ≤ 3600) (limiter : Limiter) (now : Instant)
    (touched key : String) (same_width : touched = key → windowSeconds = width) (limit : Int) (log : List Instant)
    (sorted : log.Pairwise (· ≤ ·)) (past : ∀ instant ∈ log, instant ≤ now)
    (known : SlidingWindow.Remembers monotonic width now log (limiter.queue key)) :
    SlidingWindow.Remembers monotonic width now
      (if touched = key ∧ (isAllowed limiter now touched limit windowSeconds).1 = true then log ++ [now] else log)
      ((isAllowed limiter now touched limit windowSeconds).2.queue key) := by
  have pruned := SlidingWindow.remembers_pruned monotonic width now log _ known
  by_cases same : touched = key
  · subst same
    rw [same_width rfl]
    simp only [true_and]
    unfold isAllowed
    dsimp only
    split
    · simpa [Limiter.queue] using pruned
    · simp only [if_true]
      apply sweep_remembers width short
      · refine List.pairwise_append.mpr ⟨sorted, List.pairwise_singleton _ _, ?_⟩
        intro instant member other here
        rw [List.mem_singleton.mp here]
        exact past instant member
      · simpa [Limiter.queue] using SlidingWindow.remembers_push monotonic width now now log _ pruned
  · have untouched : ∀ queue, (limiter.windows.insert touched queue).lookup key = limiter.windows.lookup key :=
      fun queue => AList.lookup_insert_ne (Ne.symm same)
    rw [if_neg (fun both => same both.1)]
    unfold isAllowed
    dsimp only
    split
    · simpa [Limiter.queue, untouched] using known
    · apply sweep_remembers width short _ now key log sorted
      simpa [Limiter.queue, untouched] using known

theorem is_allowed_iff (limiter : Limiter) (now : Instant) (key : String) (limit windowSeconds : Int) :
    (isAllowed limiter now key limit windowSeconds).1 = true ↔
      ((SlidingWindow.prune monotonic windowSeconds now (limiter.queue key)).length : Int) < limit := by
  unfold isAllowed
  dsimp only
  split
  · simp only [Bool.false_eq_true, false_iff]
    omega
  · simp only [true_iff]
    omega

end Tempmail.Api
