import Mathlib.Data.Int.Log
import Mathlib.Data.Rat.Floor

set_option autoImplicit false

-- Rounding to a number of binary digits: to the nearest, and from the middle to the
-- even neighbour. It keeps the order and leaves small integers alone.
namespace Rounding

variable {K : Type} [Field K] [LinearOrder K] [IsStrictOrderedRing K] [FloorRing K]

def nearest (x : K) : Int :=
  if Int.fract x < 1 / 2 then ⌊x⌋
  else if 1 / 2 < Int.fract x then ⌊x⌋ + 1
  else if ⌊x⌋ % 2 = 0 then ⌊x⌋
  else ⌊x⌋ + 1

def ulp (bits : Nat) (x : K) : K := 2 ^ (Int.log 2 x - bits)

def significant (bits : Nat) (x : K) : K := nearest (x / ulp bits x) * ulp bits x

def round (bits : Nat) (x : K) : K := if 0 ≤ x then significant bits x else -significant bits (-x)

omit [IsStrictOrderedRing K] in
theorem nearest_floor (x : K) : ⌊x⌋ ≤ nearest x ∧ nearest x ≤ ⌊x⌋ + 1 := by
  unfold nearest
  split_ifs <;> omega

theorem nearest_int (count : Int) : nearest (count : K) = count := by
  rw [nearest, Int.fract_intCast, if_pos one_half_pos, Int.floor_intCast]

theorem nearest_mono (x y : K) (order : x ≤ y) : nearest x ≤ nearest y := by
  rcases (Int.floor_mono order).lt_or_eq with below | same
  · calc nearest x ≤ ⌊x⌋ + 1 := (nearest_floor x).2
      _ ≤ ⌊y⌋ := below
      _ ≤ nearest y := (nearest_floor y).1
  · have parts : Int.fract x ≤ Int.fract y := by
      rw [Int.fract, Int.fract, same]
      exact sub_le_sub_right order _
    by_cases low : Int.fract x < 1 / 2
    · have down : nearest x = ⌊x⌋ := if_pos low
      rw [down, same]
      exact (nearest_floor y).1
    · have half : ¬ Int.fract y < 1 / 2 := fun less => low (parts.trans_lt less)
      unfold nearest
      rw [if_neg low, if_neg half, same]
      by_cases high : 1 / 2 < Int.fract x
      · rw [if_pos high, if_pos (high.trans_le parts)]
      · rw [if_neg high]
        split_ifs <;> omega

theorem ulp_pos (bits : Nat) (x : K) : 0 < ulp bits x := zpow_pos two_pos _

theorem scale_ulp (bits : Nat) (x : K) (digits : Nat) : (2 : K) ^ (Int.log 2 x - bits + digits) = 2 ^ digits * ulp bits x := by
  have nonzero : (2 : K) ≠ 0 := (zero_lt_two : (0 : K) < 2).ne'
  rw [ulp, add_comm, zpow_add₀ nonzero, zpow_natCast]

theorem significant_between (bits : Nat) (x : K) (positive : 0 < x) :
    2 ^ Int.log 2 x ≤ significant bits x ∧ significant bits x ≤ 2 ^ (Int.log 2 x + 1) := by
  have unit := ulp_pos bits x
  have lower : (2 : K) ^ Int.log 2 x = ((2 ^ bits : Int) : K) * ulp bits x := by
    rw [Int.cast_pow, Int.cast_ofNat, ← scale_ulp, sub_add_cancel]
  have upper : (2 : K) ^ (Int.log 2 x + 1) = ((2 ^ (bits + 1) : Int) : K) * ulp bits x := by
    rw [Int.cast_pow, Int.cast_ofNat, ← scale_ulp, Nat.cast_succ, ← add_assoc, sub_add_cancel]
  have start := Int.zpow_log_le_self (b := 2) Nat.one_lt_two positive
  have stop := (Int.lt_zpow_succ_log_self (b := 2) Nat.one_lt_two x).le
  rw [Nat.cast_ofNat] at start stop
  rw [lower] at start
  rw [upper] at stop
  constructor
  · rw [lower, significant]
    refine mul_le_mul_of_nonneg_right (Int.cast_le.mpr ?_) unit.le
    rw [← nearest_int (K := K) (2 ^ bits)]
    exact nearest_mono _ _ ((le_div_iff₀ unit).mpr start)
  · rw [upper, significant]
    refine mul_le_mul_of_nonneg_right (Int.cast_le.mpr ?_) unit.le
    rw [← nearest_int (K := K) (2 ^ (bits + 1))]
    exact nearest_mono _ _ ((div_le_iff₀ unit).mpr stop)

theorem significant_mono (bits : Nat) (x y : K) (positive : 0 < x) (order : x ≤ y) : significant bits x ≤ significant bits y := by
  rcases (Int.log_mono_right positive order : Int.log 2 x ≤ Int.log 2 y).lt_or_eq with below | same
  · calc significant bits x ≤ 2 ^ (Int.log 2 x + 1) := (significant_between bits x positive).2
      _ ≤ 2 ^ Int.log 2 y := zpow_le_zpow_right₀ one_le_two below
      _ ≤ significant bits y := (significant_between bits y (positive.trans_le order)).1
  · have unit : ulp bits x = ulp bits y := by rw [ulp, ulp, same]
    rw [significant, significant, unit]
    refine mul_le_mul_of_nonneg_right (Int.cast_le.mpr (nearest_mono _ _ ?_)) (ulp_pos bits y).le
    exact div_le_div_of_nonneg_right order (ulp_pos bits y).le

theorem round_zero (bits : Nat) : round bits (0 : K) = 0 := by
  rw [round, if_pos le_rfl, significant, zero_div, ← Int.cast_zero, nearest_int, Int.cast_zero, zero_mul]

theorem round_nonneg (bits : Nat) (x : K) (positive : 0 ≤ x) : 0 ≤ round bits x := by
  rcases positive.lt_or_eq with above | zero
  · rw [round, if_pos positive]
    exact (zpow_pos two_pos _).le.trans (significant_between bits x above).1
  · rw [← zero, round_zero]

theorem round_nonpos (bits : Nat) (x : K) (negative : x < 0) : round bits x ≤ 0 := by
  rw [round, if_neg (not_le.mpr negative), neg_nonpos]
  exact (zpow_pos two_pos _).le.trans (significant_between bits (-x) (neg_pos.mpr negative)).1

theorem round_mono (bits : Nat) : Monotone (round bits : K → K) := by
  intro x y order
  by_cases above : 0 ≤ x
  · rcases above.lt_or_eq with positive | zero
    · rw [round, round, if_pos above, if_pos (above.trans order)]
      exact significant_mono bits x y positive order
    · rw [← zero, round_zero]
      exact round_nonneg bits y (above.trans order)
  · by_cases across : 0 ≤ y
    · exact (round_nonpos bits x (not_le.mp above)).trans (round_nonneg bits y across)
    · rw [round, round, if_neg above, if_neg across, neg_le_neg_iff]
      exact significant_mono bits (-y) (-x) (neg_pos.mpr (not_le.mp across)) (neg_le_neg order)

theorem round_nat (bits count : Nat) (small : count < 2 ^ (bits + 1)) : round bits (count : K) = count := by
  rw [round, if_pos (Nat.cast_nonneg count)]
  rcases Nat.eq_zero_or_pos count with rfl | positive
  · rw [significant, Nat.cast_zero, zero_div, ← Int.cast_zero, nearest_int, Int.cast_zero, zero_mul]
  have digits : Nat.log 2 count ≤ bits := Nat.lt_succ_iff.mp (Nat.log_lt_of_lt_pow positive.ne' small)
  have whole : (count : K) / ulp bits (count : K) = ((count * 2 ^ (bits - Nat.log 2 count) : Nat) : Int) := by
    rw [div_eq_iff (ulp_pos bits _).ne', Int.cast_natCast, Nat.cast_mul, Nat.cast_pow, Nat.cast_ofNat, mul_assoc, ← scale_ulp,
      Int.log_natCast, Nat.cast_sub digits]
    simp
  rw [significant, whole, nearest_int, ← whole, div_mul_cancel₀ _ (ulp_pos bits _).ne']

end Rounding
