/-
# The nearest double is nearest

The doubles are the rationals `s * 2 ^ e` with bounds on both numbers, and `IsDouble` says
no more than that. Which of them a number is read as is told without an algorithm: `Nearest`
asks that no double is nearer, and that of two that are as near the one is taken whose
significand is even.

The algorithm chooses a grid of one power of two and rounds to an integer there. That no
double off the grid is nearer has one reason, which `exists_onGrid` states: on a finer grid
there are only doubles below the least number for which this grid is chosen, and that
number is on the grid itself.
-/

import EditorClient.Number.Duration
import Mathlib.Algebra.Order.Field.Power
import Mathlib.Algebra.Order.Field.Rat
import Mathlib.Tactic.FieldSimp
import Mathlib.Tactic.Linarith
import Mathlib.Tactic.Positivity
import Mathlib.Tactic.Ring

namespace EditorClient

/-! ## Rounding to an integer -/

/-- An integer that a number is rounded to: a nearest one, and the even one of two. -/
structure Rounded (t : ℚ) (n : Nat) : Prop where
  near : |t - n| ≤ 1 / 2
  even : |t - n| = 1 / 2 → Even n

namespace Rounded

variable {t : ℚ} {n : Nat}

/-- Any other integer is at least as far away as half a unit. -/
theorem half_le {m : Nat} (r : Rounded t n) (other : m ≠ n) : 1 / 2 ≤ |t - m| := by
  have apart : (1 : ℚ) ≤ |(n : ℚ) - m| := by
    rcases Nat.lt_or_gt_of_ne other with less | more
    · have : (m : ℚ) + 1 ≤ n := by exact_mod_cast less
      exact le_trans (by linarith) (le_abs_self _)
    · have : (n : ℚ) + 1 ≤ m := by exact_mod_cast more
      exact le_trans (by linarith) (neg_le_abs _)
  have triangle : |(n : ℚ) - m| ≤ |t - m| + |t - n| := by
    have both : (n : ℚ) - m = (t - m) - (t - n) := by ring
    rw [both]
    exact abs_sub _ _
  linarith [r.near]

theorem nearest (r : Rounded t n) (m : Nat) : |t - n| ≤ |t - m| := by
  by_cases same : m = n
  · rw [same]
  · exact r.near.trans (r.half_le same)

theorem even_of_tie {m : Nat} (r : Rounded t n) (other : m ≠ n) (tie : |t - m| = |t - n|) :
    Even n :=
  r.even (le_antisymm r.near (tie ▸ r.half_le other))

theorem eq_zero_iff (r : Rounded t n) : n = 0 ↔ t ≤ 1 / 2 := by
  constructor
  · rintro rfl
    have near := (abs_le.mp r.near).2
    rw [Nat.cast_zero] at near
    linarith
  · intro small
    have near := (abs_le.mp r.near).1
    have few : (n : ℚ) ≤ 1 := by linarith
    have cases : n = 0 ∨ n = 1 := Nat.le_one_iff_eq_zero_or_eq_one.mp (by exact_mod_cast few)
    refine cases.resolve_right ?_
    rintro rfl
    have half : t = 1 / 2 := le_antisymm small (by rw [Nat.cast_one] at near; linarith)
    have odd := r.even (by rw [half, Nat.cast_one]; norm_num)
    exact absurd odd (by decide)

end Rounded

theorem rounded_roundDiv (num : Nat) {den : Nat} (positive : 0 < den) :
    Rounded ((num : ℚ) / den) (roundDiv num den) := by
  have den' : (0 : ℚ) < den := by exact_mod_cast positive
  have whole : (num : ℚ) / den = (num / den : Nat) + (num % den : Nat) / (den : ℚ) := by
    rw [eq_comm, add_div_eq_mul_add_div _ _ den'.ne']
    congr 1
    exact_mod_cast Nat.div_add_mod' num den
  -- What is left over, compared with half a unit.
  have less : ((num % den : Nat) : ℚ) / den < 1 / 2 ↔ 2 * (num % den) < den := by
    rw [div_lt_div_iff₀ den' two_pos, one_mul, mul_comm]
    exact_mod_cast Iff.rfl
  have tie : ((num % den : Nat) : ℚ) / den = 1 / 2 ↔ 2 * (num % den) = den := by
    rw [div_eq_div_iff den'.ne' two_ne_zero, one_mul, mul_comm]
    exact_mod_cast Iff.rfl
  have nonneg : (0 : ℚ) ≤ ((num % den : Nat) : ℚ) / den := by positivity
  have unit : ((num % den : Nat) : ℚ) / den < 1 := by
    rw [div_lt_one den']
    exact_mod_cast Nat.mod_lt num positive
  rw [whole]
  generalize ((num % den : Nat) : ℚ) / den = part at less tie nonneg unit
  simp only [roundDiv]
  split_ifs with down
  · have half : part ≤ 1 / 2 := by
      rcases down with below | ⟨equal, -⟩
      · exact (less.mpr below).le
      · exact (tie.mpr equal).le
    have distance : |((num / den : Nat) : ℚ) + part - (num / den : Nat)| = part := by
      rw [add_sub_cancel_left, abs_of_nonneg nonneg]
    rw [← distance] at half
    refine ⟨half, fun equal => ?_⟩
    have twice := tie.mp (distance.symm.trans equal)
    exact Nat.even_iff.mpr (down.resolve_left (by omega)).2
  · have half : 1 / 2 ≤ part := le_of_not_gt fun below => down (.inl (less.mp below))
    have distance : |((num / den : Nat) : ℚ) + part - (num / den + 1 : Nat)| = 1 - part := by
      rw [Nat.cast_add_one, add_sub_add_left_eq_sub, abs_sub_comm, abs_of_nonneg (by linarith)]
    refine ⟨by linarith, fun equal => ?_⟩
    have twice := tie.mp (by linarith)
    exact Nat.even_add_one.mpr fun even => down (.inr ⟨twice, Nat.even_iff.mp even⟩)

/-! ## Powers of two -/

theorem scaleFraction_den_pos (num : Nat) {den : Nat} (positive : 0 < den) (k : Int) :
    0 < (scaleFraction num den k).2 := by
  unfold scaleFraction
  split_ifs
  · rw [Nat.shiftLeft_eq]
    positivity
  · exact positive

theorem scaleFraction_value (num : Nat) {den : Nat} (positive : 0 < den) (k : Int) :
    ((scaleFraction num den k).1 : ℚ) / (scaleFraction num den k).2 = num / den * 2 ^ k := by
  have den' : (den : ℚ) ≠ 0 := by exact_mod_cast positive.ne'
  unfold scaleFraction
  split_ifs with negative
  · have opposite : k = -(k.natAbs : Int) := by omega
    rw [opposite, zpow_neg, zpow_natCast, Int.natAbs_neg, Int.natAbs_natCast, Nat.shiftLeft_eq]
    push_cast
    rw [← div_eq_mul_inv, div_div]
  · have same : k = (k.natAbs : Int) := by omega
    rw [same, zpow_natCast, Int.natAbs_natCast, Nat.shiftLeft_eq]
    push_cast
    rw [div_mul_eq_mul_div]

theorem rounded_scaled (num : Nat) {den : Nat} (positive : 0 < den) (k : Int) :
    Rounded ((num : ℚ) / den * 2 ^ k)
      (roundDiv (scaleFraction num den k).1 (scaleFraction num den k).2) := by
  rw [← scaleFraction_value num positive]
  exact rounded_roundDiv _ (scaleFraction_den_pos num positive k)

/-- The fraction lies from `2 ^ k` up to the double of it. -/
theorem Binary64.floorLog2_spec {num den : Nat} (num' : num ≠ 0) (den' : den ≠ 0) :
    (2 : ℚ) ^ floorLog2 num den ≤ num / den ∧ (num : ℚ) / den < 2 ^ (floorLog2 num den + 1) := by
  have positive : (0 : ℚ) < den := by exact_mod_cast Nat.pos_of_ne_zero den'
  have numLow : (2 : ℚ) ^ (num.log2 : Int) ≤ num := by
    rw [zpow_natCast]
    exact_mod_cast Nat.log2_self_le num'
  have numHigh : (num : ℚ) < 2 ^ (num.log2 + 1 : Int) := by
    exact_mod_cast (Nat.lt_log2_self : num < 2 ^ (num.log2 + 1))
  have denLow : (2 : ℚ) ^ (den.log2 : Int) ≤ den := by
    rw [zpow_natCast]
    exact_mod_cast Nat.log2_self_le den'
  have denHigh : (den : ℚ) < 2 ^ (den.log2 + 1 : Int) := by
    exact_mod_cast (Nat.lt_log2_self : den < 2 ^ (den.log2 + 1))
  have above : (num : ℚ) / den < 2 ^ ((num.log2 : Int) - den.log2 + 1) := by
    rw [div_lt_iff₀ positive]
    calc (num : ℚ) < 2 ^ (num.log2 + 1 : Int) := numHigh
      _ = 2 ^ ((num.log2 : Int) - den.log2 + 1) * 2 ^ (den.log2 : Int) := by
        rw [← zpow_add₀ two_ne_zero]
        congr 1
        ring
      _ ≤ 2 ^ ((num.log2 : Int) - den.log2 + 1) * den := by gcongr
  have below : (2 : ℚ) ^ ((num.log2 : Int) - den.log2 - 1) ≤ num / den := by
    rw [le_div_iff₀ positive]
    calc (2 : ℚ) ^ ((num.log2 : Int) - den.log2 - 1) * den
        ≤ 2 ^ ((num.log2 : Int) - den.log2 - 1) * 2 ^ (den.log2 + 1 : Int) := by gcongr
      _ = 2 ^ (num.log2 : Int) := by
        rw [← zpow_add₀ two_ne_zero]
        congr 1
        ring
      _ ≤ num := numLow
  -- The algorithm compares the fraction with `2 ^ k` by bringing `2 ^ k` to 1.
  have compare (k : Int) : (scaleFraction num den (-k)).2 ≤ (scaleFraction num den (-k)).1 ↔
      (2 : ℚ) ^ k ≤ num / den := by
    have scaled := scaleFraction_den_pos num (Nat.pos_of_ne_zero den') (-k)
    rw [← Nat.cast_le (α := ℚ), ← one_le_div (by exact_mod_cast scaled),
      scaleFraction_value num (Nat.pos_of_ne_zero den'), zpow_neg, ← div_eq_mul_inv,
      one_le_div (by positivity)]
  unfold floorLog2
  simp only [compare]
  split_ifs with reaches
  · exact ⟨reaches, above⟩
  · exact ⟨below, by rw [sub_add_cancel]; exact lt_of_not_ge reaches⟩

namespace Binary64

/-! ## Doubles as rational numbers -/

/-- The number that a double is. -/
def value (x : Binary64) : ℚ := x.significand * 2 ^ x.exponent

/-- A number that is a finite double, and not negative. -/
def IsDouble (w : ℚ) : Prop :=
  ∃ (s : Nat) (e : Int), s < significandBound ∧ minExponent ≤ e ∧ e ≤ maxExponent ∧ w = s * 2 ^ e

/-- The double that is nearest to a number. Of two that are as near, its significand is
the even one, and `normal` says which significand of a double that is. -/
structure Nearest (q : ℚ) (x : Binary64) : Prop where
  double : IsDouble x.value
  fits : x.significand ≤ significandBound
  normal : x.exponent = minExponent ∨ significandBound ≤ 2 * x.significand
  nearest : ∀ w, IsDouble w → |x.value - q| ≤ |w - q|
  even : ∀ w, IsDouble w → w ≠ x.value → |w - q| = |x.value - q| → Even x.significand

/-- A double is a multiple of `2 ^ e`, unless it is below the numbers that need all 53
digits there. -/
theorem exists_onGrid {w : ℚ} {e : Int} (double : IsDouble w)
    (large : e = minExponent ∨ (2 : ℚ) ^ (e + 52) ≤ w) : ∃ m : Nat, w = m * 2 ^ e := by
  obtain ⟨s, e', bound, low, -, rfl⟩ := double
  suffices e ≤ e' by
    refine ⟨s * 2 ^ (e' - e).toNat, ?_⟩
    have split : e' = (e' - e).toNat + e := by omega
    nth_rewrite 1 [split]
    rw [zpow_add₀ two_ne_zero, zpow_natCast]
    push_cast
    ring
  rcases large with rfl | large
  · exact low
  · by_contra! finer
    have digits : (s : ℚ) < 2 ^ (53 : Int) := by
      exact_mod_cast (show s < 2 ^ 53 from bound)
    have : (s : ℚ) * 2 ^ e' < 2 ^ (e + 52) := by
      calc (s : ℚ) * 2 ^ e' < 2 ^ (53 : Int) * 2 ^ e' := by gcongr
        _ = 2 ^ (53 + e') := (zpow_add₀ two_ne_zero _ _).symm
        _ ≤ 2 ^ (e + 52) := zpow_le_zpow_right₀ one_le_two (by omega)
    linarith

section Grid

variable {q : ℚ} {e : Int} {s : Nat}

/-- Distances on the grid of `2 ^ e` are distances of integers. -/
theorem abs_grid_sub (q : ℚ) (e : Int) (m : Nat) :
    |(m : ℚ) * 2 ^ e - q| = |q * 2 ^ (-e) - m| * 2 ^ e := by
  have unit : (0 : ℚ) < 2 ^ e := by positivity
  have back : q = q * 2 ^ (-e) * 2 ^ e := by
    rw [mul_assoc, ← zpow_add₀ two_ne_zero, neg_add_cancel, zpow_zero, mul_one]
  nth_rewrite 1 [back]
  rw [← sub_mul, abs_mul, abs_of_pos unit, abs_sub_comm]

theorem grid_nearest (r : Rounded (q * 2 ^ (-e)) s) (m : Nat) :
    |(s : ℚ) * 2 ^ e - q| ≤ |(m : ℚ) * 2 ^ e - q| := by
  rw [abs_grid_sub, abs_grid_sub]
  exact mul_le_mul_of_nonneg_right (r.nearest m) (by positivity)

/-- A double that is not on the grid is farther away than the number rounded to it. -/
theorem grid_nearer {w : ℚ} (large : e = minExponent ∨ (2 : ℚ) ^ (e + 52) ≤ q)
    (r : Rounded (q * 2 ^ (-e)) s) (double : IsDouble w) (off : ∀ m : Nat, w ≠ m * 2 ^ e) :
    |(s : ℚ) * 2 ^ e - q| < |w - q| := by
  have small : ¬(e = minExponent ∨ (2 : ℚ) ^ (e + 52) ≤ w) := fun large =>
    (exists_onGrid double large).elim off
  push Not at small
  have reaches := large.resolve_left small.1
  have corner : ((2 ^ 52 : Nat) : ℚ) * 2 ^ e = 2 ^ (e + 52) := by
    rw [zpow_add₀ two_ne_zero, mul_comm]
    norm_num
  calc |(s : ℚ) * 2 ^ e - q| ≤ |((2 ^ 52 : Nat) : ℚ) * 2 ^ e - q| := grid_nearest r _
    _ < |w - q| := by
      rw [corner, abs_of_nonpos (by linarith), abs_of_neg (by linarith)]
      linarith

theorem nearest_of_rounded (large : e = minExponent ∨ (2 : ℚ) ^ (e + 52) ≤ q)
    (small : q < 2 ^ (e + 53)) (low : minExponent ≤ e)
    (high : e < maxExponent ∨ e = maxExponent ∧ s < significandBound)
    (r : Rounded (q * 2 ^ (-e)) s) : Nearest q ⟨s, e⟩ := by
  have unit : (0 : ℚ) < 2 ^ (-e) := by positivity
  have near := abs_le.mp r.near
  have fits : s ≤ significandBound := by
    have scaled : q * 2 ^ (-e) < 2 ^ 53 := by
      calc q * 2 ^ (-e) < 2 ^ (e + 53) * 2 ^ (-e) := by gcongr
        _ = 2 ^ 53 := by
          rw [← zpow_add₀ two_ne_zero, add_neg_cancel_comm]
          norm_num
    have : (s : ℚ) < 2 ^ 53 + 1 := by linarith [near.1]
    exact Nat.lt_succ_iff.mp (by exact_mod_cast this)
  have normal : e = minExponent ∨ significandBound ≤ 2 * s := by
    refine large.imp_right fun reaches => ?_
    have scaled : (2 : ℚ) ^ 52 ≤ q * 2 ^ (-e) := by
      calc (2 : ℚ) ^ 52 = 2 ^ (e + 52) * 2 ^ (-e) := by
            rw [← zpow_add₀ two_ne_zero, add_neg_cancel_comm]
            norm_num
        _ ≤ q * 2 ^ (-e) := by gcongr
    have : (2 : ℚ) ^ 52 < s + 1 := by linarith [near.2]
    have : 2 ^ 52 < s + 1 := by exact_mod_cast this
    unfold significandBound
    omega
  have double : IsDouble ((s : ℚ) * 2 ^ e) := by
    by_cases whole : s = significandBound
    · refine ⟨2 ^ 52, e + 1, by decide, by omega, by omega, ?_⟩
      rw [whole, zpow_add₀ two_ne_zero, significandBound]
      push_cast
      ring
    · exact ⟨s, e, by omega, low, by omega, rfl⟩
  refine ⟨double, fits, normal, fun w isDouble => ?_, fun w isDouble other tie => ?_⟩
  · by_cases on : ∃ m : Nat, w = m * 2 ^ e
    · obtain ⟨m, rfl⟩ := on
      exact grid_nearest r m
    · exact (grid_nearer large r isDouble (not_exists.mp on)).le
  · by_cases on : ∃ m : Nat, w = m * 2 ^ e
    · obtain ⟨m, rfl⟩ := on
      have differ : m ≠ s := by
        rintro rfl
        exact other rfl
      refine r.even_of_tie differ ?_
      rw [value, abs_grid_sub, abs_grid_sub] at tie
      exact mul_right_cancel₀ (by positivity) tie
    · exact absurd tie (grid_nearer large r isDouble (not_exists.mp on)).ne'

end Grid

/-! ## What is found -/

/-- Zero is nearest to all that is less than half the least double. -/
theorem nearest_zero {q : ℚ} (start : 0 ≤ q) (tiny : q < 2 ^ (-1075 : Int)) :
    Nearest q ⟨0, minExponent⟩ := by
  have scaled : q * 2 ^ (-minExponent) < 1 / 2 := by
    calc q * 2 ^ (-minExponent) < 2 ^ (-1075 : Int) * 2 ^ (-minExponent) := by gcongr
      _ = 1 / 2 := by
        rw [← zpow_add₀ two_ne_zero]
        norm_num [minExponent]
  have nonneg : 0 ≤ q * 2 ^ (-minExponent) := by positivity
  have distance : |q * 2 ^ (-minExponent) - (0 : Nat)| < 1 / 2 := by
    rw [Nat.cast_zero, sub_zero, abs_of_nonneg nonneg]
    exact scaled
  refine nearest_of_rounded (.inl rfl) ?_ le_rfl (.inl (by decide))
    ⟨distance.le, fun tie => absurd tie distance.ne⟩
  exact tiny.trans_le (zpow_le_zpow_right₀ one_le_two (by decide))

theorem nearest?_nearest {num den : Nat} {x : Binary64} (positive : 0 < den)
    (found : nearest? num den = some x) : Nearest ((num : ℚ) / den) x := by
  simp only [nearest?] at found
  split_ifs at found with zero fits
  · obtain rfl := Option.some.inj found
    rw [zero, Nat.cast_zero, zero_div]
    exact nearest_zero le_rfl (by positivity)
  · obtain rfl := Option.some.inj found
    obtain ⟨low, high⟩ := floorLog2_spec zero positive.ne'
    refine nearest_of_rounded ?_ ?_ (le_max_left _ _) fits (rounded_scaled num positive _)
    · rcases max_choice minExponent (floorLog2 num den - 52) with least | chosen
      · exact .inl least
      · rw [chosen, sub_add_cancel]
        exact .inr low
    · exact high.trans_le (zpow_le_zpow_right₀ one_le_two (by omega))

theorem ofDecimal?_nearest {digits : Nat} {exponent : Int} {x : Binary64}
    (found : ofDecimal? digits exponent = some x) : Nearest ((digits : ℚ) * 10 ^ exponent) x := by
  unfold ofDecimal? at found
  split_ifs at found with zero whole huge tiny
  · obtain rfl := Option.some.inj found
    rw [zero, Nat.cast_zero, zero_mul]
    exact nearest_zero le_rfl (by positivity)
  · have same : exponent = (exponent.natAbs : Int) := by omega
    have near := nearest?_nearest Nat.one_pos found
    rw [same, zpow_natCast]
    simpa using near
  · obtain rfl := Option.some.inj found
    have opposite : exponent = -(exponent.natAbs : Int) := by omega
    refine nearest_zero (by positivity) ?_
    have size : (digits : ℚ) < 2 ^ (digits.log2 + 1) := by
      exact_mod_cast (Nat.lt_log2_self : digits < 2 ^ (digits.log2 + 1))
    have power : (2 : ℚ) ^ (digits.log2 + 1 + 1075) ≤ 10 ^ exponent.natAbs := by
      calc (2 : ℚ) ^ (digits.log2 + 1 + 1075) ≤ 2 ^ (3 * exponent.natAbs) :=
            pow_le_pow_right₀ one_le_two (by omega)
        _ = 8 ^ exponent.natAbs := by
          rw [pow_mul]
          norm_num
        _ ≤ 10 ^ exponent.natAbs := by gcongr; norm_num
    rw [opposite, zpow_neg, zpow_natCast, ← div_eq_mul_inv, div_lt_iff₀ (by positivity)]
    calc (digits : ℚ) < 2 ^ (digits.log2 + 1) := size
      _ = 2 ^ (-1075 : Int) * 2 ^ (digits.log2 + 1 + 1075) := by
        rw [pow_add _ _ 1075, mul_left_comm, ← zpow_natCast _ 1075, ← zpow_add₀ two_ne_zero,
          Nat.cast_ofNat, neg_add_cancel, zpow_zero, mul_one]
      _ ≤ 2 ^ (-1075 : Int) * 10 ^ exponent.natAbs := by gcongr
  · have opposite : exponent = -(exponent.natAbs : Int) := by omega
    have near := nearest?_nearest (Nat.pow_pos (by decide)) found
    rw [opposite, zpow_neg, zpow_natCast, ← div_eq_mul_inv]
    simpa using near

/-! ## Neighbouring doubles -/

section Neighbours

variable {q w : ℚ} {m s : Nat} {e k : Int} {x : Binary64}

/-- What is above a double with a full significand is the next one at least. -/
theorem IsDouble.next_le (double : IsDouble w) (full : 2 ^ 52 ≤ m) (above : (m : ℚ) * 2 ^ e < w) :
    ((m : ℚ) + 1) * 2 ^ e ≤ w := by
  have reaches : (2 : ℚ) ^ (e + 52) ≤ m * 2 ^ e := by
    have full' : (2 : ℚ) ^ 52 ≤ m := by exact_mod_cast full
    rw [zpow_add₀ two_ne_zero, mul_comm]
    gcongr
    exact_mod_cast full'
  obtain ⟨n, rfl⟩ := exists_onGrid double (.inr (reaches.trans above.le))
  have more : (m : ℚ) < n := lt_of_mul_lt_mul_right above (by positivity)
  have next : (m : ℚ) + 1 ≤ n := by exact_mod_cast (show m < n by exact_mod_cast more)
  gcongr

/-- A double whose full significand is odd can be written in one way only. -/
theorem significand_eq_of_odd (fits : s ≤ significandBound) (full : 2 ^ 52 ≤ m) (odd : Odd m)
    (same : (s : ℚ) * 2 ^ e = m * 2 ^ k) : s = m := by
  -- Moving both to the finer grid leaves an equation between natural numbers.
  have level {s m : Nat} {e k : Int} (finer : e ≤ k) (same : (s : ℚ) * 2 ^ e = m * 2 ^ k) :
      s = m * 2 ^ (k - e).toNat := by
    have split : k = (k - e).toNat + e := by omega
    rw [split, zpow_add₀ two_ne_zero, zpow_natCast, ← mul_assoc] at same
    exact_mod_cast mul_right_cancel₀ (by positivity) same
  rcases lt_trichotomy e k with finer | rfl | coarser
  · have equal := level finer.le same
    have twice : 2 ^ 1 ≤ 2 ^ (k - e).toNat := Nat.pow_le_pow_right two_pos (by omega)
    have more : m * 2 ≤ s := equal ▸ Nat.mul_le_mul_left m twice
    obtain ⟨half, rfl⟩ := odd
    unfold significandBound at fits
    omega
  · simpa using level le_rfl same
  · have equal := level coarser.le same.symm
    obtain ⟨less, positive⟩ : ∃ less, (e - k).toNat = less + 1 := ⟨(e - k).toNat - 1, by omega⟩
    have even : Even m := ⟨s * 2 ^ less, by rw [equal, positive, pow_succ]; ring⟩
    exact absurd odd (Nat.not_odd_iff_even.mpr even)

/-- The numbers that are read as at most a given double, whose significand is full and
even: those up to the middle between it and the next one. -/
theorem Nearest.value_le_iff (near : Nearest q x) (low : minExponent ≤ e) (high : e ≤ maxExponent)
    (full : 2 ^ 52 ≤ m) (bound : m + 1 < significandBound) (even : Even m) :
    x.value ≤ m * 2 ^ e ↔ q ≤ (m + 1 / 2) * 2 ^ e := by
  have unit : (0 : ℚ) < 2 ^ e := by positivity
  have lower : IsDouble ((m : ℚ) * 2 ^ e) := ⟨m, e, by omega, low, high, rfl⟩
  have upper : IsDouble (((m : ℚ) + 1) * 2 ^ e) := ⟨m + 1, e, bound, low, high, by push_cast; rfl⟩
  constructor
  · intro below
    by_contra! far
    have closer := near.nearest _ upper
    rw [abs_of_neg (by linarith), le_abs] at closer
    rcases closer with closer | closer <;> linarith
  · intro below
    by_contra! above
    have next := near.double.next_le full above
    have closer := near.nearest _ lower
    rw [abs_of_pos (by linarith), le_abs] at closer
    -- Only in the middle is the next double as near, and then its significand is odd.
    have middle : q = (m + 1 / 2) * 2 ^ e := by
      rcases closer with closer | closer <;> linarith
    have tie : x.value = ((m + 1 : Nat) : ℚ) * 2 ^ e := by
      push_cast
      rcases closer with closer | closer <;> linarith
    have taken := near.even _ lower above.ne (by
      rw [tie, middle, abs_of_neg (by linarith), abs_of_pos (by push_cast; linarith)]
      push_cast
      ring)
    rw [significand_eq_of_odd near.fits (full.trans m.le_succ) even.add_one tie] at taken
    exact (Nat.not_even_iff_odd.mpr even.add_one) taken

end Neighbours

end Binary64

end EditorClient
