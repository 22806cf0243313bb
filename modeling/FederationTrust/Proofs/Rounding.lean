import FederationTrust.Json.Number
import Mathlib.Algebra.Group.Nat.Defs

/-!
# What rounding keeps of a size

A quotient that is rounded to the format keeps at least half of its whole part, since the unit of
the rounded number is never more than that. So a significand that is scaled up by a power of ten,
with three roundings on the way, keeps at least a quarter, unless the product is beyond the format.
-/

namespace FederationTrust

namespace Binary64

theorem le_roundDiv (num den : Nat) : num / den ≤ roundDiv num den := by
  rw [roundDiv]
  split
  · exact Nat.le_succ _
  · exact Nat.le_refl _

theorem scaleOf_le (num den : Nat) :
    scaleOf num den ≤ max ((Nat.log2 num : Int) - Nat.log2 den - 52) (-1074) := by
  unfold scaleOf
  dsimp only
  split <;> omega

/-- A unit of one or more is at most the quotient that is rounded to it. -/
theorem two_pow_scaleOf_mul_le {num den : Nat} (some : num ≠ 0) (up : 0 ≤ scaleOf num den) :
    2 ^ (scaleOf num den).toNat * den ≤ num := by
  have scale : (scaleOf num den).toNat + (Nat.log2 den + 1) ≤ Nat.log2 num := by
    have := scaleOf_le num den
    omega
  calc 2 ^ (scaleOf num den).toNat * den
      ≤ 2 ^ (scaleOf num den).toNat * 2 ^ (Nat.log2 den + 1) :=
        Nat.mul_le_mul_left _ (Nat.le_of_lt Nat.lt_log2_self)
    _ = 2 ^ ((scaleOf num den).toNat + (Nat.log2 den + 1)) := (Nat.pow_add ..).symm
    _ ≤ 2 ^ Nat.log2 num := Nat.pow_le_pow_right (by decide) scale
    _ ≤ num := Nat.log2_self_le some

theorem floor_eq (x : Binary64) :
    x.floor = x.mantissa * 2 ^ x.exponent.toNat / 2 ^ (-x.exponent).toNat :=
  rfl

theorem eq_of_nearest? {num den : Nat} {x : Binary64} (some : num ≠ 0)
    (rounds : nearest? num den = .some x) :
    x.exponent = scaleOf num den ∧
      x.mantissa = roundDiv (num * 2 ^ (-x.exponent).toNat) (den * 2 ^ x.exponent.toNat) := by
  rw [nearest?, if_neg some] at rounds
  dsimp only at rounds
  split at rounds
  · cases rounds
  · cases rounds
    refine ⟨rfl, ?_⟩
    change roundDiv _ (den * 2 ^ (-(-scaleOf num den)).toNat) = _
    rw [Int.neg_neg]
    rfl

theorem le_two_mul_of_div_le {q unit m : Nat} (pos : 0 < unit) (fits : unit ≤ q)
    (least : q / unit ≤ m) : q ≤ 2 * (m * unit) := by
  have one : 1 ≤ q / unit := (Nat.le_div_iff_mul_le pos).mpr (by rwa [Nat.one_mul])
  calc q = unit * (q / unit) + q % unit := (Nat.div_add_mod q unit).symm
    _ ≤ unit * (q / unit) + unit := Nat.add_le_add_left (Nat.le_of_lt (Nat.mod_lt q pos)) _
    _ ≤ unit * (q / unit) + unit * (q / unit) :=
      Nat.add_le_add_left (Nat.le_mul_of_pos_right unit one) _
    _ = 2 * (q / unit * unit) := by rw [Nat.two_mul, Nat.mul_comm]
    _ ≤ 2 * (m * unit) := Nat.mul_le_mul_left 2 (Nat.mul_le_mul_right unit least)

/-- Rounding keeps at least half of the whole part. -/
theorem div_le_two_mul_floor {num den : Nat} {x : Binary64} (rounds : nearest? num den = some x) :
    num / den ≤ 2 * x.floor := by
  by_cases zero : num = 0
  · rw [zero, Nat.zero_div]
    exact Nat.zero_le _
  obtain ⟨scale, mantissa⟩ := eq_of_nearest? zero rounds
  have least : num * 2 ^ (-x.exponent).toNat / (den * 2 ^ x.exponent.toNat) ≤ x.mantissa :=
    mantissa ▸ le_roundDiv ..
  rw [floor_eq]
  rcases Int.le_total 0 x.exponent with up | down
  · have whole : (-x.exponent).toNat = 0 := Int.toNat_of_nonpos (Int.neg_nonpos_of_nonneg up)
    rw [whole, Nat.pow_zero, Nat.mul_one, ← Nat.div_div_eq_div_mul] at least
    rw [whole, Nat.pow_zero, Nat.div_one]
    rw [scale] at up least ⊢
    cases den with
    | zero =>
      rw [Nat.div_zero]
      exact Nat.zero_le _
    | succ den =>
      have fits := (Nat.le_div_iff_mul_le den.succ_pos).mpr (two_pow_scaleOf_mul_le zero up)
      exact le_two_mul_of_div_le (Nat.two_pow_pos _) fits least
  · rw [Int.toNat_of_nonpos down, Nat.pow_zero, Nat.mul_one] at least ⊢
    have half := Nat.div_le_div_right (c := 2 ^ (-x.exponent).toNat) least
    rw [Nat.div_div_eq_div_mul, Nat.mul_div_mul_right _ _ (Nat.two_pow_pos _)] at half
    omega

theorem le_two_mul_floor_of_ofNat? {n : Nat} {x : Binary64} (rounds : ofNat? n = some x) :
    n ≤ 2 * x.floor := by
  have half := div_le_two_mul_floor rounds
  rwa [Nat.div_one] at half

theorem floor_mul_le (x : Binary64) :
    x.floor * 2 ^ (-x.exponent).toNat ≤ x.mantissa * 2 ^ x.exponent.toNat := by
  rw [floor_eq]
  exact Nat.div_mul_le_self ..

/-- A product keeps at least half of the product of the whole parts. -/
theorem floor_mul_floor_le {x y z : Binary64} (product : x.mul? y = some z) :
    x.floor * y.floor ≤ 2 * z.floor := by
  have half := div_le_two_mul_floor product
  refine Nat.le_trans ?_ half
  change _ ≤ x.mantissa * y.mantissa * 2 ^ (x.exponent + y.exponent).toNat /
    2 ^ (-(x.exponent + y.exponent)).toNat
  rw [Nat.le_div_iff_mul_le (Nat.two_pow_pos _)]
  -- Powers of two that the exponents of the factors cancel in the sum.
  obtain ⟨k, ups, downs⟩ : ∃ k, x.exponent.toNat + y.exponent.toNat =
        (x.exponent + y.exponent).toNat + k ∧
      (-x.exponent).toNat + (-y.exponent).toNat = (-(x.exponent + y.exponent)).toNat + k :=
    ⟨x.exponent.toNat + y.exponent.toNat - (x.exponent + y.exponent).toNat, by omega, by omega⟩
  refine Nat.le_of_mul_le_mul_right ?_ (Nat.two_pow_pos k)
  rw [Nat.mul_assoc, Nat.mul_assoc (x.mantissa * y.mantissa), ← Nat.pow_add, ← Nat.pow_add, ← ups,
    ← downs, Nat.pow_add, Nat.pow_add, Nat.mul_mul_mul_comm, Nat.mul_mul_mul_comm x.mantissa]
  exact Nat.mul_le_mul (floor_mul_le x) (floor_mul_le y)

end Binary64

namespace Numeral

open Binary64

/-- A significand that is scaled up keeps at least a quarter of its size. -/
theorem le_four_mul_floor_of_scale? {significand : Nat} {power : Int} {x : Binary64}
    (some : 0 < significand) (up : 0 ≤ power) (scales : scale? significand power = .some x) :
    significand ≤ 4 * x.floor := by
  rw [scale?] at scales
  obtain ⟨s, rounded, scales⟩ := Option.bind_eq_some_iff.mp scales
  rw [if_pos up] at scales
  split at scales
  · obtain ⟨p, ten, product⟩ := Option.bind_eq_some_iff.mp scales
    have significandHalf := le_two_mul_floor_of_ofNat? rounded
    have powerHalf := le_two_mul_floor_of_ofNat? ten
    have productHalf := floor_mul_floor_le product
    have one : 1 ≤ p.floor := by
      have : 0 < Nat.pow 10 power.toNat := Nat.pow_pos (by decide)
      omega
    have atLeast : s.floor ≤ s.floor * p.floor := Nat.le_mul_of_pos_right s.floor one
    omega
  · rw [if_neg (Nat.ne_of_gt some)] at scales
    cases scales

/-- Of a number that is too long for 64 bits, the digits that are kept almost fill these. -/
theorem two_pow_le_leading {n : Nat} (large : 2 ^ 60 ≤ n) (fuel : Nat) :
    2 ^ 60 ≤ (leading fuel n).1 := by
  induction fuel generalizing n with
  | zero => exact large
  | succ fuel ih =>
    rw [leading]
    split
    · exact large
    · rename_i long
      change ¬ n < 2 ^ 64 at long
      exact ih (by omega)

end Numeral

end FederationTrust
