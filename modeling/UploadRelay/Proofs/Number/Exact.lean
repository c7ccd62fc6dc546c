import Mathlib.Algebra.Order.Field.Rat
import Mathlib.Tactic.Positivity
import UploadRelay.Number.Num
import UploadRelay.Proofs.Number.Rounding
-- Exact seconds: rational numbers, which add up without rounding.

namespace UploadRelay

def Double.exactly : Double → ℚ
  | .nan => 0
  | .infinity negative => if negative then -(2 ^ 1024) else 2 ^ 1024
  | .finite negative m e _ => (Double.units negative m e : ℚ) / 2 ^ 1074

def exactHundredths (q : ℚ) : Text :=
  let n := roundHalfEven (q.num.natAbs * 100) q.den
  let text := Text.ofNat (n / 100) ++ "." ++ Text.padded 2 (n % 100)
  if q < 0 then CodePoint.ofChar '-' :: text else text

instance : Seconds ℚ where
  ofInt n := n
  ofDouble := Double.exactly
  add a b := .ok (a + b)
  mul a b := .ok (a * b)
  less a b := decide (a < b)
  atMost a b := decide (a ≤ b)
  powerOfTwo n := .ok (if 0 ≤ n then 2 ^ n.toNat else 1 / 2 ^ (-n).toNat)
  half := 1 / 2
  text q := if q.den = 1 then Text.ofInt q.num else Text.ofInt q.num ++ "/" ++ Text.ofNat q.den
  hundredths := exactHundredths

end UploadRelay

-- Whole numbers of at most 53 bits become floating ones without being rounded.
namespace UploadRelay.Double

theorem whole_magnitude {n : Nat} (small : n < 2 ^ 53) : ∃ m e, Canonical m e ∧ magnitude m e = n * 2 ^ 1074 := by
  by_cases none : n = 0
  · exact ⟨0, 0, by decide, by rw [none, magnitude, Nat.zero_mul, Nat.zero_mul]⟩
  · have top : n.log2 < 53 := (Nat.log2_lt none).mpr small
    have least : 2 ^ n.log2 ≤ n := Nat.log2_self_le none
    have most : n < 2 ^ (n.log2 + 1) := Nat.lt_log2_self
    -- Shifted until its first bit stands at the highest place of the mantissa.
    refine ⟨n * 2 ^ (52 - n.log2), 1022 + n.log2, ⟨?_, by omega, Or.inr ?_⟩, ?_⟩
    · calc n * 2 ^ (52 - n.log2) < 2 ^ (n.log2 + 1) * 2 ^ (52 - n.log2) := Nat.mul_lt_mul_of_pos_right most (Nat.two_pow_pos _)
        _ = 2 ^ 53 := by rw [← Nat.pow_add, show n.log2 + 1 + (52 - n.log2) = 53 by omega]
    · calc 2 ^ 52 = 2 ^ n.log2 * 2 ^ (52 - n.log2) := by rw [← Nat.pow_add, show n.log2 + (52 - n.log2) = 52 by omega]
        _ ≤ n * 2 ^ (52 - n.log2) := Nat.mul_le_mul_right _ least
    · calc magnitude (n * 2 ^ (52 - n.log2)) (1022 + n.log2) = n * 2 ^ (52 - n.log2 + (1022 + n.log2)) := by
            rw [magnitude, Nat.mul_assoc, ← Nat.pow_add]
        _ = n * 2 ^ 1074 := congrArg (n * 2 ^ ·) (show 52 - n.log2 + (1022 + n.log2) = 1074 by omega)

-- Over any field, whose powers are the general ones that exact values are written with.
theorem units_exact {K : Type} [Field K] [CharZero K] {n : Int} {m e places : Nat}
    (size : magnitude m e = n.natAbs * 2 ^ places) : (units (decide (n < 0)) m e : K) / 2 ^ places = n := by
  have scaled : (magnitude m e : Int) = n.natAbs * 2 ^ places := by exact_mod_cast size
  have whole : units (decide (n < 0)) m e = n * 2 ^ places := by
    unfold units
    rw [scaled]
    by_cases negative : n < 0
    · rw [if_pos (decide_eq_true negative), Int.ofNat_natAbs_of_nonpos (Int.le_of_lt negative), Int.neg_mul, Int.neg_neg]
    · rw [if_neg (by simp [negative]), Int.natAbs_of_nonneg (Int.not_lt.mp negative)]
  rw [whole]
  push_cast
  exact mul_div_cancel_right₀ _ (pow_ne_zero _ (OfNat.ofNat_ne_zero 2))

theorem finite_exact {n : Int} {m e : Nat} (canonical : Canonical m e) (size : magnitude m e = n.natAbs * 2 ^ 1074) :
    (Double.finite (decide (n < 0)) m e canonical).exactly = n :=
  units_exact size

theorem ofInt?_exact {n : Int} (small : n.natAbs < 2 ^ 53) : ∃ x, ofInt? n = some x ∧ x.isFinite = true ∧ x.exactly = n := by
  obtain ⟨m, e, canonical, size⟩ := whole_magnitude small
  have rounded : ofUnits (decide (n < 0)) (n.natAbs * 2 ^ 1074) 1 = .finite (decide (n < 0)) m e canonical := by
    rw [← size]
    exact ofUnits_exact _ canonical
  have known : ofInt? n = some (.finite (decide (n < 0)) m e canonical) := congrArg bounded? rounded
  exact ⟨_, known, rfl, finite_exact canonical size⟩

end UploadRelay.Double
