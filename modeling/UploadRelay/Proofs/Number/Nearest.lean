import Mathlib.Tactic.FieldSimp
import Mathlib.Tactic.Linarith
import UploadRelay.Proofs.Number.Exact
-- Rounding to floating numbers takes the nearest one. A mantissa is the whole number nearest to the quotient on its
-- grid; numbers on a finer grid are smaller than all that this grid is chosen for.

namespace UploadRelay

theorem roundHalfEven_bounds (num den : Nat) : num / den ≤ roundHalfEven num den ∧ roundHalfEven num den ≤ num / den + 1 := by
  unfold roundHalfEven
  simp only
  split
  · omega
  · split
    · omega
    · split <;> omega

theorem roundHalfEven_half (num : Nat) {den : Nat} (positive : 0 < den) :
    2 * |(roundHalfEven num den : ℤ) * den - num| ≤ den := by
  have parts : (num : ℤ) = (num / den : Nat) * (den : ℤ) + (num % den : Nat) := by
    exact_mod_cast (Nat.div_add_mod' num den).symm
  have rest := Nat.mod_lt num positive
  unfold roundHalfEven
  simp only
  generalize num / den = q at parts ⊢
  generalize num % den = r at parts rest ⊢
  have below : (q : ℤ) * den - num = -r := by rw [parts]; ring
  have above : ((q + 1 : Nat) : ℤ) * den - num = den - r := by rw [parts]; push_cast; ring
  split
  · rw [below, abs_neg, abs_of_nonneg (by omega)]
    omega
  · split
    · rw [above, abs_of_nonneg (by omega)]
      omega
    · split
      · rw [below, abs_neg, abs_of_nonneg (by omega)]
        omega
      · rw [above, abs_of_nonneg (by omega)]
        omega

-- No whole number is nearer to a quotient than the one it is rounded to.
theorem roundHalfEven_nearest (num : Nat) {den : Nat} (positive : 0 < den) (k : ℤ) :
    |(roundHalfEven num den : ℤ) * den - num| ≤ |k * den - num| := by
  have half := roundHalfEven_half num positive
  generalize (roundHalfEven num den : ℤ) = n at half ⊢
  by_cases same : k = n
  · rw [same]
  · have apart : 1 ≤ |k - n| := Int.one_le_abs (sub_ne_zero.mpr same)
    have step : (den : ℤ) ≤ |k * den - num| + |n * den - num| := by
      calc (den : ℤ) = 1 * den := (one_mul _).symm
        _ ≤ |k - n| * den := mul_le_mul_of_nonneg_right apart (by omega)
        _ = |(k - n) * den| := by rw [abs_mul, Nat.abs_cast]
        _ = |(k * den - num) - (n * den - num)| := by congr 1; ring
        _ ≤ |k * den - num| + |n * den - num| := abs_sub _ _
    linarith

namespace Double

theorem pack_finite {negative sign : Bool} {m e m' e' : Nat} {h : Canonical m' e'}
    (packed : pack negative m e = .finite sign m' e' h) : m' = m ∧ e' = e := by
  unfold pack at packed
  split at packed
  · cases packed
    exact ⟨rfl, rfl⟩
  · cases packed

-- How far the places of a quotient are shifted, so that its mantissa has 53 of them.
def shift (num den : Nat) : Nat := Nat.log2 (num / den) - 52

theorem magnitude_ofUnits {negative sign : Bool} {num den m e : Nat} {h : Canonical m e}
    (rounded : ofUnits negative num den = .finite sign m e h) :
    magnitude m e = roundHalfEven num (den * 2 ^ shift num den) * 2 ^ shift num den := by
  unfold ofUnits at rounded
  simp only at rounded
  split at rounded
  · rename_i carry
    obtain ⟨rfl, rfl⟩ := pack_finite rounded
    rw [shift, carry, magnitude]
    ring
  · obtain ⟨rfl, rfl⟩ := pack_finite rounded
    rfl

theorem shift_least {num den : Nat} (shifted : 0 < shift num den) : 2 ^ 52 * 2 ^ shift num den ≤ num / den := by
  have top : 52 + shift num den = Nat.log2 (num / den) := by
    unfold shift at shifted ⊢
    omega
  have some : num / den ≠ 0 := by
    intro none
    rw [shift, none] at shifted
    exact absurd shifted (by decide)
  rw [← Nat.pow_add, top]
  exact Nat.log2_self_le some

theorem shift_most (num den : Nat) : num / den < 2 ^ 53 * 2 ^ shift num den := by
  have below : num / den < 2 ^ (Nat.log2 (num / den) + 1) := Nat.lt_log2_self
  rw [← Nat.pow_add]
  exact Nat.lt_of_lt_of_le below (Nat.pow_le_pow_right (by decide) (by unfold shift; omega))

theorem ofUnits_nearest {negative sign : Bool} {num den m e m' e' : Nat} {h : Canonical m e} (positive : 0 < den)
    (rounded : ofUnits negative num den = .finite sign m e h) (canonical : Canonical m' e') :
    |(magnitude m e : ℤ) * den - num| ≤ |(magnitude m' e' : ℤ) * den - num| := by
  -- Nothing on the grid is nearer.
  have grid : ∀ k : ℤ, |(magnitude m e : ℤ) * den - num| ≤ |k * 2 ^ shift num den * den - num| := by
    intro k
    have nearest := roundHalfEven_nearest num (Nat.mul_pos positive (Nat.two_pow_pos (shift num den))) k
    rw [magnitude_ofUnits rounded]
    push_cast at nearest ⊢
    rwa [mul_right_comm _ _ (den : ℤ), mul_assoc, mul_right_comm k, mul_assoc k]
  by_cases onGrid : shift num den ≤ e'
  · obtain ⟨more, rfl⟩ := Nat.exists_eq_add_of_le' onGrid
    have near := grid (m' * 2 ^ more)
    rwa [mul_assoc (m' : ℤ), ← pow_add, show (m' : ℤ) * 2 ^ (more + shift num den) = (magnitude m' (more + shift num den) : ℤ) by
      rw [magnitude]; push_cast; rfl] at near
  · -- On a finer grid all numbers lie below the least one that this grid is chosen for, and that lies below the quotient.
    have below : magnitude m' e' ≤ 2 ^ 52 * 2 ^ shift num den := by
      calc magnitude m' e' ≤ 2 ^ 53 * 2 ^ e' := Nat.mul_le_mul_right _ canonical.1.le
        _ = 2 ^ 52 * 2 ^ (e' + 1) := by ring
        _ ≤ 2 ^ 52 * 2 ^ shift num den := Nat.mul_le_mul_left _ (Nat.pow_le_pow_right (by decide) (by omega))
    have least : 2 ^ 52 * 2 ^ shift num den * den ≤ num :=
      (Nat.le_div_iff_mul_le positive).mp (shift_least (by omega))
    have least' : (2 ^ 52 : ℤ) * 2 ^ shift num den * den ≤ num := by exact_mod_cast least
    have below' : (magnitude m' e' : ℤ) * den ≤ 2 ^ 52 * 2 ^ shift num den * den := by
      exact_mod_cast Nat.mul_le_mul_right den below
    have near := grid (2 ^ 52)
    rw [abs_of_nonpos (sub_nonpos.mpr least')] at near
    rw [abs_of_nonpos (sub_nonpos.mpr (below'.trans least'))]
    linarith

theorem ofUnits_finite (negative : Bool) {num den : Nat} (small : num / den < 2 ^ 2097) :
    ∃ m e h, ofUnits negative num den = .finite negative m e h := by
  have room : shift num den ≤ 2044 := by
    by_cases none : num / den = 0
    · rw [shift, none]
      decide
    · have top := (Nat.log2_lt none).mpr small
      unfold shift
      omega
  have unit : num / (den * 2 ^ shift num den) = num / den / 2 ^ shift num den := (Nat.div_div_eq_div_mul _ _ _).symm
  obtain ⟨least, most⟩ := roundHalfEven_bounds num (den * 2 ^ shift num den)
  have full : num / den / 2 ^ shift num den < 2 ^ 53 :=
    (Nat.div_lt_iff_lt_mul (Nat.two_pow_pos _)).mpr (shift_most num den)
  have filled : shift num den = 0 ∨ 2 ^ 52 ≤ num / den / 2 ^ shift num den := by
    by_cases unshifted : shift num den = 0
    · exact Or.inl unshifted
    · exact Or.inr ((Nat.le_div_iff_mul_le (Nat.two_pow_pos _)).mpr (shift_least (Nat.pos_of_ne_zero unshifted)))
  rw [unit] at least most
  unfold ofUnits
  simp only
  rw [show Nat.log2 (num / den) - 52 = shift num den from rfl]
  generalize roundHalfEven num (den * 2 ^ shift num den) = m at least most ⊢
  split
  · have canonical : Canonical (2 ^ 52) (shift num den + 1) := ⟨by decide, by omega, Or.inr le_rfl⟩
    exact ⟨_, _, canonical, pack_canonical negative canonical⟩
  · have canonical : Canonical m (shift num den) := ⟨by omega, by omega, filled.imp_right (le_trans · least)⟩
    exact ⟨_, _, canonical, pack_canonical negative canonical⟩

def Nearest (x : Double) (q : ℚ) : Prop := ∀ y : Double, y.isFinite = true → |x.exactly - q| ≤ |y.exactly - q|

theorem Nearest.exact {x y : Double} {q : ℚ} (nearest : x.Nearest q) (finite : y.isFinite = true) (value : y.exactly = q) :
    x.exactly = q := by
  have none := nearest y finite
  rw [value, sub_self, abs_zero] at none
  exact sub_eq_zero.mp (abs_nonpos_iff.mp none)

theorem exactly_finite (negative : Bool) {m e : Nat} (canonical : Canonical m e) :
    (Double.finite negative m e canonical).exactly = (if negative then -1 else 1) * (magnitude m e : ℚ) / 2 ^ 1074 := by
  cases negative <;> simp [exactly, units]

theorem distance_units (m e num : Nat) {den : Nat} (positive : 0 < den) :
    |(magnitude m e : ℚ) / 2 ^ 1074 - num / den / 2 ^ 1074| =
      ((|(magnitude m e : ℤ) * den - num| : ℤ) : ℚ) / (den * 2 ^ 1074) := by
  have scale : (0 : ℚ) < den := by exact_mod_cast positive
  have places : (0 : ℚ) < 2 ^ 1074 := by positivity
  generalize (2 : ℚ) ^ 1074 = unit at places ⊢
  have common : (magnitude m e : ℚ) / unit - num / den / unit = ((magnitude m e : ℚ) * den - num) / (den * unit) := by
    field_simp
  rw [common, abs_div, abs_of_pos (mul_pos scale places)]
  push_cast
  rfl

theorem nearest_ofUnits {num den m e : Nat} {h : Canonical m e} (positive : 0 < den)
    (rounded : ofUnits false num den = .finite false m e h) : Nearest (.finite false m e h) (num / den / 2 ^ 1074) := by
  have near : ∀ m' e', Canonical m' e' → |(magnitude m e : ℚ) / 2 ^ 1074 - num / den / 2 ^ 1074| ≤
      |(magnitude m' e' : ℚ) / 2 ^ 1074 - num / den / 2 ^ 1074| := by
    intro m' e' canonical
    rw [distance_units m e num positive, distance_units m' e' num positive]
    have whole := ofUnits_nearest positive rounded canonical
    exact div_le_div_of_nonneg_right (by exact_mod_cast whole) (by positivity)
  have places : (0 : ℚ) < 2 ^ 1074 := by positivity
  intro y finite
  cases y with
  | nan => cases finite
  | infinity negative => cases finite
  | finite negative m' e' canonical =>
    rw [exactly_finite, exactly_finite]
    generalize (2 : ℚ) ^ 1074 = unit at places near ⊢
    cases negative with
    | false =>
      simp only [Bool.false_eq_true, if_false, one_mul]
      exact near m' e' canonical
    | true =>
      -- Seen from the quotient it lies behind zero.
      have zero := near 0 0 (by decide)
      have quotient : (0 : ℚ) ≤ num / den / unit := by positivity
      have size : (0 : ℚ) ≤ (magnitude m' e' : ℚ) / unit := by positivity
      have behind : -1 * (magnitude m' e' : ℚ) / unit = -((magnitude m' e' : ℚ) / unit) := by ring
      simp only [Bool.false_eq_true, if_false, if_true, one_mul, behind]
      rw [show magnitude 0 0 = 0 from rfl, Nat.cast_zero, zero_div, zero_sub, abs_neg, abs_of_nonneg quotient] at zero
      refine zero.trans ?_
      rw [abs_of_nonpos (by linarith)]
      linarith

theorem nearest_zero : Nearest (zero false) 0 := by
  intro y _
  have value : (zero false).exactly = 0 := finite_exact (n := 0) (by decide) (by rw [magnitude, Nat.zero_mul, Int.natAbs_zero, Nat.zero_mul])
  rw [value, sub_zero, abs_zero]
  exact abs_nonneg _

theorem nearest_quotient {n den : Nat} (some : 0 < den) (small : n * 2 ^ 1074 / den < 2 ^ 2097) :
    (ofUnits false (n * 2 ^ 1074) den).isFinite = true ∧ Nearest (ofUnits false (n * 2 ^ 1074) den) (n / den) := by
  obtain ⟨m, e, h, rounded⟩ := ofUnits_finite false small
  have nearest := nearest_ofUnits some rounded
  have value : ((n * 2 ^ 1074 : Nat) : ℚ) / den / 2 ^ 1074 = n / den := by
    have places : (2 : ℚ) ^ 1074 ≠ 0 := by positivity
    rw [Nat.cast_mul, Nat.cast_pow, Nat.cast_ofNat]
    generalize (2 : ℚ) ^ 1074 = unit at places ⊢
    field_simp
  rw [value] at nearest
  rw [rounded]
  exact ⟨rfl, nearest⟩

theorem mul_two_pow_lt {n a b c : Nat} (small : n < 2 ^ a) (room : a + b ≤ c) : n * 2 ^ b < 2 ^ c := by
  calc n * 2 ^ b < 2 ^ a * 2 ^ b := Nat.mul_lt_mul_of_pos_right small (Nat.two_pow_pos b)
    _ = 2 ^ (a + b) := (Nat.pow_add 2 a b).symm
    _ ≤ 2 ^ c := Nat.pow_le_pow_right (by decide) room

-- Decimal numbers of so many millionths.
theorem ofDecimal_millionths {n : Nat} (small : n < 2 ^ 64) :
    (ofDecimal false n (-6)).isFinite = true ∧ Nearest (ofDecimal false n (-6)) (n / 10 ^ 6) := by
  unfold ofDecimal
  by_cases none : n = 0
  · rw [if_pos none, none, Nat.cast_zero, zero_div]
    exact ⟨rfl, nearest_zero⟩
  · rw [if_neg none, if_neg (by decide), if_neg (by omega), if_neg (by decide)]
    have bound : n * 2 ^ 1074 / 10 ^ 6 < 2 ^ 2097 :=
      Nat.lt_of_le_of_lt (Nat.div_le_self _ _) (mul_two_pow_lt small (by decide))
    have nearest := nearest_quotient (by decide) bound
    rw [Nat.cast_pow, Nat.cast_ofNat] at nearest
    exact nearest

end Double

end UploadRelay
