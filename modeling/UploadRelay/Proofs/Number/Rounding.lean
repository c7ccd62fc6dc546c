import Mathlib.Tactic.Ring
import Mathlib.Tactic.NormNum
import UploadRelay.Number.Shortest
-- Rounding to floating numbers. The result depends on the quotient alone, a number in its
-- canonical form is its own rounding, and a decimal number may be written with any number of
-- zeros behind its digits. From this the digits that a number is written with read back.

namespace UploadRelay

theorem roundHalfEven_scaled (num den : Nat) {k : Nat} (positive : 0 < k) :
    roundHalfEven (num * k) (den * k) = roundHalfEven num den := by
  have quotient : num * k / (den * k) = num / den := Nat.mul_div_mul_right _ _ positive
  have remainder : num * k % (den * k) = num % den * k := Nat.mul_mod_mul_right _ _ _
  have below : 2 * (num % den * k) < den * k ↔ 2 * (num % den) < den := by
    rw [← Nat.mul_assoc]
    exact Nat.mul_lt_mul_right positive
  have above : den * k < 2 * (num % den * k) ↔ den < 2 * (num % den) := by
    rw [← Nat.mul_assoc]
    exact Nat.mul_lt_mul_right positive
  simp only [roundHalfEven, quotient, remainder, below, above]

theorem roundHalfEven_exact (n : Nat) {k : Nat} (positive : 0 < k) : roundHalfEven (n * k) k = n := by
  have scaled := roundHalfEven_scaled n 1 positive
  rwa [Nat.one_mul, roundHalfEven_one] at scaled

namespace Double

theorem ofUnits_scaled (negative : Bool) (num den : Nat) {k : Nat} (positive : 0 < k) :
    ofUnits negative (num * k) (den * k) = ofUnits negative num den := by
  have quotient : num * k / (den * k) = num / den := Nat.mul_div_mul_right _ _ positive
  have grid : den * k * 2 ^ (Nat.log2 (num / den) - 52) = den * 2 ^ (Nat.log2 (num / den) - 52) * k := by ring
  simp only [ofUnits, quotient, grid, roundHalfEven_scaled _ _ positive]

theorem pack_canonical (negative : Bool) {m e : Nat} (canonical : Canonical m e) :
    pack negative m e = .finite negative m e canonical := dif_pos canonical

theorem log2_magnitude {m e : Nat} (full : 2 ^ 52 ≤ m) (bound : m < 2 ^ 53) :
    Nat.log2 (magnitude m e) = 52 + e := by
  have nonzero : magnitude m e ≠ 0 := by
    have positive : 0 < m * 2 ^ e := Nat.mul_pos (by omega) (Nat.two_pow_pos e)
    exact Nat.ne_of_gt positive
  apply Nat.le_antisymm
  · apply Nat.le_of_lt_succ
    rw [Nat.log2_lt nonzero, magnitude, show (52 + e).succ = 53 + e by omega, Nat.pow_add]
    exact Nat.mul_lt_mul_of_pos_right bound (Nat.two_pow_pos e)
  · rw [Nat.le_log2 nonzero, magnitude, Nat.pow_add]
    exact Nat.mul_le_mul_right _ full

theorem ofUnits_exact (negative : Bool) {m e : Nat} (canonical : Canonical m e) :
    ofUnits negative (magnitude m e) 1 = .finite negative m e canonical := by
  obtain ⟨bound, top, least⟩ := canonical
  have exponent : Nat.log2 (magnitude m e) - 52 = e := by
    rcases least with zero | full
    · subst zero
      have small : Nat.log2 m ≤ 52 := by
        by_cases none : m = 0
        · simp [none]
        · exact Nat.le_of_lt_succ ((Nat.log2_lt none).mpr bound)
      rw [magnitude, Nat.pow_zero, Nat.mul_one]
      omega
    · rw [log2_magnitude full bound]
      omega
  have mantissa : roundHalfEven (magnitude m e) (1 * 2 ^ e) = m := by
    rw [Nat.one_mul]
    exact roundHalfEven_exact m (Nat.two_pow_pos e)
  simp only [ofUnits, Nat.div_one, exponent, mantissa]
  rw [if_neg (Nat.ne_of_lt bound)]
  exact pack_canonical negative ⟨bound, top, least⟩

theorem ofUnits_large (negative : Bool) {num den k : Nat} (past : 2098 ≤ k) (large : 2 ^ k ≤ num / den) :
    ofUnits negative num den = .infinity negative := by
  have nonzero : num / den ≠ 0 := by
    have positive := Nat.two_pow_pos k
    omega
  have top : k ≤ Nat.log2 (num / den) := (Nat.le_log2 nonzero).mpr large
  have outside : ∀ m e, 2046 ≤ e → pack negative m e = .infinity negative := by
    intro m e high
    exact dif_neg fun canonical => absurd canonical.2.1 (by omega)
  simp only [ofUnits]
  split
  · exact outside _ _ (by omega)
  · exact outside _ _ (by omega)

theorem ofUnits_small (negative : Bool) {num den : Nat} (small : 2 * num < den) :
    ofUnits negative num den = zero negative := by
  have quotient : num / den = 0 := Nat.div_eq_of_lt (by omega)
  have remainder : num % den = num := Nat.mod_eq_of_lt (by omega)
  have exponent : Nat.log2 0 - 52 = 0 := by decide
  have mantissa : roundHalfEven num (den * 2 ^ 0) = 0 := by
    simp only [Nat.pow_zero, Nat.mul_one, roundHalfEven, quotient, remainder, if_pos small]
  simp only [ofUnits, quotient, exponent, mantissa]
  exact pack_canonical negative (by decide)

theorem pack_negative {m e m' e' : Nat} {h : Canonical m' e'} {sign : Bool} (negative : Bool)
    (packed : pack false m e = .finite sign m' e' h) : pack negative m e = .finite negative m' e' h := by
  unfold pack at packed ⊢
  split at packed
  · cases packed
    exact dif_pos h
  · cases packed

theorem ofUnits_negative {num den m e : Nat} {h : Canonical m e} {sign : Bool} (negative : Bool)
    (rounded : ofUnits false num den = .finite sign m e h) :
    ofUnits negative num den = .finite negative m e h := by
  simp only [ofUnits] at rounded ⊢
  split at rounded
  · rename_i carry
    rw [if_pos carry]
    exact pack_negative negative rounded
  · rename_i plain
    rw [if_neg plain]
    exact pack_negative negative rounded

structure InRange (digits : Nat) (exponent : Int) : Prop where
  nonzero : digits ≠ 0
  below : exponent < 310
  above : -1100 ≤ (Nat.log2 digits : Int) + 3 * exponent

theorem tens_split (digits unit a b : Nat) : digits * 10 ^ (a + b) * unit = digits * 10 ^ a * unit * 10 ^ b := by
  rw [Nat.pow_add]
  ring

theorem tens_positive (k : Nat) : 0 < 10 ^ k := Nat.pow_pos (by decide)

theorem ofDecimal_inRange (negative : Bool) {digits : Nat} {exponent : Int} (range : InRange digits exponent)
    (shift : Nat) (enough : -exponent ≤ shift) :
    ofDecimal negative digits exponent =
      ofUnits negative (digits * 10 ^ (exponent + shift).toNat * 2 ^ 1074) (10 ^ shift) := by
  have below := range.below
  have above := range.above
  unfold ofDecimal
  rw [if_neg range.nonzero, if_neg (by omega), if_neg (by omega)]
  split
  · rename_i whole
    have power : (exponent + shift).toNat = exponent.toNat + shift := by omega
    rw [power, tens_split, ← ofUnits_scaled negative _ 1 (tens_positive shift), Nat.one_mul]
  · rename_i fractional
    obtain ⟨more, split⟩ : ∃ more : Nat, shift = (-exponent).toNat + more := ⟨shift - (-exponent).toNat, by omega⟩
    have power : (exponent + shift).toNat = 0 + more := by omega
    rw [power, tens_split, Nat.pow_zero, Nat.mul_one, split, Nat.pow_add, ofUnits_scaled negative _ _ (tens_positive more)]

theorem ofDecimal_negative {digits m e : Nat} {exponent : Int} {h : Canonical m e} {sign : Bool} (negative : Bool)
    (range : InRange digits exponent) (rounded : ofDecimal false digits exponent = .finite sign m e h) :
    ofDecimal negative digits exponent = .finite negative m e h := by
  have enough : -exponent ≤ ((-exponent).toNat : Int) := by omega
  rw [ofDecimal_inRange false range _ enough] at rounded
  rw [ofDecimal_inRange negative range _ enough]
  exact ofUnits_negative negative rounded

theorem inRange_of_finite {negative sign : Bool} {digits m e : Nat} {exponent : Int} {h : Canonical m e}
    (nonzero : m ≠ 0) (rounded : ofDecimal negative digits exponent = .finite sign m e h) :
    InRange digits exponent := by
  unfold ofDecimal at rounded
  split at rounded
  · cases rounded
    exact absurd rfl nonzero
  · rename_i some
    split at rounded
    · cases rounded
    · rename_i below
      split at rounded
      · cases rounded
        exact absurd rfl nonzero
      · rename_i above
        exact ⟨some, by omega, by omega⟩

theorem log2_times_ten {d : Nat} (nonzero : d ≠ 0) : Nat.log2 d + 3 ≤ Nat.log2 (d * 10) := by
  rw [Nat.le_log2 (by omega), Nat.pow_add]
  have least := Nat.log2_self_le nonzero
  omega

theorem InRange.shifted {d : Nat} {e : Int} (range : InRange d e) : InRange (d * 10) (e - 1) := by
  have more := log2_times_ten range.nonzero
  have nonzero := range.nonzero
  have below := range.below
  have above := range.above
  exact ⟨by omega, by omega, by omega⟩

theorem times_ten (d k : Nat) : d * 10 * 10 ^ k = d * 10 ^ (k + 1) := by
  rw [Nat.pow_succ, Nat.mul_comm (10 ^ k) 10, Nat.mul_assoc]

theorem ofDecimal_shifted (negative : Bool) {d : Nat} {e : Int} (range : InRange d e) :
    ofDecimal negative (d * 10) (e - 1) = ofDecimal negative d e := by
  have enough : -e ≤ ((-e).toNat + 1 : Nat) := by omega
  have enough' : -(e - 1) ≤ ((-e).toNat + 1 : Nat) := by omega
  rw [ofDecimal_inRange negative range _ enough, ofDecimal_inRange negative range.shifted _ enough']
  have power : (e + ((-e).toNat + 1 : Nat)).toNat = (e - 1 + ((-e).toNat + 1 : Nat)).toNat + 1 := by omega
  rw [power, times_ten]

theorem ofDecimal_zeros (negative : Bool) {d : Nat} {e : Int} (range : InRange d e) (count : Nat) :
    InRange (d * 10 ^ count) (e - count) ∧
      ofDecimal negative (d * 10 ^ count) (e - count) = ofDecimal negative d e := by
  induction count with
  | zero => simpa using range
  | succ count ih =>
    have digits : d * 10 ^ (count + 1) = d * 10 ^ count * 10 := by rw [Nat.pow_succ, Nat.mul_assoc]
    have exponent : e - (count + 1 : Nat) = e - count - 1 := by omega
    rw [digits, exponent, ofDecimal_shifted negative ih.1]
    exact ⟨ih.1.shifted, ih.2⟩

theorem tens_large : 2 ^ 1025 ≤ 10 ^ 310 := by
  have fifth : 2 ^ 205 ≤ 10 ^ 62 := by decide
  have whole := Nat.pow_le_pow_left fifth 5
  rwa [← Nat.pow_mul, ← Nat.pow_mul] at whole

theorem ofDecimal_high (negative : Bool) {d : Nat} {exponent : Int} (range : InRange (d * 10) exponent)
    (high : 310 ≤ exponent + 1) : ofDecimal negative (d * 10) exponent = .infinity negative := by
  have nonzero := range.nonzero
  have below := range.below
  have power : (exponent + (0 : Nat)).toNat = 309 := by omega
  rw [ofDecimal_inRange negative range 0 (by omega), power, times_ten, Nat.pow_zero]
  apply ofUnits_large negative (k := 1025 + 1074) (by decide)
  rw [Nat.div_one, Nat.pow_add]
  refine Nat.mul_le_mul_right _ (Nat.le_trans tens_large ?_)
  exact Nat.le_mul_of_pos_left _ (by omega)

theorem eight_tens (k : Nat) : 2 ^ (3 * k) ≤ 10 ^ k := by
  rw [Nat.pow_mul]
  exact Nat.pow_le_pow_left (by decide) k

theorem below_tens {d top unit places : Nat} (digits : d < top) (some : 0 < unit)
    (room : top * (unit * 2) ≤ 10 ^ places) : 2 * (d * 10 * unit) < 10 ^ (places + 1) := by
  have scaled : d * (unit * 2) < 10 ^ places :=
    Nat.lt_of_lt_of_le (Nat.mul_lt_mul_of_pos_right digits (by omega)) room
  have order : 2 * (d * 10 * unit) = d * (unit * 2) * 10 := by ring
  rw [order, Nat.pow_succ]
  exact Nat.mul_lt_mul_of_pos_right scaled (by decide)

theorem ofDecimal_low (negative : Bool) {d : Nat} {exponent : Int} (range : InRange (d * 10) exponent)
    (low : (Nat.log2 d : Int) + 3 * (exponent + 1) < -1100) :
    ofDecimal negative (d * 10) exponent = zero negative := by
  obtain ⟨places, shape⟩ : ∃ places : Nat, exponent = -((places + 1 : Nat) : Int) := ⟨(-exponent - 1).toNat, by omega⟩
  have power : (exponent + (places + 1 : Nat)).toNat = 0 := by omega
  have room : 2 ^ (Nat.log2 d + 1 + (1074 + 1)) ≤ 10 ^ places :=
    Nat.le_trans (Nat.pow_le_pow_right (by decide) (by omega)) (eight_tens places)
  rw [Nat.pow_add, Nat.pow_succ (m := 1074)] at room
  rw [ofDecimal_inRange negative range (places + 1) (by omega), power, Nat.pow_zero, Nat.mul_one]
  have some : 0 < 2 ^ 1074 := Nat.two_pow_pos 1074
  generalize 2 ^ 1074 = unit at room some ⊢
  exact ofUnits_small negative (below_tens Nat.lt_log2_self some room)

theorem InRange.unshifted {negative sign : Bool} {d m e : Nat} {exponent : Int} {h : Canonical m e} (nonzero : m ≠ 0)
    (rounded : ofDecimal negative (d * 10) exponent = .finite sign m e h) : InRange d (exponent + 1) := by
  have range := inRange_of_finite nonzero rounded
  refine ⟨?_, ?_, ?_⟩
  · intro zero
    exact range.nonzero (by rw [zero])
  · by_contra high
    rw [ofDecimal_high negative range (by omega)] at rounded
    cases rounded
  · by_contra low
    rw [ofDecimal_low negative range (by omega)] at rounded
    cases rounded
    exact nonzero rfl

end Double

namespace Shortest

open Double

-- Every number but zero is written with digits that read back as it.
def ReadsBack (m e : Nat) (w : Written) : Prop :=
  ∃ sign h, ofDecimal false w.digits w.exponent = .finite sign m e h

theorem log2_exact {m e : Nat} (nonzero : m ≠ 0) : 2148 ≤ Nat.log2 (m * 2 ^ e * 5 ^ 1074) := by
  have some : 0 < m * 2 ^ e := Nat.mul_pos (Nat.pos_of_ne_zero nonzero) (Nat.two_pow_pos e)
  have fives : 2 ^ (2 * 1074) ≤ 5 ^ 1074 := by
    rw [Nat.pow_mul]
    exact Nat.pow_le_pow_left (by decide) 1074
  have least : 2 ^ (2 * 1074) ≤ m * 2 ^ e * 5 ^ 1074 := Nat.le_trans fives (Nat.le_mul_of_pos_left _ some)
  refine (Nat.le_log2 ?_).mpr least
  exact Nat.ne_of_gt (Nat.lt_of_lt_of_le (Nat.two_pow_pos _) least)

theorem exact_readsBack {m e : Nat} (canonical : Canonical m e) (nonzero : m ≠ 0) : ReadsBack m e (exact m e) := by
  have top := log2_exact (e := e) nonzero
  have range : InRange (m * 2 ^ e * 5 ^ 1074) (-1074) := by
    refine ⟨?_, by decide, by omega⟩
    intro zero
    rw [zero] at top
    exact absurd top (by decide)
  have power : ((-1074 : Int) + (1074 : Nat)).toNat = 0 := by decide
  refine ⟨false, canonical, ?_⟩
  rw [exact, ofDecimal_inRange false range 1074 (by decide), power, Nat.pow_zero, Nat.mul_one,
    Nat.mul_assoc _ (5 ^ 1074), ← Nat.mul_pow, ← ofUnits_exact false canonical,
    ← ofUnits_scaled false (magnitude m e) 1 (tens_positive 1074), Nat.one_mul]
  rfl

theorem onGrid_readsBack {m e num den places : Nat} {readsBack : Nat → Int → Bool} {w : Written}
    (sound : ∀ digits exponent, readsBack digits exponent = true → ReadsBack m e ⟨digits, exponent⟩)
    (found : onGrid? num den readsBack places = some w) : ReadsBack m e w := by
  unfold onGrid? at found
  generalize point num den - (places : Int) = exponent at found
  generalize scaled num den exponent = parts at found
  obtain ⟨q, r, d⟩ := parts
  simp only at found
  split at found
  · rename_i both
    obtain ⟨below, above⟩ := Bool.and_eq_true_iff.mp both
    split at found
    · cases found
      exact sound _ _ below
    · cases found
      exact sound _ _ above
  · split at found
    · rename_i below
      cases found
      exact sound _ _ below
    · split at found
      · rename_i above
        cases found
        exact sound _ _ above
      · cases found

theorem dropZeros_readsBack {m e : Nat} (nonzero : m ≠ 0) (fuel : Nat) {w : Written} (reads : ReadsBack m e w) :
    ReadsBack m e (dropZeros fuel w) := by
  induction fuel generalizing w with
  | zero => exact reads
  | succ fuel ih =>
    rw [dropZeros]
    split
    · rename_i zero
      obtain ⟨sign, h, rounded⟩ := reads
      have digits : w.digits = w.digits / 10 * 10 := by omega
      rw [digits] at rounded
      have range := InRange.unshifted nonzero rounded
      have exponent : w.exponent = w.exponent + 1 - 1 := by omega
      rw [exponent, ofDecimal_shifted false range] at rounded
      exact ih ⟨sign, h, rounded⟩
    · exact reads

theorem ofFinite_readsBack {m e : Nat} (canonical : Canonical m e) (nonzero : m ≠ 0) : ReadsBack m e (ofFinite m e) := by
  unfold ofFinite
  simp only
  split
  · rename_i w found
    obtain ⟨i, -, onGrid⟩ := List.exists_of_findSome?_eq_some found
    refine dropZeros_readsBack nonzero 20 (onGrid_readsBack ?_ onGrid)
    intro digits exponent same
    split at same
    · rename_i sign m' e' h rounded
      obtain ⟨mantissa, power⟩ := Bool.and_eq_true_iff.mp same
      cases eq_of_beq mantissa
      cases eq_of_beq power
      exact ⟨sign, h, rounded⟩
    · cases same
  · exact exact_readsBack canonical nonzero

end Shortest

namespace Double

theorem ofFinite_reads (negative : Bool) {m e : Nat} (canonical : Canonical m e) (nonzero : m ≠ 0) :
    InRange (Shortest.ofFinite m e).digits (Shortest.ofFinite m e).exponent ∧
      ofDecimal negative (Shortest.ofFinite m e).digits (Shortest.ofFinite m e).exponent =
        .finite negative m e canonical := by
  obtain ⟨sign, h, rounded⟩ := Shortest.ofFinite_readsBack canonical nonzero
  have range := inRange_of_finite nonzero rounded
  exact ⟨range, ofDecimal_negative negative range rounded⟩

end Double

end UploadRelay
