import Mathlib.Data.List.TakeDrop
import UploadRelay.Number.Decimal
-- Decimal numerals: digits only, no zero in front, and the number that they read as. What
-- stands behind a numeral is found by the first character that is no digit.

namespace UploadRelay.Text

open CodePoint

theorem ofNat_small {n : Nat} (small : n < 10) : ofNat n = [CodePoint.ofNat (48 + n)] := by
  have numeral : Nat.toDigits 10 n = [n.digitChar] := Nat.toDigits_of_lt_base small
  have char : CodePoint.ofChar n.digitChar = CodePoint.ofNat (48 + n) := by
    revert n; decide
  rw [ofNat, numeral, List.map_cons, char]
  rfl

theorem ofNat_large {n : Nat} (large : 10 ≤ n) :
    ofNat n = ofNat (n / 10) ++ [CodePoint.ofNat (48 + n % 10)] := by
  have numeral := Nat.toDigits_of_base_le (b := 10) (by decide) large
  have last := ofNat_small (Nat.mod_lt n (by decide : 0 < 10))
  rw [ofNat, Nat.toDigits_of_lt_base (Nat.mod_lt n (by decide : 0 < 10))] at last
  rw [ofNat, numeral, List.map_append, ← last]
  rfl

-- Induction along the digits of a number, the last one taken off first.
theorem numeral_induction {P : Nat → Prop} (small : ∀ n, n < 10 → P n)
    (large : ∀ n, 10 ≤ n → P (n / 10) → P n) (n : Nat) : P n := by
  induction n using Nat.strongRecOn with
  | ind n ih =>
    by_cases bound : n < 10
    · exact small n bound
    · exact large n (Nat.le_of_not_lt bound) (ih (n / 10) (by omega))

theorem digit_isDigit {d : Nat} (small : d < 10) : (CodePoint.ofNat (48 + d)).isDigit = true := by
  revert d; decide

theorem digit_val {d : Nat} (small : d < 10) : (CodePoint.ofNat (48 + d)).val = 48 + d := by
  revert d; decide

def AllDigits (t : Text) : Prop := ∀ c ∈ t, c.isDigit = true

theorem AllDigits.append {s t : Text} (front : AllDigits s) (back : AllDigits t) : AllDigits (s ++ t) := by
  intro c member
  rcases List.mem_append.mp member with here | there
  · exact front c here
  · exact back c there

theorem ofNat_allDigits (n : Nat) : AllDigits (ofNat n) := by
  induction n using numeral_induction with
  | small n bound =>
    rw [ofNat_small bound]
    intro c member
    rw [List.mem_singleton.mp member]
    exact digit_isDigit bound
  | large n bound ih =>
    rw [ofNat_large bound]
    apply ih.append
    intro c member
    rw [List.mem_singleton.mp member]
    exact digit_isDigit (Nat.mod_lt n (by decide))

theorem ofNat_ne_nil (n : Nat) : ofNat n ≠ [] := by
  intro empty
  exact Nat.toDigits_ne_nil (List.map_eq_nil_iff.mp empty)

theorem digitsValue_ofNat (n : Nat) : digitsValue (ofNat n) = n := by
  induction n using numeral_induction with
  | small n bound => rw [ofNat_small bound]; simp [digitsValue, digit_val bound]
  | large n bound ih =>
    have last : n % 10 < 10 := Nat.mod_lt n (by decide)
    rw [ofNat_large bound, digitsValue_append, ih]
    simp only [digitsValue, List.foldl_cons, List.foldl_nil, digit_val last, List.length_singleton]
    omega

theorem ofNat_head {n : Nat} (positive : n ≠ 0) : ∃ c rest, ofNat n = c :: rest ∧ c.isDigit = true ∧ c.val ≠ 48 := by
  induction n using numeral_induction with
  | small n bound =>
    refine ⟨_, [], ofNat_small bound, digit_isDigit bound, ?_⟩
    rw [digit_val bound]
    omega
  | large n bound ih =>
    obtain ⟨c, rest, front, digit, nonzero⟩ := ih (by omega)
    exact ⟨c, rest ++ [CodePoint.ofNat (48 + n % 10)], by rw [ofNat_large bound, front]; rfl, digit, nonzero⟩

theorem ofNat_zero : ofNat 0 = [CodePoint.ofNat 48] := ofNat_small (by decide)

theorem ofNat_injective {m n : Nat} (same : ofNat m = ofNat n) : m = n := by
  rw [← digitsValue_ofNat m, same, digitsValue_ofNat]

theorem digitsValue_zeros (count : Nat) (t : Text) :
    digitsValue (List.replicate count (CodePoint.ofChar '0') ++ t) = digitsValue t := by
  induction count with
  | zero => rfl
  | succ count ih =>
    have zero : (CodePoint.ofChar '0').val = 48 := rfl
    simpa [digitsValue, List.replicate_succ, zero] using ih

theorem replicate_zero_allDigits (count : Nat) : AllDigits (List.replicate count (CodePoint.ofChar '0')) := by
  intro c member
  rw [List.eq_of_mem_replicate member]
  decide

theorem digitsValue_behindZeros (count : Nat) (t : Text) :
    digitsValue (t ++ List.replicate count (CodePoint.ofChar '0')) = digitsValue t * 10 ^ count := by
  have zeros := digitsValue_zeros count []
  rw [List.append_nil] at zeros
  rw [digitsValue_append, zeros, List.length_replicate]
  rfl

theorem padded_allDigits (width n : Nat) : AllDigits (padded width n) :=
  (replicate_zero_allDigits _).append (ofNat_allDigits n)

theorem digitsValue_padded (width n : Nat) : digitsValue (padded width n) = n := by
  rw [padded, digitsValue_zeros, digitsValue_ofNat]

theorem padded_ne_nil (width n : Nat) : padded width n ≠ [] := by
  intro empty
  exact ofNat_ne_nil n (List.append_eq_nil_iff.mp empty).2

def StopsDigits (rest : Text) : Prop := ∀ c, rest.head? = some c → c.isDigit = false

theorem span_digits {digits rest : Text} (all : AllDigits digits) (stops : StopsDigits rest) :
    Decimal.span (digits ++ rest) = (digits, rest) := by
  rw [Decimal.span, List.span_eq_takeWhile_dropWhile]
  have behind : rest.takeWhile CodePoint.isDigit = [] ∧ rest.dropWhile CodePoint.isDigit = rest := by
    cases rest with
    | nil => exact ⟨rfl, rfl⟩
    | cons c rest => simp [stops c rfl]
  rw [List.takeWhile_append_of_pos all, List.dropWhile_append_of_pos all, behind.1, behind.2, List.append_nil]

end UploadRelay.Text
