import Mathlib.Algebra.Order.BigOperators.Group.List
import Mathlib.Algebra.Order.Ring.Nat
import UploadRelay.Calendar.Date
-- How far the calendar reaches: all of its times lie within some millions of days around the
-- beginning of 1970.

namespace UploadRelay.Calendar

theorem monthLength_le (year month : Nat) : monthLength year month ≤ 31 := by
  unfold monthLength
  split
  · split <;> omega
  all_goals omega

theorem daysBeforeMonth_le (year : Nat) {month : Nat} (within : month ≤ 12) : daysBeforeMonth year month ≤ 341 := by
  have each : ∀ days ∈ (List.range (month - 1)).map (fun i => monthLength year (i + 1)), days ≤ 31 := by
    intro days member
    obtain ⟨i, -, rfl⟩ := List.mem_map.mp member
    exact monthLength_le year (i + 1)
  have sum := List.sum_le_card_nsmul _ 31 each
  rw [List.length_map, List.length_range, nsmul_eq_mul, Nat.cast_id, List.sum_eq_foldl] at sum
  unfold daysBeforeMonth
  omega

theorem ordinal_le {d : Date} (valid : d.isValid = true) : d.ordinal ≤ 4000000 := by
  simp only [Date.isValid, Bool.and_eq_true, decide_eq_true_eq] at valid
  obtain ⟨⟨first, last, -, within, -⟩, day⟩ := valid
  have days := monthLength_le d.year d.month
  have months := daysBeforeMonth_le d.year within
  unfold Date.ordinal daysBeforeYear
  simp only
  omega

theorem seconds_lt {t : Time} (valid : t.isValid = true) : t.seconds < 86400 := by
  simp only [Time.isValid, decide_eq_true_eq] at valid
  unfold Time.seconds
  omega

theorem unixSeconds_bounds {d : Date} {t : Time} (date : d.isValid = true) (time : t.isValid = true) :
    -63000000000 < unixSeconds d t ∧ unixSeconds d t < 290000000000 := by
  have days := ordinal_le date
  have rest := seconds_lt time
  unfold unixSeconds epochOrdinal
  omega

-- The times that the present can be: within a second of the calendar.
def Present (now : Moment) : Prop :=
  ∃ d t, d.isValid = true ∧ t.isValid = true ∧ unixSeconds d t = now.millionths / 1000000

theorem yearOf_bounds (fuel year day : Nat) : year ≤ (yearOf fuel year day).1 ∧ (yearOf fuel year day).1 ≤ year + fuel := by
  induction fuel generalizing year day with
  | zero => exact ⟨Nat.le_refl _, Nat.le_refl _⟩
  | succ fuel ih =>
    rw [yearOf]
    generalize (if isLeap year then 366 else 365) = length
    have next := ih (year + 1) (day - length)
    by_cases longer : length < day
    · simp only [if_pos longer]
      omega
    · simp only [if_neg longer]
      omega

theorem ofOrdinal_year {n : Nat} (first : 1 ≤ n) (last : n ≤ 146097) : 1 ≤ (Date.ofOrdinal n).year ∧ (Date.ofOrdinal n).year ≤ 401 := by
  have none : (n - 1) / 146097 = 0 := Nat.div_eq_of_lt (by omega)
  have bounds := yearOf_bounds 400 1 ((n - 1) % 146097 + 1)
  unfold Date.ofOrdinal
  simp only [none, Nat.mul_zero, Nat.zero_add]
  exact bounds

theorem yearAt_bounds {s : Int} (late : -1000000000000 ≤ s) (early : s ≤ 1000000000000) :
    -40000 ≤ yearAt s ∧ yearAt s ≤ 40000 := by
  unfold yearAt dayOf
  simp only
  have year := @ofOrdinal_year (((s / 86400 + (epochOrdinal : Int) - 1) % 146097).toNat + 1) (by omega) (by omega)
  simp only [epochOrdinal] at year ⊢
  omega

end UploadRelay.Calendar
