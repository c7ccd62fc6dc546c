import Mathlib.Algebra.Order.Ring.Rat
import Mathlib.Tactic.Positivity
import UploadRelay.Proofs.Number.Exact
import UploadRelay.Retry.Policy
-- Waits on exact numbers. A wait stays between zero and the cap of its policy; below that it is
-- raised to what the backend asks for, and is else a share of the doubled base.

namespace UploadRelay.Retry

variable {p : Policy ℚ} {share : ℚ}

theorem least_exact (a b : ℚ) : Seconds.least a b = min a b := by
  rcases lt_or_ge b a with second | first
  · simp [Seconds.least, Seconds.less, second, min_eq_right second.le]
  · simp [Seconds.least, Seconds.less, first, not_lt.mpr first]

theorem greatest_exact (a b : ℚ) : Seconds.greatest a b = max a b := by
  rcases lt_or_ge a b with second | first
  · simp [Seconds.greatest, Seconds.less, second, max_eq_right second.le]
  · simp [Seconds.greatest, Seconds.less, first, not_lt.mpr first]

structure Natural (p : Policy ℚ) : Prop where
  retries : 0 ≤ p.maxRetries
  base : 0 ≤ p.backoffBase
  cap : 0 ≤ p.backoffMax

theorem natural_of_checked (accepted : p.checked = .ok p) : Natural p := by
  have none : p.negativeSetting? = none := by
    unfold Policy.checked at accepted
    split at accepted
    · cases accepted
    · assumption
  unfold Policy.negativeSetting? at none
  split at none
  · cases none
  · rename_i retries
    split at none
    · cases none
    · rename_i base
      split at none
      · cases none
      · rename_i cap
        refine ⟨Int.not_lt.mp retries, ?_, ?_⟩
        · simpa [Seconds.less, Seconds.ofInt] using base
        · simpa [Seconds.less, Seconds.ofInt] using cap

def drawn (p : Policy ℚ) (share : ℚ) (attempt : Nat) : ℚ := p.backoffBase * 2 ^ attempt * share

theorem drawn_nonneg (natural : Natural p) (least : 0 ≤ share) (attempt : Nat) : 0 ≤ drawn p share attempt := by
  have base := natural.base
  unfold drawn
  positivity

theorem drawn_le (natural : Natural p) (most : share ≤ 1) (attempt : Nat) :
    drawn p share attempt ≤ p.backoffBase * 2 ^ attempt := by
  have base := natural.base
  have ceiling : 0 ≤ p.backoffBase * 2 ^ attempt := by positivity
  unfold drawn
  exact mul_le_of_le_one_right ceiling most

theorem delay_exact (p : Policy ℚ) (share : ℚ) (attempt : Nat) (asked : Option ℚ) :
    delay p share attempt asked = .ok (settled p (drawn p share attempt) asked) := by
  have top : ceiling p (attempt : Int) = .ok (p.backoffBase * 2 ^ attempt) := by
    show Except.ok (p.backoffBase * (if (0 : Int) ≤ attempt then 2 ^ (attempt : Int).toNat else _)) = _
    rw [if_pos (Int.natCast_nonneg attempt), Int.toNat_natCast]
  have part : jittered share (p.backoffBase * 2 ^ attempt) = .ok (drawn p share attempt) := by
    show Except.ok (((0 : Int) : ℚ) + p.backoffBase * 2 ^ attempt * share) = _
    rw [Int.cast_zero, zero_add]
    rfl
  unfold delay
  rw [top]
  show (jittered share (p.backoffBase * 2 ^ attempt) >>= fun drawn => pure (settled p drawn asked)) = _
  rw [part]
  rfl

theorem settled_unheeded {asked : Option ℚ} (unheeded : asked = none ∨ p.respectRetryAfter = false) (seconds : ℚ) :
    settled p seconds asked = min seconds p.backoffMax := by
  unfold settled
  rcases unheeded with rfl | disregards
  · exact least_exact _ _
  · cases asked with
    | none => exact least_exact _ _
    | some wished => simp [disregards, least_exact]

theorem settled_heeded (respects : p.respectRetryAfter = true) (seconds wished : ℚ) :
    settled p seconds (some wished) = max (min seconds p.backoffMax) (min wished p.backoffMax) := by
  simp [settled, respects, least_exact, greatest_exact]

theorem settled_bounds (natural : Natural p) {seconds : ℚ} (least : 0 ≤ seconds) (asked : Option ℚ) :
    0 ≤ settled p seconds asked ∧ settled p seconds asked ≤ p.backoffMax := by
  have capped : 0 ≤ min seconds p.backoffMax := le_min least natural.cap
  have unraised : asked = none ∨ p.respectRetryAfter = false →
      0 ≤ settled p seconds asked ∧ settled p seconds asked ≤ p.backoffMax := by
    intro unheeded
    rw [settled_unheeded unheeded]
    exact ⟨capped, min_le_right _ _⟩
  cases respects : p.respectRetryAfter with
  | false => exact unraised (Or.inr respects)
  | true =>
    cases asked with
    | none => exact unraised (Or.inl rfl)
    | some wished =>
      rw [settled_heeded respects]
      exact ⟨le_max_of_le_left capped, max_le (min_le_right _ _) (min_le_right _ _)⟩

theorem settled_mono (p : Policy ℚ) (seconds : ℚ) {wished more : ℚ} (order : wished ≤ more) :
    settled p seconds (some wished) ≤ settled p seconds (some more) := by
  cases respects : p.respectRetryAfter with
  | false => rw [settled_unheeded (Or.inr respects), settled_unheeded (Or.inr respects)]
  | true =>
    rw [settled_heeded respects, settled_heeded respects]
    exact max_le_max le_rfl (min_le_min order le_rfl)

structure Within (p : Policy ℚ) (share : ℚ) (attempt : Nat) : Prop where
  bounded : ∀ asked, ∃ seconds, delay p share attempt asked = .ok seconds ∧ 0 ≤ seconds ∧ seconds ≤ p.backoffMax
  heeded : ∀ wished seconds, p.respectRetryAfter = true → delay p share attempt (some wished) = .ok seconds →
    min wished p.backoffMax ≤ seconds
  unheeded : ∀ asked seconds, (asked = none ∨ p.respectRetryAfter = false) → delay p share attempt asked = .ok seconds →
    seconds ≤ p.backoffBase * 2 ^ attempt
  indifferent : p.respectRetryAfter = false → ∀ asked other, delay p share attempt asked = delay p share attempt other
  monotone : ∀ wished more seconds longer, wished ≤ more → delay p share attempt (some wished) = .ok seconds →
    delay p share attempt (some more) = .ok longer → seconds ≤ longer

theorem delay_within (natural : Natural p) (least : 0 ≤ share) (most : share ≤ 1) (attempt : Nat) : Within p share attempt := by
  refine ⟨fun asked => ?bounded, fun wished seconds respects known => ?heeded, fun asked seconds unheeded known => ?unheeded,
    fun disregards asked other => ?indifferent, fun wished more seconds longer order known known' => ?monotone⟩
  case bounded => exact ⟨_, delay_exact p share attempt asked, settled_bounds natural (drawn_nonneg natural least attempt) asked⟩
  case heeded =>
    rw [delay_exact, settled_heeded respects] at known
    cases known
    exact le_max_right _ _
  case unheeded =>
    rw [delay_exact, settled_unheeded unheeded] at known
    cases known
    exact (min_le_left _ _).trans (drawn_le natural most attempt)
  case indifferent =>
    rw [delay_exact, delay_exact, settled_unheeded (Or.inr disregards), settled_unheeded (Or.inr disregards)]
  case monotone =>
    rw [delay_exact] at known known'
    cases known
    cases known'
    exact settled_mono p _ order

end UploadRelay.Retry
