import Mathlib.Algebra.Order.BigOperators.Group.List
import UploadRelay.Proofs.Backend.Retrying
import UploadRelay.Proofs.Retry.Delays
-- The waits of a whole run under a policy: never more of them than there are retries, and
-- together no more than so many caps.

namespace UploadRelay.Backend

open Work

variable {p : Retry.Policy ℚ}

def FairShares (s : Site ℚ) : Prop := ∀ share ∈ s.shares, 0 ≤ share ∧ share ≤ 1

theorem FairShares.next {s : Site ℚ} (fair : FairShares s) :
    0 ≤ s.shares.headD Seconds.half ∧ s.shares.headD Seconds.half ≤ 1 := by
  cases shares : s.shares with
  | nil => decide +kernel
  | cons share rest => exact fair share (by simp [shares])

def Waited (p : Retry.Policy ℚ) (count : Nat) (s s' : Site ℚ) : Prop :=
  ∃ waits, s'.delays = s.delays ++ waits ∧ waits.length ≤ count ∧ ∀ seconds ∈ waits, 0 ≤ seconds ∧ seconds ≤ p.backoffMax

theorem waited_still {s s' : Site ℚ} (same : s'.delays = s.delays) (count : Nat) : Waited p count s s' :=
  ⟨[], by simp [same], Nat.zero_le count, by simp⟩

theorem Waited.more {count : Nat} {a b c : Site ℚ} {seconds : ℚ} (first : b.delays = a.delays ++ [seconds])
    (within : 0 ≤ seconds ∧ seconds ≤ p.backoffMax) (rest : Waited p count b c) : Waited p (count + 1) a c := by
  obtain ⟨waits, delays, few, each⟩ := rest
  refine ⟨seconds :: waits, ?_, ?_, ?_⟩
  · rw [delays, first, List.append_assoc]
    rfl
  · simpa using few
  · exact List.forall_mem_cons.mpr ⟨within, each⟩

theorem pause_waits (natural : Retry.Natural p) (m : Message) (attempt : Nat) (what : Text) (wished : Option ℚ)
    {s : Site ℚ} (fair : FairShares s) :
    ∃ seconds, 0 ≤ seconds ∧ seconds ≤ p.backoffMax ∧
      pause p m attempt what wished s = (.ok (), afterPause p m attempt what seconds s) := by
  obtain ⟨least, most⟩ := fair.next
  obtain ⟨seconds, known, bounds⟩ := (Retry.delay_within natural least most attempt).bounded wished
  exact ⟨seconds, bounds.1, bounds.2, pause_run known m what⟩

theorem FairShares.paused {s : Site ℚ} (fair : FairShares s) (m : Message) (attempt : Int) (what : Text) (seconds : ℚ) :
    FairShares (afterPause p m attempt what seconds s) := fun share member => fair share (List.mem_of_mem_tail member)

theorem FairShares.tried {s : Site ℚ} (fair : FairShares s) (m : Message) : FairShares (afterTry m s) := by
  unfold FairShares
  rw [(afterTry_keeps m s).2.1]
  exact fair

theorem attempts_waited (natural : Retry.Natural p) (m : Message) (remaining attempt : Nat) {s : Site ℚ}
    (fair : FairShares s) : Waited p remaining s (attempts p m remaining attempt s).2 := by
  induction remaining generalizing attempt s with
  | zero =>
    have kept := (afterTry_keeps m s).2.2
    unfold attempts
    rw [bind_run, attempt_run, post_run]
    cases outcomeAt m s 0 with
    | error fault => exact waited_still kept 0
    | ok reply =>
      simp only
      split
      · exact waited_still kept 0
      · simp only [bind_run, askedBy_run]
        cases asked (afterTry m s).now reply <;> exact waited_still kept 0
  | succ remaining ih =>
    have kept := (afterTry_keeps m s).2.2
    -- A pause behind the post, and then what the attempts that remain do.
    have again : ∀ what wished, Waited p (remaining + 1) s
        ((pause p m attempt what wished >>= fun _ => attempts p m remaining ((attempt : Int) + 1)) (afterTry m s)).2 := by
      intro what wished
      obtain ⟨seconds, least, most, run⟩ := pause_waits natural m attempt what wished (fair.tried m)
      rw [bind_run, run]
      have rest := ih (attempt + 1) ((fair.tried m).paused (p := p) m attempt what seconds)
      refine Waited.more ?_ ⟨least, most⟩ rest
      show (afterTry m s).delays ++ [seconds] = s.delays ++ [seconds]
      rw [kept]
    unfold attempts
    rw [bind_run, attempt_run, post_run]
    cases outcomeAt m s 0 with
    | error fault =>
      simp only
      split
      · exact again _ _
      · exact waited_still kept _
    | ok reply =>
      simp only
      split
      · exact waited_still kept _
      · rw [bind_run, askedBy_run]
        cases asked (afterTry m s).now reply with
        | error fault => exact waited_still kept _
        | ok wished => exact again _ _

-- What a policy promises: every single wait keeps to it, and all the waits of a run together do.
structure KeepsTime (p : Retry.Policy ℚ) : Prop where
  delays : ∀ share attempt, 0 ≤ share → share ≤ 1 → Retry.Within p share attempt
  runs : ∀ m s, FairShares s → ∃ waits, (send (some p) m s).2.delays = s.delays ++ waits ∧
    (waits.length : Int) ≤ p.maxRetries ∧ (∀ seconds ∈ waits, 0 ≤ seconds ∧ seconds ≤ p.backoffMax) ∧
    waits.sum ≤ p.maxRetries * p.backoffMax

theorem checked_keeps_time (accepted : p.checked = .ok p) : KeepsTime p := by
  have natural := Retry.natural_of_checked accepted
  refine ⟨fun share attempt least most => Retry.delay_within natural least most attempt, fun m s fair => ?_⟩
  obtain ⟨waits, delays, few, each⟩ := attempts_waited natural m p.maxRetries.toNat 0 fair
  have retries := natural.retries
  have count : (waits.length : Int) ≤ p.maxRetries := by omega
  refine ⟨waits, delays, count, each, ?_⟩
  calc waits.sum ≤ waits.length • p.backoffMax := List.sum_le_card_nsmul waits p.backoffMax fun seconds member => (each seconds member).2
    _ = waits.length * p.backoffMax := nsmul_eq_mul _ _
    _ ≤ p.maxRetries * p.backoffMax := mul_le_mul_of_nonneg_right (by exact_mod_cast count) natural.cap

def impatientSite : Site ℚ :=
  { Site.new .empty 0 0 (fun _ => "k3") with
    shares := [1, 1 / 4]
    turns := [⟨false, .reply ⟨503, [], [("Retry-After", "100")]⟩⟩, ⟨false, .reply ⟨503, [], [("Retry-After", "-3")]⟩⟩] }

def cappedPolicy : Retry.Policy ℚ :=
  { (Retry.Policy.standard 2 : Retry.Policy ℚ) with backoffBase := 1, backoffMax := 5 }

theorem impatientSite_delays :
    cappedPolicy.checked = .ok cappedPolicy ∧ FairShares impatientSite ∧
      (send (some cappedPolicy) flakyMessage impatientSite).2.delays = [5, 1 / 2] ∧
      KeepsTime cappedPolicy := by
  have natural : cappedPolicy.negativeSetting? = none := by decide +kernel
  have accepted : cappedPolicy.checked = .ok cappedPolicy := by
    rw [Retry.Policy.checked, natural]
  have fair : ∀ share ∈ impatientSite.shares, 0 ≤ share ∧ share ≤ 1 := by decide +kernel
  exact ⟨accepted, fair, by decide +kernel, checked_keeps_time accepted⟩

end UploadRelay.Backend
