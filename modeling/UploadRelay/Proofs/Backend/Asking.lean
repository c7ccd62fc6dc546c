import Mathlib.Tactic.Choose
import UploadRelay.Proofs.Backend.Retrying
import UploadRelay.Proofs.Retry.Asking
import UploadRelay.Proofs.Retry.Delays
-- What becomes of a run when a reply worth another attempt asks for a wait: whatever it asks for, the
-- run goes on or is given up as it would without that, except for the values that nothing is made of.

namespace UploadRelay.Backend

open Work

variable {N : Type}

def AsksFor (p : Retry.Policy N) (m : Message) (s : Site N) (i : Nat) (value : Text) : Prop :=
  ∃ reply, outcomeAt m s i = .ok reply ∧ p.retriesStatus reply.status = true ∧ reply.header? "Retry-After" = some value

variable [Seconds N]

theorem attempts_fails {p : Retry.Policy N} {m : Message} {s : Site N} {value : Text} (asks : AsksFor p m s 0 value)
    {fault : Fault} (fails : Retry.secondsAsked s.now value = .error fault) (remaining : Nat) (attempt : Int) :
    attempts p m remaining attempt s = (.error fault, afterTry m s) := by
  obtain ⟨reply, came, again, header⟩ := asks
  have failing : asked (afterTry m s).now reply = .error fault := by
    rw [asked, header, (afterTry_keeps m s).1]
    exact fails
  unfold attempts
  rw [bind_run, attempt_run, post_run, came]
  cases remaining <;>
    simp only [again, Bool.not_true, Bool.false_eq_true, if_false, bind_run, askedBy_run, failing]

theorem delay_told {p : Retry.Policy N} {share : N} {attempt : Int} {plain : N}
    (known : Retry.delay p share attempt none = .ok plain) (wished : Option N) :
    ∃ seconds, Retry.delay p share attempt wished = .ok seconds := by
  unfold Retry.delay at known ⊢
  cases rises : Retry.ceiling p attempt with
  | error overflow =>
    rw [rises] at known
    cases known
  | ok top =>
    rw [rises] at known
    have settles : (Retry.jittered share top >>= fun drawn => pure (Retry.settled p drawn none)) = .ok plain := known
    show ∃ seconds, (Retry.jittered share top >>= fun drawn => pure (Retry.settled p drawn wished)) = .ok seconds
    cases part : Retry.jittered share top with
    | error overflow =>
      rw [part] at settles
      cases settles
    | ok drawn => exact ⟨Retry.settled p drawn wished, rfl⟩

def Timed (p : Retry.Policy N) (s : Site N) : Prop :=
  ∀ i : Nat, (i : Int) < p.maxRetries → ∃ seconds, Retry.delay p (s.shares.getD i Seconds.half) i none = .ok seconds

def HeardBefore (p : Retry.Policy N) (m : Message) (s : Site N) (k : Nat) : Prop :=
  ∀ i < k, ∀ value, AsksFor p m s i value → ∀ label, ¬ Retry.Unheard value label

omit [Seconds N] in
theorem asked_heard {p : Retry.Policy N} {m : Message} {s : Site N} (present : Calendar.Present s.now) {i : Nat} {reply : Reply}
    (came : outcomeAt m s i = .ok reply) (again : p.retriesStatus reply.status = true)
    (heard : ∀ value, AsksFor p m s i value → ∀ label, ¬ Retry.Unheard value label) :
    ∃ wished, asked s.now reply = .ok wished := by
  unfold asked
  cases header : reply.header? "Retry-After" with
  | none => exact ⟨none, rfl⟩
  | some value =>
    cases seconds : Retry.secondsAsked s.now value with
    | ok wished => exact ⟨wished, seconds⟩
    | error fault =>
      have unheard := ((Retry.secondsAsked_heard present value).fails fault.label).mp ⟨fault, seconds, rfl⟩
      exact absurd unheard (heard value ⟨reply, came, again, header⟩ fault.label)

theorem waitAt_told {p : Retry.Policy N} {m : Message} {s : Site N} (present : Calendar.Present s.now) (timed : Timed p s)
    {i : Nat} (early : (i : Int) < p.maxRetries) (worth : retryable p (outcomeAt m s i) = true)
    (heard : ∀ value, AsksFor p m s i value → ∀ label, ¬ Retry.Unheard value label) :
    ∃ seconds, waitAt p m s i = .ok seconds := by
  obtain ⟨plain, known⟩ := timed i early
  unfold waitAt
  cases came : outcomeAt m s i with
  | error fault => exact ⟨plain, by rw [waitAfter, known]; rfl⟩
  | ok reply =>
    rw [came] at worth
    obtain ⟨wished, asks⟩ := asked_heard present came worth heard
    obtain ⟨seconds, told⟩ := delay_told known (wished.map Seconds.ofDouble)
    refine ⟨seconds, ?_⟩
    rw [waitAfter, asks]
    show (Retry.delay p (s.shares.getD i Seconds.half) i (wished.map Seconds.ofDouble)).mapError _ = _
    rw [told]
    rfl

theorem waits_told {p : Retry.Policy N} {m : Message} {s : Site N} (present : Calendar.Present s.now) (timed : Timed p s)
    {k : Nat} (allowed : (k : Int) ≤ p.maxRetries) (worth : ∀ i < k, retryable p (outcomeAt m s i) = true)
    (heard : HeardBefore p m s k) : ∃ seconds : Nat → N, ∀ i < k, waitAt p m s i = .ok (seconds i) := by
  have each : ∀ i, ∃ seconds, i < k → waitAt p m s i = .ok seconds := by
    intro i
    by_cases less : i < k
    · obtain ⟨seconds, told⟩ := waitAt_told present timed (by omega) (worth i less) (heard i less)
      exact ⟨seconds, fun _ => told⟩
    · exact ⟨Seconds.half, fun less' => absurd less' less⟩
  choose seconds waits using each
  exact ⟨seconds, waits⟩

-- How the replies' wishes are taken: each value for itself, and what they make of a whole run.
structure Heeds (p : Retry.Policy N) (m : Message) (s : Site N) : Prop where
  values : ∀ value, Retry.Heard s.now value
  goes_on : ∃ k, Last p (outcomeAt m s) k ∧ (HeardBefore p m s (k + 1) → ∃ seconds, Course p m s k seconds)
  breaks_off : ∀ (k : Nat) value label, (k : Int) ≤ p.maxRetries → (∀ i < k, retryable p (outcomeAt m s i) = true) →
    HeardBefore p m s k → AsksFor p m s k value → Retry.Unheard value label →
    ∃ fault seconds, fault.label = label ∧ send (some p) m s = (.error fault, afterTry m (siteAt p m seconds s k))

theorem send_heeds {p : Retry.Policy N} (accepted : p.checked = .ok p) (m : Message) {s : Site N}
    (present : Calendar.Present s.now) (timed : Timed p s) : Heeds p m s := by
  refine ⟨Retry.secondsAsked_heard present, ?goes_on, fun k value label allowed worth heard asks unheard => ?breaks_off⟩
  case goes_on =>
    obtain ⟨k, last⟩ := last_exists (outcomeAt m s) (checked_natural accepted)
    refine ⟨k, last, fun heard => ?_⟩
    have before : HeardBefore p m s k := fun i less => heard i (by omega)
    obtain ⟨seconds, waits⟩ := waits_told present timed last.allowed last.before before
    exact ⟨seconds, send_takes_course last waits fun reply came again => asked_heard present came again (heard k (by omega))⟩
  case breaks_off =>
    obtain ⟨seconds, waits⟩ := waits_told present timed allowed worth heard
    obtain ⟨now, -, -⟩ := siteAt_keeps p m seconds s k
    obtain ⟨fault, fails, named⟩ := ((Retry.secondsAsked_heard present value).fails label).mpr unheard
    refine ⟨fault, seconds, named, ?_⟩
    have count : p.maxRetries.toNat = k + (p.maxRetries.toNat - k) := by omega
    show attempts p m p.maxRetries.toNat 0 s = _
    -- The attempts before bring the run to the site where the value is asked for.
    rw [count, attempts_siteAt worth waits]
    have here : AsksFor p m (siteAt p m seconds s k) 0 value := by
      rw [AsksFor, outcomeAt_siteAt]
      exact asks
    exact attempts_fails here (now ▸ fails) _ _

def datedSite : Site ℚ :=
  { Site.new .empty 0 784111770 (fun _ => "k3") with
    turns := [⟨false, .reply ⟨503, [], [("Retry-After", "Sun, 06 Nov 1994 08:49:37 GMT")]⟩⟩,
      ⟨false, .reply ⟨503, [], [("Retry-After", "soon")]⟩⟩,
      ⟨false, .reply ⟨503, [], [("Retry-After", "Sun Nov  6 08:49:37 1994")]⟩⟩] }

theorem datedSite_heeds : flakyPolicy.checked = .ok flakyPolicy ∧ Calendar.Present datedSite.now ∧ Timed flakyPolicy datedSite ∧
    Heeds flakyPolicy flakyMessage datedSite ∧ (send (some flakyPolicy) flakyMessage datedSite).2.delays = [7, 1 / 2] := by
  have present : Calendar.Present datedSite.now := ⟨⟨1994, 11, 6⟩, ⟨8, 49, 30⟩, by decide +kernel⟩
  have timed : Timed flakyPolicy datedSite := fun i _ => ⟨_, Retry.delay_exact flakyPolicy _ i none⟩
  exact ⟨flakyPolicy_accepted, present, timed, send_heeds flakyPolicy_accepted flakyMessage present timed, by decide +kernel⟩

def asctimeDate : Text := "Sun Nov  6 08:49:37 1994"

def zonelessFault : Fault := .type "can't subtract offset-naive and offset-aware datetimes"

def asctimeSite : Site ℚ :=
  { Site.new .empty 0 0 (fun _ => "k3") with
    turns := [⟨false, .reply ⟨503, [], [("Retry-After", asctimeDate)]⟩⟩, ⟨false, .reply ⟨200, [], []⟩⟩] }

theorem asctimeDate_stops : Retry.Tells asctimeDate none ⟨1994, 11, 6⟩ ⟨8, 49, 37⟩ ∧
    Retry.secondsAsked asctimeSite.now asctimeDate = .error zonelessFault ∧
    AsksFor flakyPolicy flakyMessage asctimeSite 0 asctimeDate ∧
    send (some flakyPolicy) flakyMessage asctimeSite = (.error zonelessFault, afterTry flakyMessage asctimeSite) := by
  have dated : Retry.Dated asctimeDate ⟨1994, 11, 6, 8, 49, 37, none⟩ := ⟨by decide +kernel, by decide +kernel⟩
  have fails : Retry.secondsAsked asctimeSite.now asctimeDate = .error zonelessFault := rfl
  have asks : AsksFor flakyPolicy flakyMessage asctimeSite 0 asctimeDate := ⟨_, rfl, by decide, by decide⟩
  exact ⟨⟨⟨_, dated, rfl, by decide +kernel⟩, Retry.zoneless_near⟩, fails, asks, attempts_fails asks fails 3 0⟩

end UploadRelay.Backend
