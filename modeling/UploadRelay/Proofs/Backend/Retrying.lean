import Mathlib.Logic.ExistsUnique
import UploadRelay.Proofs.Backend.Answering
import UploadRelay.Proofs.Number.Exact
import UploadRelay.Proofs.Site.Outcomes
-- The loop of attempts as a whole: which outcome ends it, what is posted and waited for on the
-- way there, and what comes back.

namespace UploadRelay.Backend

open Work

variable {N : Type}

def answered (turn : Turn) (body : List UInt8) : Except Fault Reply :=
  match turn.outcome with
  | .reply reply => .ok reply
  | .fails fault => .error fault
  | .echo status headers => .ok ⟨status, echoBody body, headers⟩

def outcomeOf (m : Message) (turn : Turn) : Except Fault Reply := do
  let address ← addressed m
  let raw ← answered turn m.body
  receive address raw

def outcomeAt (m : Message) (s : Site N) (i : Nat) : Except Fault Reply := outcomeOf m (s.turns.getD i defaultTurn)

def afterTry (m : Message) (s : Site N) : Site N :=
  match addressed m with
  | .error _ => s
  | .ok address => afterPost ⟨address.text, m.body, jsonType, m.requestId, s.tree⟩ s

theorem turn_answered (post : Post) (s : Site N) : turn post s = (answered (turnOf s) post.body, afterPost post s) := by
  simp only [turn, bind_run, site_run, update_run, answered, turnOf]
  cases (s.turns.headD defaultTurn).outcome <;> rfl

theorem post_run (m : Message) (s : Site N) : post m s = (outcomeAt m s 0, afterTry m s) := by
  have next : s.turns.getD 0 defaultTurn = turnOf s := by
    unfold turnOf
    cases s.turns <;> rfl
  unfold outcomeAt
  rw [next]
  cases goes : addressed m with
  | error fault =>
    simp only [post, outcomeOf, afterTry, goes, bind_run, ofExcept_run]
    rfl
  | ok address =>
    simp only [post, outcomeOf, afterTry, goes, bind_run, ofExcept_run, site_run, turn_answered]
    cases answered (turnOf s) m.body <;> rfl

def retryable (p : Retry.Policy N) : Except Fault Reply → Bool
  | .ok reply => p.retriesStatus reply.status
  | .error fault => isTransientFault fault && p.onConnectionError

-- The outcome that ends the loop: the first one that is not worth another attempt, or the one
-- of the last attempt there is.
structure Last (p : Retry.Policy N) (outcomes : Nat → Except Fault Reply) (k : Nat) : Prop where
  before : ∀ i < k, retryable p (outcomes i) = true
  allowed : (k : Int) ≤ p.maxRetries
  ends : (k : Int) = p.maxRetries ∨ retryable p (outcomes k) = false

theorem Last.unique {p : Retry.Policy N} {outcomes : Nat → Except Fault Reply} {k k' : Nat} (one : Last p outcomes k)
    (other : Last p outcomes k') : k = k' := by
  have order : ∀ {a b}, Last p outcomes a → Last p outcomes b → ¬ a < b := by
    intro a b first second less
    have bound := second.allowed
    rcases first.ends with exhausted | final
    · omega
    · have worth := second.before a less
      rw [final] at worth
      cases worth
  have ahead := order one other
  have behind := order other one
  omega

theorem last_exists {p : Retry.Policy N} (outcomes : Nat → Except Fault Reply) (natural : 0 ≤ p.maxRetries) :
    ∃ k, Last p outcomes k := by
  have reach : ∀ n : Nat, n ≤ p.maxRetries.toNat →
      (∃ k, Last p outcomes k) ∨ ∀ i < n, retryable p (outcomes i) = true := by
    intro n bound
    induction n with
    | zero => exact Or.inr fun i less => absurd less (Nat.not_lt_zero i)
    | succ n ih =>
      rcases ih (by omega) with found | worth
      · exact Or.inl found
      · cases next : retryable p (outcomes n) with
        | false => exact Or.inl ⟨n, worth, by omega, Or.inr next⟩
        | true =>
          refine Or.inr fun i less => ?_
          by_cases here : i = n
          · rw [here]
            exact next
          · exact worth i (by omega)
  rcases reach p.maxRetries.toNat (Nat.le_refl _) with found | worth
  · exact found
  · exact ⟨p.maxRetries.toNat, worth, by omega, Or.inl (by omega)⟩

def asked (now : Calendar.Moment) (reply : Reply) : Except Fault (Option Double) :=
  match reply.header? "Retry-After" with
  | none => .ok none
  | some value => Retry.secondsAsked now value

theorem askedBy_run (reply : Reply) (s : Site N) : askedBy reply s = (asked s.now reply, s) := by
  unfold askedBy asked
  cases reply.header? "Retry-After" <;> rfl

variable [Seconds N]

def waitAfter (p : Retry.Policy N) (now : Calendar.Moment) (share : N) (attempt : Int) : Except Fault Reply → Except Fault N
  | .error _ => (Retry.delay p share attempt none).mapError fun _ => .overflow
  | .ok reply => do
    let seconds ← asked now reply
    (Retry.delay p share attempt (seconds.map Seconds.ofDouble)).mapError fun _ => .overflow

def waitAt (p : Retry.Policy N) (m : Message) (s : Site N) (i : Nat) : Except Fault N :=
  waitAfter p s.now (s.shares.getD i Seconds.half) i (outcomeAt m s i)

def told : Except Fault Reply → Text
  | .error fault => " failed (" ++ fault.label ++ "), "
  | .ok reply => " answered HTTP " ++ Text.ofInt reply.status ++ ", "

def afterPause (p : Retry.Policy N) (m : Message) (attempt : Int) (what : Text) (seconds : N) (s : Site N) : Site N :=
  { s with
    shares := s.shares.tail
    records := s.records ++ [⟨retryLogger, .debug, "POST " ++ m.url ++ what ++ attemptText p attempt seconds, [], none⟩]
    delays := s.delays ++ [seconds] }

theorem chooseDelay_run {p : Retry.Policy N} {attempt : Int} {wished : Option N} {s : Site N} {seconds : N}
    (known : Retry.delay p (s.shares.headD Seconds.half) attempt wished = .ok seconds) :
    chooseDelay p attempt wished s = (.ok seconds, { s with shares := s.shares.tail }) := by
  unfold Retry.delay at known
  cases rises : Retry.ceiling p attempt with
  | error overflow =>
    rw [rises] at known
    cases known
  | ok top =>
    rw [rises] at known
    have settles : (Retry.jittered (s.shares.headD Seconds.half) top >>= fun drawn => pure (Retry.settled p drawn wished)) =
        .ok seconds := known
    have draws : (drawShare : Work N N) s = (.ok (s.shares.headD Seconds.half), { s with shares := s.shares.tail }) := rfl
    simp only [chooseDelay, rises, ofOverflow, Except.mapError, bind_run, ofExcept_run, draws]
    cases part : Retry.jittered (s.shares.headD Seconds.half) top with
    | error overflow =>
      rw [part] at settles
      cases settles
    | ok drawn =>
      rw [part] at settles
      cases settles
      rfl

theorem pause_run {p : Retry.Policy N} {attempt : Int} {wished : Option N} {s : Site N} {seconds : N}
    (known : Retry.delay p (s.shares.headD Seconds.half) attempt wished = .ok seconds) (m : Message) (what : Text) :
    pause p m attempt what wished s = (.ok (), afterPause p m attempt what seconds s) := by
  simp only [pause, bind_run, chooseDelay_run known]
  rfl

inductive Ending (p : Retry.Policy N) (now : Calendar.Moment) : Except Fault Reply → Except Fault Reply → Prop where
  | reply {reply : Reply} (done : p.retriesStatus reply.status = false) : Ending p now (.ok reply) (.ok reply)
  | exhausted {reply : Reply} {wished : Option Double} (again : p.retriesStatus reply.status = true)
      (asks : asked now reply = .ok wished) :
      Ending p now (.ok reply) (.error (.exhausted reply.status (Rpc.preview reply.body) (wished.map .float)))
  | raised (fault : Fault) : Ending p now (.error fault) (.error fault)

omit [Seconds N] in
theorem afterTry_keeps (m : Message) (s : Site N) :
    (afterTry m s).now = s.now ∧ (afterTry m s).shares = s.shares ∧ (afterTry m s).delays = s.delays := by
  unfold afterTry
  split <;> exact ⟨rfl, rfl, rfl⟩

theorem attempts_again {p : Retry.Policy N} {m : Message} {s : Site N} {attempt : Int} {seconds : N}
    (worth : retryable p (outcomeAt m s 0) = true)
    (known : waitAfter p s.now (s.shares.headD Seconds.half) attempt (outcomeAt m s 0) = .ok seconds) (remaining : Nat) :
    attempts p m (remaining + 1) attempt s = attempts p m remaining (attempt + 1)
      (afterPause p m attempt (told (outcomeAt m s 0)) seconds (afterTry m s)) := by
  obtain ⟨nows, shares, -⟩ := afterTry_keeps m s
  rw [← shares, ← nows] at known
  rw [attempts]
  rw [bind_run, attempt_run, post_run]
  cases outcome : outcomeAt m s 0 with
  | error fault =>
    rw [outcome] at worth known
    have delays := Fault.mapError_ok_iff.mp known
    have caught : (isTransientFault fault && p.onConnectionError) = true := worth
    simp only [caught, if_true, bind_run, pause_run delays]
    rfl
  | ok reply =>
    rw [outcome] at worth known
    have again : p.retriesStatus reply.status = true := worth
    cases asks : asked (afterTry m s).now reply with
    | error fault =>
      simp only [waitAfter, asks] at known
      cases known
    | ok wished =>
      rw [waitAfter, asks] at known
      have delays := Fault.mapError_ok_iff.mp known
      simp only [again, Bool.not_true, Bool.false_eq_true, if_false, bind_run, askedBy_run, asks, pause_run delays]
      rfl

theorem attempts_last {p : Retry.Policy N} {m : Message} {s : Site N} {remaining : Nat} {attempt : Int}
    (ends : remaining = 0 ∨ retryable p (outcomeAt m s 0) = false) {ending : Except Fault Reply}
    (closes : Ending p s.now (outcomeAt m s 0) ending) : attempts p m remaining attempt s = (ending, afterTry m s) := by
  rw [← (afterTry_keeps m s).1] at closes
  unfold attempts
  rw [bind_run, attempt_run, post_run]
  generalize outcomeAt m s 0 = outcome at closes ends
  cases closes with
  | reply done =>
    simp only [done]
    rfl
  | exhausted again asks =>
    cases remaining with
    | zero =>
      simp only [again, Bool.not_true, Bool.false_eq_true, if_false, bind_run, askedBy_run, asks]
      rfl
    | succ remaining =>
      rcases ends with none | final
      · cases none
      · rw [retryable, again] at final
        cases final
  | raised fault =>
    cases remaining with
    | zero => rfl
    | succ remaining =>
      rcases ends with none | final
      · cases none
      · have missed : (isTransientFault fault && p.onConnectionError) = false := final
        simp only [missed]
        rfl

def siteAt (p : Retry.Policy N) (m : Message) (seconds : Nat → N) (s : Site N) : Nat → Site N
  | 0 => s
  | i + 1 => afterPause p m i (told (outcomeAt m s i)) (seconds i) (afterTry m (siteAt p m seconds s i))

theorem siteAt_keeps (p : Retry.Policy N) (m : Message) (seconds : Nat → N) (s : Site N) (i : Nat) :
    (siteAt p m seconds s i).now = s.now ∧ (siteAt p m seconds s i).shares = s.shares.drop i ∧
      (siteAt p m seconds s i).delays = s.delays ++ (List.range i).map seconds := by
  induction i with
  | zero => exact ⟨rfl, rfl, (List.append_nil _).symm⟩
  | succ i ih =>
    obtain ⟨now, shares, delays⟩ := ih
    obtain ⟨now', shares', delays'⟩ := afterTry_keeps m (siteAt p m seconds s i)
    refine ⟨now'.trans now, ?_, ?_⟩
    · show (afterTry m (siteAt p m seconds s i)).shares.tail = _
      rw [shares', shares, List.tail_drop]
    · show (afterTry m (siteAt p m seconds s i)).delays ++ [seconds i] = _
      rw [delays', delays, List.range_succ, List.map_append, List.append_assoc]
      rfl

theorem siteAt_posts {m : Message} {address : Address} (goes : addressed m = .ok address) (p : Retry.Policy N)
    (seconds : Nat → N) (s : Site N) (i : Nat) :
    (siteAt p m seconds s i).turns = s.turns.drop i ∧ (siteAt p m seconds s i).posts = s.posts ++ (List.range i).map fun j =>
      ⟨address.text, m.body, jsonType, m.requestId, (siteAt p m seconds s j).tree⟩ := by
  induction i with
  | zero => exact ⟨rfl, (List.append_nil _).symm⟩
  | succ i ih =>
    obtain ⟨turns, posts⟩ := ih
    have tried : afterTry m (siteAt p m seconds s i) =
        afterPost ⟨address.text, m.body, jsonType, m.requestId, (siteAt p m seconds s i).tree⟩ (siteAt p m seconds s i) := by
      rw [afterTry, goes]
    constructor
    · show (afterTry m (siteAt p m seconds s i)).turns = _
      rw [tried, ← List.tail_drop, ← turns]
      rfl
    · show (afterTry m (siteAt p m seconds s i)).posts = _
      rw [tried, List.range_succ, List.map_append, ← List.append_assoc, ← posts]
      rfl

theorem outcomeAt_siteAt (p : Retry.Policy N) (m : Message) (seconds : Nat → N) (s : Site N) (i : Nat) :
    outcomeAt m (siteAt p m seconds s i) 0 = outcomeAt m s i := by
  unfold outcomeAt outcomeOf
  cases goes : addressed m with
  | error fault => rfl
  | ok address =>
    rw [(siteAt_posts goes p seconds s i).1, List.getD_eq_getElem?_getD, List.getElem?_drop, List.getD_eq_getElem?_getD]
    rfl

theorem attempts_siteAt {p : Retry.Policy N} {m : Message} {s : Site N} {k : Nat} {seconds : Nat → N}
    (worth : ∀ i < k, retryable p (outcomeAt m s i) = true) (waits : ∀ i < k, waitAt p m s i = .ok (seconds i))
    (behind : Nat) : attempts p m (k + behind) 0 s = attempts p m behind k (siteAt p m seconds s k) := by
  induction k generalizing behind with
  | zero =>
    rw [Nat.zero_add]
    rfl
  | succ k ih =>
    have earlier := ih (fun i less => worth i (by omega)) (fun i less => waits i (by omega)) (behind + 1)
    obtain ⟨now, shares, -⟩ := siteAt_keeps p m seconds s k
    have here := outcomeAt_siteAt p m seconds s k
    have known := waits k (Nat.lt_succ_self k)
    have share : (siteAt p m seconds s k).shares.headD Seconds.half = s.shares.getD k Seconds.half := by
      rw [shares, List.headD_eq_head?_getD, List.head?_drop, List.getD_eq_getElem?_getD]
    have worthy : retryable p (outcomeAt m (siteAt p m seconds s k) 0) = true := by
      rw [here]
      exact worth k (Nat.lt_succ_self k)
    have waited : waitAfter p (siteAt p m seconds s k).now ((siteAt p m seconds s k).shares.headD Seconds.half) k
        (outcomeAt m (siteAt p m seconds s k) 0) = .ok (seconds k) := by
      rw [here, now, share]
      exact known
    have again := attempts_again worthy waited behind
    rw [here] at again
    have count : k + 1 + behind = k + (behind + 1) := by omega
    rw [count, earlier, again]
    rfl

def countFrom (attempt : Int) : Nat → List Int
  | 0 => []
  | count + 1 => attempt :: countFrom (attempt + 1) count

def closing (missing : Work N Reply) : Option Reply → Work N Reply
  | none => missing
  | some reply => do
    let wished ← askedBy reply
    throw (.exhausted reply.status (Rpc.preview reply.body) (wished.map .float))

def loop (p : Retry.Policy N) (m : Message) (missing : Work N Reply) : List Int → Option Reply → Work N Reply
  | [], kept => closing missing kept
  | attempt :: rest, kept => do
    let final := attempt == p.maxRetries
    match ← Work.attempt (post m) with
    | .error fault =>
      if !isTransientFault fault then throw fault
      else if final || !p.onConnectionError then throw fault
      else
        pause p m attempt (" failed (" ++ fault.label ++ "), ") none
        loop p m missing rest kept
    | .ok reply =>
      if !p.retriesStatus reply.status then return reply
      else if final then closing missing (some reply)
      else
        let wished ← askedBy reply
        pause p m attempt (" answered HTTP " ++ Text.ofInt reply.status ++ ", ") (wished.map Seconds.ofDouble)
        loop p m missing rest (some reply)

-- The loop never ends without a reply kept aside, so what would be done then does not matter.
theorem loop_attempts (p : Retry.Policy N) (m : Message) (missing : Work N Reply) {remaining : Nat} {attempt : Int}
    (count : attempt + remaining = p.maxRetries) (kept : Option Reply) :
    loop p m missing (countFrom attempt (remaining + 1)) kept = attempts p m remaining attempt := by
  induction remaining generalizing attempt kept with
  | zero =>
    have final : (attempt == p.maxRetries) = true := by
      rw [beq_iff_eq]
      omega
    rw [countFrom, loop, attempts]
    congr 1
    funext outcome
    cases outcome with
    | error fault =>
      simp only [final, Bool.true_or, if_true, ite_self]
    | ok reply =>
      simp only [final, if_true]
      rfl
  | succ remaining ih =>
    have early : (attempt == p.maxRetries) = false := by
      rw [beq_eq_false_iff_ne]
      omega
    have behind : ∀ kept, loop p m missing (countFrom (attempt + 1) (remaining + 1)) kept = attempts p m remaining (attempt + 1) :=
      ih (by omega)
    rw [countFrom, loop, attempts]
    congr 1
    funext outcome
    cases outcome with
    | error fault =>
      simp only [early, Bool.false_or, behind]
      cases isTransientFault fault <;> cases p.onConnectionError <;> rfl
    | ok reply =>
      simp only [early, Bool.false_eq_true, if_false, behind]

theorem unwritable_final {set reason : Text} {lacks isUnusual : CodePoint → Bool} {t : Text} {fault : Fault}
    (found : Fault.unwritableRun? set reason lacks isUnusual t = some fault) : isTransientFault fault = false := by
  unfold Fault.unwritableRun? at found
  split at found
  · cases found
  · cases found
    rfl

theorem addressed_final (m : Message) : Ended (fun fault => isTransientFault fault = false) (fun _ => True) (addressed m) := by
  refine Ended.bind (A := fun _ => True) (ended_mapError (fun reason => ?_) _) fun address _ => ?_
  · cases reason with
    | unpaired c =>
      simp only [Address.Fault.fault]
      cases found : Fault.unwritable? "utf-8" "surrogates not allowed" (fun d => !d.isSurrogate) [c] with
      | none => rfl
      | some fault => exact unwritable_final found
    | _ => rfl
  · split
    · rename_i fault found
      obtain ⟨id, -, unwritable⟩ := Option.bind_eq_some_iff.mp found
      exact unwritable_final unwritable
    · have hosts : Ended (fun fault => isTransientFault fault = false) (fun _ => True) address.checkHost := by
        unfold Address.checkHost
        split
        · split
          · trivial
          · rfl
        · trivial
      refine hosts.bind fun _ _ => ?_
      split
      · rename_i fault unwritable
        exact unwritable_final unwritable
      · trivial

-- What sending a message under a policy does when the outcome numbered `k` ends it and the waits before
-- that are `seconds`.
structure Course (p : Retry.Policy N) (m : Message) (s : Site N) (k : Nat) (seconds : Nat → N) : Prop where
  ending : Ending p s.now (outcomeAt m s k) (send (some p) m s).1
  site : (send (some p) m s).2 = afterTry m (siteAt p m seconds s k)
  posts : ∀ address, addressed m = .ok address → (send (some p) m s).2.posts = s.posts ++ (List.range (k + 1)).map fun i =>
    ⟨address.text, m.body, jsonType, m.requestId, (siteAt p m seconds s i).tree⟩
  unsent : ∀ fault, addressed m = .error fault → k = 0 ∧ send (some p) m s = (.error fault, s)
  delays : (send (some p) m s).2.delays = s.delays ++ (List.range k).map seconds

theorem send_last {p : Retry.Policy N} {m : Message} {s : Site N} {k : Nat} {seconds : Nat → N}
    (last : Last p (outcomeAt m s) k) (waits : ∀ i < k, waitAt p m s i = .ok (seconds i)) {ending : Except Fault Reply}
    (closes : Ending p s.now (outcomeAt m s k) ending) :
    send (some p) m s = (ending, afterTry m (siteAt p m seconds s k)) := by
  have allowed := last.allowed
  have count : p.maxRetries.toNat = k + (p.maxRetries.toNat - k) := by omega
  show attempts p m p.maxRetries.toNat 0 s = _
  rw [count, attempts_siteAt last.before waits]
  refine attempts_last ?_ ?_
  · rw [outcomeAt_siteAt]
    rcases last.ends with exhausted | final
    · exact Or.inl (by omega)
    · exact Or.inr final
  · rw [outcomeAt_siteAt, (siteAt_keeps p m seconds s k).1]
    exact closes

-- Every way to send a message: under a policy there is one outcome that ends it, and the course is the
-- one up to there, whatever would be done without a reply; without a policy there is one post.
structure Sending (p : Retry.Policy N) (m : Message) (s : Site N) : Prop where
  ends_once : ∃! k, Last p (outcomeAt m s) k
  takes_course : ∀ k seconds, Last p (outcomeAt m s) k → (∀ i < k, waitAt p m s i = .ok (seconds i)) →
    (∀ reply, outcomeAt m s k = .ok reply → p.retriesStatus reply.status = true → ∃ wished, asked s.now reply = .ok wished) →
    Course p m s k seconds
  keeps_reply : ∀ missing, loop p m missing (countFrom 0 p.attempts.toNat) none = send (some p) m
  unpoliced : send none m s = (outcomeAt m s 0, afterTry m s)

theorem send_takes_course {p : Retry.Policy N} {m : Message} {s : Site N} {k : Nat} {seconds : Nat → N}
    (last : Last p (outcomeAt m s) k) (waits : ∀ i < k, waitAt p m s i = .ok (seconds i))
    (asks : ∀ reply, outcomeAt m s k = .ok reply → p.retriesStatus reply.status = true →
      ∃ wished, asked s.now reply = .ok wished) : Course p m s k seconds := by
  obtain ⟨ending, closes⟩ : ∃ ending, Ending p s.now (outcomeAt m s k) ending := by
    cases came : outcomeAt m s k with
    | error fault => exact ⟨_, .raised fault⟩
    | ok reply =>
      cases again : p.retriesStatus reply.status with
      | false => exact ⟨_, .reply again⟩
      | true =>
        obtain ⟨wished, known⟩ := asks reply came again
        exact ⟨_, .exhausted again known⟩
  have run := send_last last waits closes
  obtain ⟨-, -, delays⟩ := siteAt_keeps p m seconds s k
  refine ⟨?_, ?_, ?_, ?_, ?_⟩
  · rw [run]
    exact closes
  · rw [run]
  · intro address goes
    rw [run, afterTry, goes, List.range_succ, List.map_append, ← List.append_assoc, ← (siteAt_posts goes p seconds s k).2]
    rfl
  · intro fault refused
    have came : ∀ i, outcomeAt m s i = .error fault := by
      intro i
      rw [outcomeAt, outcomeOf, refused]
      rfl
    have final : isTransientFault fault = false := by
      have ended := addressed_final m
      rw [refused] at ended
      exact ended
    have none : k = 0 := by
      refine Nat.eq_zero_of_not_pos fun some => ?_
      have worth := last.before 0 some
      rw [came, retryable, final] at worth
      cases worth
    subst none
    rw [came] at closes
    cases closes
    exact ⟨rfl, by rw [run, afterTry, refused]; rfl⟩
  · rw [run, (afterTry_keeps m _).2.2]
    exact delays

theorem checked_natural {p : Retry.Policy N} (accepted : p.checked = .ok p) : 0 ≤ p.maxRetries := by
  unfold Retry.Policy.checked Retry.Policy.negativeSetting? at accepted
  split at accepted
  · cases accepted
  · rename_i none
    split at none
    · cases none
    · omega

theorem send_sends {p : Retry.Policy N} (accepted : p.checked = .ok p) (m : Message) (s : Site N) : Sending p m s := by
  have natural := checked_natural accepted
  obtain ⟨k, last⟩ := last_exists (outcomeAt m s) natural
  refine ⟨⟨k, last, fun other found => found.unique last⟩, fun k seconds => send_takes_course, fun missing => ?_, post_run m s⟩
  have count : p.attempts.toNat = p.maxRetries.toNat + 1 := by
    unfold Retry.Policy.attempts
    omega
  rw [count]
  exact loop_attempts p m missing (by omega) none

def flakySite : Site ℚ :=
  { Site.new .empty 0 0 (fun _ => "k3") with
    turns := [⟨false, .reply ⟨503, [], [("Retry-After", "2")]⟩⟩, ⟨false, .fails (.transport .connect "refused")⟩,
      ⟨false, .reply ⟨200, [], []⟩⟩] }

def flakyPolicy : Retry.Policy ℚ := .standard 3

def flakyMessage : Message := ⟨"http://backend:5279/", [], some "00ff"⟩

def flakyWaits (i : Nat) : ℚ := if i = 0 then 2 else 1 / 2

theorem flakyPolicy_accepted : flakyPolicy.checked = .ok flakyPolicy := by
  have natural : flakyPolicy.negativeSetting? = none := by decide +kernel
  rw [Retry.Policy.checked, natural]

theorem flakySite_last : Last flakyPolicy (outcomeAt flakyMessage flakySite) 2 := by
  refine ⟨fun i less => ?_, by decide, Or.inr (by decide +kernel)⟩
  have both : ∀ i < 2, retryable flakyPolicy (outcomeAt flakyMessage flakySite i) = true := by decide +kernel
  exact both i less

theorem flakySite_waits : ∀ i < 2, waitAt flakyPolicy flakyMessage flakySite i = .ok (flakyWaits i) := by
  intro i less
  have both : ∀ i < 2, (waitAt flakyPolicy flakyMessage flakySite i).toOption = some (flakyWaits i) := by decide +kernel
  have known := both i less
  cases waits : waitAt flakyPolicy flakyMessage flakySite i with
  | error fault =>
    rw [waits] at known
    cases known
  | ok seconds =>
    rw [waits] at known
    exact congrArg Except.ok (Option.some.inj known)

theorem flakySite_course : flakyPolicy.checked = .ok flakyPolicy ∧
    Course flakyPolicy flakyMessage flakySite 2 flakyWaits ∧
    (send (some flakyPolicy) flakyMessage flakySite).2.posts.length = 3 ∧
    (send (some flakyPolicy) flakyMessage flakySite).2.delays = [2, 1 / 2] := by
  refine ⟨flakyPolicy_accepted, ?_, by decide +kernel, by decide +kernel⟩
  have sends := send_sends flakyPolicy_accepted flakyMessage flakySite
  refine sends.takes_course 2 flakyWaits flakySite_last flakySite_waits fun reply came again => ?_
  have final : retryable flakyPolicy (outcomeAt flakyMessage flakySite 2) = false := by decide +kernel
  rw [came, retryable, again] at final
  cases final

end UploadRelay.Backend
