import UploadRelay.Backend.Sending
import UploadRelay.Caller
import UploadRelay.Proofs.Site.Twins
-- Calls from two sites that are alike: the backend is sent the same and answers the same, whatever
-- stands in the two trees, and the calls end alike.

namespace UploadRelay.Backend

open Work

variable {N : Type} {ties : Ties}

theorem turn_agrees {post₁ post₂ : Post} (same : post₁.wire = post₂.wire) :
    Agree (N := N) (Twins ties.loose) (Twins ties.loose) (turn post₁) (turn post₂) := by
  have body : post₁.body = post₂.body := by
    have sent := congrArg Post.body same
    exact sent
  refine agree_site_bind fun s₁ s₂ twins => ?_
  have turns : s₁.turns = s₂.turns := by
    cases twins
    rfl
  rw [turns, body]
  refine Agree.andThen (agree_update fun alike => ?_) fun _ => ?_
  · cases alike with
    | intro _ _ _ _ _ _ _ _ _ sent troubles fields noted =>
      exact .intro _ _ _ _ _ _ _ _ trivial (sent.add same) troubles fields noted
  · cases (s₂.turns.headD defaultTurn).outcome with
    | reply reply => exact agree_pure reply
    | fails fault => exact agree_throw fault
    | echo status headers => exact agree_pure _

theorem post_agrees (m : Message) : Agree (N := N) (Twins ties.loose) (Twins ties.loose) (post m) (post m) := by
  refine (agree_ofExcept (addressed m)).andThen fun address => agree_site_bind fun s₁ s₂ _ => ?_
  refine Agree.andThen ?_ fun reply => agree_ofExcept _
  exact turn_agrees rfl

theorem askedBy_agrees (r : Reply) : Agree (N := N) (Twins ties) (Twins ties) (askedBy r) (askedBy r) := by
  unfold askedBy
  cases r.header? "Retry-After" with
  | none => exact agree_pure none
  | some value =>
    refine agree_site_bind fun s₁ s₂ twins => ?_
    cases twins
    exact agree_ofExcept _

variable [Seconds N]

theorem chooseDelay_agrees (p : Retry.Policy N) (attempt : Int) (asked : Option N) :
    Agree (Twins ties) (Twins ties) (chooseDelay p attempt asked) (chooseDelay p attempt asked) := by
  have draws : Agree (Twins ties) (Twins ties) (drawShare (N := N)) drawShare := by
    refine agree_site_bind fun s₁ s₂ twins => ?_
    have shares : s₁.shares = s₂.shares := by
      cases twins
      rfl
    rw [shares]
    refine Agree.andThen (agree_update fun alike => ?_) fun _ => agree_pure _
    cases alike
    exact .intro _ _ _ _ _ _ _ _ ‹_› ‹_› ‹_› ‹_› ‹_›
  exact (agree_ofExcept _).andThen fun top => draws.andThen fun share =>
    (agree_ofExcept _).andThen fun drawn => agree_pure _

theorem pause_agrees (p : Retry.Policy N) (m : Message) (attempt : Int) (what : Text) (asked : Option N) :
    Agree (Twins ties) (Twins ties) (pause p m attempt what asked) (pause p m attempt what asked) := by
  refine (chooseDelay_agrees p attempt asked).andThen fun seconds => ?_
  refine (agree_log (by decide) _ _ _ _ _ _).andThen fun _ => agree_update fun alike => ?_
  cases alike
  exact .intro _ _ _ _ _ _ _ _ ‹_› ‹_› ‹_› ‹_› ‹_›

theorem attempts_agrees (p : Retry.Policy N) (m : Message) (remaining : Nat) (attempt : Int) :
    Agree (Twins ties.loose) (Twins ties.loose) (attempts p m remaining attempt) (attempts p m remaining attempt) := by
  induction remaining generalizing attempt with
  | zero =>
    unfold attempts
    refine (post_agrees m).attempt.andThen fun outcome => ?_
    cases outcome with
    | error fault => exact agree_throw fault
    | ok reply =>
      simp only
      split
      · exact agree_pure reply
      · exact (askedBy_agrees reply).andThen fun _ => agree_throw _
  | succ remaining ih =>
    unfold attempts
    refine (post_agrees m).attempt.andThen fun outcome => ?_
    cases outcome with
    | error fault =>
      simp only
      split
      · exact (pause_agrees p m attempt _ _).andThen fun _ => ih _
      · exact agree_throw fault
    | ok reply =>
      simp only
      split
      · exact agree_pure reply
      · exact (askedBy_agrees reply).andThen fun _ => (pause_agrees p m attempt _ _).andThen fun _ => ih _

theorem send_agrees (policy : Option (Retry.Policy N)) (m : Message) :
    Agree (Twins ties.loose) (Twins ties.loose) (send policy m) (send policy m) := by
  cases policy with
  | none => exact post_agrees m
  | some p => exact attempts_agrees p m _ 0

end UploadRelay.Backend

namespace UploadRelay.Caller

open Work Backend

variable {N : Type} [Seconds N] {ties : Ties}

theorem send_agrees (c : Caller N) (request : Rpc.Request) :
    Agree (Twins ties.loose) (Twins ties.loose) (c.send request) (c.send request) := by
  refine agree_site_bind fun s₁ s₂ twins => ?_
  have id : s₁.requestId = s₂.requestId := by
    cases twins
    rfl
  rw [id]
  refine (agree_log (by decide) _ _ _ _ _ _).andThen fun _ => ?_
  refine (Backend.send_agrees c.policy _).attempt.andThen fun outcome => ?_
  cases outcome with
  | error fault => exact agree_throw _
  | ok reply => exact agree_ofExcept _

theorem lookUp_agrees (cache : Rpc.Cache N) (key : Text) :
    Agree (Twins ties) (Twins ties) (lookUp cache key) (lookUp cache key) := by
  refine agree_site_bind fun s₁ s₂ twins => ?_
  have clock : s₁.clock = s₂.clock := by
    cases twins
    rfl
  rw [clock]
  refine Agree.andThen (agree_update fun alike => ?_) fun _ => agree_pure _
  cases alike
  exact .intro _ _ _ _ _ _ _ _ ‹_› ‹_› ‹_› ‹_› ‹_›

theorem remember_agrees (key : Text) (response : Rpc.Response) :
    Agree (N := N) (Twins ties) (Twins ties) (remember key response) (remember key response) := by
  refine agree_site_bind fun s₁ s₂ twins => ?_
  have same : s₁.cache = s₂.cache ∧ s₁.clock = s₂.clock := by
    cases twins
    exact ⟨rfl, rfl⟩
  rw [same.1, same.2]
  cases s₂.cache with
  | none => exact agree_pure ()
  | some cache =>
    refine (agree_ofExcept _).andThen fun cache' => agree_update fun alike => ?_
    cases alike
    exact .intro _ _ _ _ _ _ _ _ ‹_› ‹_› ‹_› ‹_› ‹_›

theorem dispatch_agrees (c : Caller N) (cached : Bool) (request : Rpc.Request) :
    Agree (Twins ties.loose) (Twins ties.loose) (c.dispatch cached request) (c.dispatch cached request) := by
  refine (send_agrees c request).andThen fun response => (agree_ofExcept _).andThen fun response => ?_
  cases cached with
  | true => exact (remember_agrees _ _).andThen fun _ => agree_pure response
  | false => exact agree_pure response

theorem call_agrees (c : Caller N) (request : Rpc.Request) :
    Agree (Twins ties.loose) (Twins ties.loose) (c.call request) (c.call request) := by
  unfold call
  cases Hook.runAll c.hooks request with
  | abort fault => exact agree_throw fault
  | answer response => exact (agree_log (by decide) _ _ _ _ _ _).andThen fun _ => agree_pure response
  | proceed next =>
    refine agree_site_bind fun s₁ s₂ twins => ?_
    have cache : c.cacheFor s₁ next = c.cacheFor s₂ next := by
      cases twins
      rfl
    rw [cache]
    cases c.cacheFor s₂ next with
    | none => exact dispatch_agrees c false next
    | some cache =>
      refine (lookUp_agrees cache _).andThen fun found => ?_
      cases found with
      | none => exact dispatch_agrees c true next
      | some response => exact (agree_log (by decide) _ _ _ _ _ _).andThen fun _ => agree_pure response

end UploadRelay.Caller
