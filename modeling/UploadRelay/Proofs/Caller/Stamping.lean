import UploadRelay.Proofs.Caller.Calling
import UploadRelay.Proofs.Site.Stamping
-- A call bears the id of the request in hand: every post of it, whether the first or a later one,
-- carries that id, and nothing else is said of the request on the way.

namespace UploadRelay

open Work

variable {N : Type} {reporter : Reporter} {id : Text}

namespace Backend

theorem post_stamps {m : Message} (named : m.requestId = some id) : Leaves (Stamps (N := N) reporter id) (post m) := by
  have frame := stamps_frame (N := N) reporter id
  apply Leaves.bind frame (leaves_ofExcept frame _)
  intro address
  apply leaves_site_bind
  intro s
  refine bind_at frame ?_ fun reply s' _ => frame.refl s'
  rw [turn_run]
  exact fun _ => ⟨rfl, rfl, ⟨[_], rfl, List.forall_mem_singleton.mpr named⟩, ⟨[], (List.append_nil _).symm, by simp⟩,
    ⟨[], (List.append_nil _).symm, tracked_nil reporter id⟩⟩

theorem askedBy_silent (reply : Reply) : Leaves (Silent (N := N)) (askedBy reply) := by
  unfold askedBy
  cases reply.header? "Retry-After" with
  | none => exact leaves_pure silent_frame _
  | some value => exact Leaves.bind silent_frame (leaves_site silent_frame) fun _ => leaves_ofExcept silent_frame _

variable [Seconds N]

theorem chooseDelay_silent (p : Retry.Policy N) (attempt : Int) (asked : Option N) :
    Leaves Silent (chooseDelay p attempt asked) := by
  apply Leaves.bind silent_frame (leaves_ofExcept silent_frame _)
  intro top
  refine Leaves.bind silent_frame ?_ fun share => ?_
  · exact leaves_site_bind fun s => ⟨rfl, rfl, rfl, rfl, rfl⟩
  · exact Leaves.bind silent_frame (leaves_ofExcept silent_frame _) fun _ => leaves_pure silent_frame _

theorem pause_silent (p : Retry.Policy N) (m : Message) (attempt : Int) (what : Text) (asked : Option N) :
    Leaves Silent (pause p m attempt what asked) := by
  refine Leaves.bind silent_frame (chooseDelay_silent p attempt asked) fun _ => ?_
  exact Leaves.bind silent_frame (log_silent (by decide) _ _ _) fun _ => fun _ => ⟨rfl, rfl, rfl, rfl, rfl⟩

theorem send_stamps (policy : Option (Retry.Policy N)) {m : Message} (named : m.requestId = some id) :
    Leaves (Stamps reporter id) (send policy m) :=
  send_stays (stamps_frame reporter id) policy m (post_stamps named) (fun reply => (askedBy_silent reply).widen Silent.stamps)
    fun p attempt what asked => (pause_silent p m attempt what asked).widen Silent.stamps

end Backend

namespace Caller

variable [Seconds N] (c : Caller N)

theorem send_stamps (given : id ≠ []) (request : Rpc.Request) : Leaves (Stamps reporter id) (c.send request) := by
  have frame := stamps_frame (N := N) reporter id
  apply leaves_site_bind
  intro s
  by_cases inHand : s.requestId = id
  · have named : (c.message s.requestId request).requestId = some id := by
      rw [inHand]
      exact if_neg (by simpa using given)
    refine bind_at frame (log_silent (by decide) _ _ _ s).stamps fun _ s₁ _ => ?_
    refine bind_at frame (Backend.send_stamps c.policy named s₁) fun outcome s₂ _ => ?_
    cases outcome with
    | error fault => exact frame.refl s₂
    | ok reply => exact frame.refl s₂
  · exact fun same => absurd same inHand

theorem lookUp_silent (cache : Rpc.Cache N) (key : Text) : Leaves Silent (lookUp cache key) := fun _ => ⟨rfl, rfl, rfl, rfl, rfl⟩

theorem remember_silent (key : Text) (response : Rpc.Response) : Leaves (Silent (N := N)) (remember key response) := by
  unfold remember
  apply leaves_site_bind
  intro s
  cases s.cache with
  | none => exact silent_frame.refl s
  | some cache => exact bind_at silent_frame (silent_frame.refl s) fun _ _ _ => ⟨rfl, rfl, rfl, rfl, rfl⟩

theorem dispatch_stamps (given : id ≠ []) (cached : Bool) (request : Rpc.Request) :
    Leaves (Stamps reporter id) (c.dispatch cached request) := by
  have frame := stamps_frame (N := N) reporter id
  apply Leaves.bind frame (c.send_stamps given request)
  intro response
  apply Leaves.bind frame (leaves_ofExcept frame _)
  intro response
  cases cached with
  | true => exact Leaves.bind frame ((remember_silent _ _).widen Silent.stamps) fun _ => leaves_pure frame response
  | false => exact leaves_pure frame response

theorem call_stamps (given : id ≠ []) (request : Rpc.Request) : Leaves (Stamps reporter id) (c.call request) := by
  have frame := stamps_frame (N := N) reporter id
  have logs : ∀ message extra, Leaves (Stamps (N := N) reporter id) (log logger .debug message extra) :=
    fun message extra => (log_silent (by decide) _ _ _).widen Silent.stamps
  unfold call
  cases Hook.runAll c.hooks request with
  | abort fault => exact leaves_throw frame fault
  | answer response => exact Leaves.bind frame (logs _ _) fun _ => leaves_pure frame response
  | proceed next =>
    apply leaves_site_bind
    intro s
    cases c.cacheFor s next with
    | none => exact c.dispatch_stamps given false next s
    | some cache =>
      refine bind_at frame (lookUp_silent cache _ s).stamps fun found s₁ _ => ?_
      cases found with
      | none => exact c.dispatch_stamps given true next s₁
      | some response => exact Leaves.bind frame (logs _ _) (fun _ => leaves_pure frame response) s₁

end Caller

end UploadRelay
