import UploadRelay.Caller
import UploadRelay.Proofs.Backend.Sending
-- What a call does to the site: it posts the body of the request as the hooks leave it, and
-- may remember the answer.

namespace UploadRelay.Caller

open Work Backend

variable {N : Type} [Seconds N]

theorem send_sent (c : Caller N) (request : Rpc.Request) : Leaves (Sent request.body) (c.send request) := by
  have frame := sent_frame (N := N) request.body
  apply leaves_site_bind
  intro s
  apply bind_at frame (Sent.ofCalm (log_calm _ _ _ _ s))
  intro _ s₁ _
  refine bind_at frame (Backend.send_sent c.policy (c.message s.requestId request) s₁) fun outcome s₂ _ => ?_
  cases outcome with
  | error fault => exact frame.refl s₂
  | ok reply => exact frame.refl s₂

theorem lookUp_sent (cache : Rpc.Cache N) (key : Text) (body : List UInt8) : Leaves (Sent body) (lookUp cache key) :=
  fun _ => ⟨[], .remembers _⟩

theorem remember_sent (key : Text) (response : Rpc.Response) (body : List UInt8) :
    Leaves (Sent (N := N) body) (remember key response) := by
  have frame := sent_frame (N := N) body
  unfold remember
  apply leaves_site_bind
  intro s
  cases s.cache with
  | none => exact frame.refl s
  | some cache =>
    apply bind_at frame (frame.refl s)
    intro cache' s₁ _
    exact ⟨[], .remembers _⟩

theorem dispatch_sent (c : Caller N) (cached : Bool) (request : Rpc.Request) :
    Leaves (Sent request.body) (c.dispatch cached request) := by
  have frame := sent_frame (N := N) request.body
  apply Leaves.bind frame (send_sent c request)
  intro response
  apply Leaves.bind frame (leaves_ofExcept frame _)
  intro response
  cases cached with
  | true => exact Leaves.bind frame (remember_sent _ _ _) fun _ => leaves_pure frame response
  | false => exact leaves_pure frame response

theorem call_sent {c : Caller N} {request next : Rpc.Request} (proceeds : Hook.runAll c.hooks request = .proceed next) :
    Leaves (Sent next.body) (c.call request) := by
  have frame := sent_frame (N := N) next.body
  unfold call
  rw [proceeds]
  apply leaves_site_bind
  intro s
  cases c.cacheFor s next with
  | none => exact dispatch_sent c false next s
  | some cache =>
    apply bind_at frame (lookUp_sent cache _ _ s)
    intro found s₁ _
    cases found with
    | none => exact dispatch_sent c true next s₁
    | some response => exact Leaves.bind frame ((log_calm _ _ _ _).widen Sent.ofCalm) (fun _ => leaves_pure frame _) s₁

end UploadRelay.Caller
