import UploadRelay.Number.Num
import UploadRelay.Proofs.Caller.Failing
import UploadRelay.Proofs.Json.Spelling
-- How the misbehaviour of a backend surfaces: as a failure of the call. What gets past that is
-- listed here, and a reply that is nested too deeply to be read is among it.

namespace UploadRelay

open Work

namespace Backend

structure Plain (turn : Turn) : Prop where
  unasked : ∀ body raw, Answers turn body raw → raw.header? "Retry-After" = none
  failing : ∀ fault, turn.outcome = .fails fault → ∃ kind message, fault = .transport kind message

theorem receive_headers {source : Address} {raw reply : Reply} (received : receive source raw = .ok reply) :
    reply.headers = raw.headers := by
  unfold receive at received
  cases headers : checkHeaders raw.headers with
  | error fault =>
    rw [headers] at received
    cases received
  | ok _ =>
    cases body : unpackAll raw.packings raw.body with
    | error fault =>
      rw [headers, body] at received
      cases received
    | ok bytes =>
      cases place : checkSource source with
      | error fault =>
        rw [headers, body, place] at received
        cases received
      | ok _ =>
        cases points : checkRedirect source raw with
        | error fault =>
          rw [headers, body, place, points] at received
          cases received
        | ok _ =>
          rw [headers, body, place, points] at received
          cases received
          rfl

theorem Received.unasked {N : Type} {terms : Terms N} (plain : ∀ turn, terms.turns turn → Plain turn) {m : Message}
    {reply : Reply} (received : Received terms m reply) : reply.header? "Retry-After" = none := by
  obtain ⟨turn, address, raw, takes, answers, -, taken⟩ := received
  have same : reply.header? "Retry-After" = raw.header? "Retry-After" := by
    unfold Reply.header? Reply.headers?
    rw [receive_headers taken]
  exact same.trans ((plain turn takes).unasked m.body raw answers)

end Backend

namespace Caller

open Backend

variable {N : Type} [Seconds N]

-- What gets past a call: a place that cannot be posted to, a reply that cannot be taken in or is
-- nested too deeply, a wait that is no number, and an answer that cannot be kept for so long.
inductive Escape (c : Caller N) (request : Rpc.Request) (s : Site N) : Fault → Prop where
  | address {fault : Fault} (refused : addressed (c.message s.requestId request) = .error fault)
      (untold : sendFault fault = fault) : Escape c request s fault
  | reception {turn : Turn} {address : Address} {raw : Reply} {fault : Fault} (takes : turn ∈ defaultTurn :: s.turns)
      (answers : Answers turn request.body raw) (refused : receive address raw = .error fault)
      (untold : sendFault fault = fault) : Escape c request s fault
  | nested {turn : Turn} {address : Address} {raw reply : Reply} {inObject : Bool} (takes : turn ∈ defaultTurn :: s.turns)
      (answers : Answers turn request.body raw) (received : receive address raw = .ok reply) (success : reply.status = 200)
      (deep : Json.readBytes reply.body = .error (.tooDeep inObject)) : Escape c request s (.ofJson (.tooDeep inObject))
  | waiting {p : Retry.Policy N} {share : N} {attempt : Int} (chosen : c.policy = some p) (least : 0 ≤ attempt)
      (early : attempt < p.maxRetries) (overflows : Retry.delay p share attempt none = .error ⟨⟩) : Escape c request s .overflow
  | keeping {cache : Rpc.Cache N} (held : s.cache = some cache)
      (overflows : Seconds.add s.clock cache.settings.ttl = .error ⟨⟩) : Escape c request s .overflow

variable {c : Caller N} {request : Rpc.Request} {s : Site N}

end Caller

end UploadRelay
