import UploadRelay.Proofs.Backend.Faults
import UploadRelay.Proofs.Backend.Receiving
import UploadRelay.Proofs.Caller.Remembering
-- How a call ends: with a response that a backend gave, or with a fault that is traced back to
-- where it comes from.

namespace UploadRelay.Caller

open Work Backend

variable {N : Type} [Seconds N]

-- Why a call gives no response. Only faults of sending can be anything: what is wrong with a
-- reply is told by the call itself, but for a body that is nested too deeply to be read.
inductive CallFault (terms : Terms N) (c : Caller N) (request : Rpc.Request) : Fault → Prop where
  | sending {fault : Fault} (failed : SendFault terms c.policy (c.message terms.requestId request) fault) :
      CallFault terms c request (sendFault fault)
  | unread {reply : Reply} {fault : Fault} (received : Received terms (c.message terms.requestId request) reply)
      (refused : readReply reply = .error fault) : CallFault terms c request fault
  | told {reply : Reply} {response : Rpc.Response} {error : Members}
      (received : Received terms (c.message terms.requestId request) reply) (read : readReply reply = .ok response)
      (failed : response.error = some error) : CallFault terms c request (.ofErrorObject error (some response))
  | storing {settings : Rpc.Cache.Settings N} (held : terms.settings = some settings)
      (overflows : Seconds.add terms.clock settings.ttl = .error ⟨⟩) : CallFault terms c request .overflow

def Read (terms : Terms N) (c : Caller N) (request : Rpc.Request) (response : Rpc.Response) : Prop :=
  ∃ reply, Received terms (c.message terms.requestId request) reply ∧ readReply reply = .ok response

def Remembers (terms : Terms N) (c : Caller N) (request : Rpc.Request) : Prop :=
  ∀ response, Read terms c request response → response.error = none → terms.responses response

variable {terms : Terms N}

theorem send_gives (c : Caller N) (request : Rpc.Request) :
    Gives (Steady terms) (CallFault terms c request) (Read terms c request) (c.send request) := by
  apply gives_site_bind
  intro s steady
  refine (gives_ends (log_calm _ _ _ _) Steady.ofCalm (ends_update _)).bind fun _ _ => ?_
  rw [steady.requestId]
  refine (Backend.send_gives c.policy _).attempt.bind fun outcome ended => ?_
  cases outcome with
  | error fault => exact gives_throw (.sending ended)
  | ok reply =>
    apply gives_ofExcept
    cases read : readReply reply with
    | ok response => exact ⟨reply, ended, read⟩
    | error fault => exact .unread ended read

theorem remember_gives {c : Caller N} {request : Rpc.Request} {response : Rpc.Response} (kind : terms.responses response) :
    Gives (Steady terms) (CallFault terms c request) (fun _ => True) (remember (c.key request) response) := by
  unfold remember
  apply gives_site_bind
  intro s steady
  cases held : s.cache with
  | none => exact gives_pure trivial
  | some cache =>
    have settings := steady.held held
    refine Gives.bind (A := fun cache' => cache.set s.clock (c.key request) response = .ok cache')
      (gives_ofExcept ?_) fun cache' put => gives_update fun s₁ steady₁ => ?_
    · cases put : cache.set s.clock (c.key request) response with
      | ok cache' => exact rfl
      | error overflow =>
        refine .storing settings ?_
        rw [← steady.clock]
        unfold Rpc.Cache.set at put
        cases sum : Seconds.add s.clock cache.settings.ttl with
        | error overflow => rfl
        | ok expires =>
          rw [sum] at put
          cases put
    · obtain ⟨same, entries⟩ := Rpc.Cache.mem_set put
      refine steady₁.withCache (fun e member => ?_) (by rw [same, settings])
      rcases entries e member with old | ⟨-, new, -⟩
      · exact steady.cached cache held e old
      · exact new ▸ kind

theorem lookUp_gives {s : Site N} (steady : Steady terms s) {cache : Rpc.Cache N} (held : s.cache = some cache)
    (key : Text) {E : Fault → Prop} :
    Gives (Steady terms) E (fun found => ∀ response, found = some response → terms.responses response) (lookUp cache key) := by
  have kind : ∀ e ∈ cache.entries, terms.responses e.response := steady.cached cache held
  have settings := steady.held held
  apply gives_site_bind
  intro s₁ _
  refine (gives_update fun s₂ steady₂ => ?_).bind fun _ _ => gives_pure fun response hit => ?_
  · refine steady₂.withCache (fun e member => kind e (Rpc.Cache.mem_get member)) ?_
    exact (congrArg some (Rpc.Cache.get_settings cache s₁.clock key)).trans settings.symm
  · obtain ⟨e, member, -, -, same⟩ := Rpc.Cache.get_hit hit
    exact same ▸ kind e member

theorem dispatch_gives {c : Caller N} {request : Rpc.Request} (remembers : Remembers terms c request) (cached : Bool) :
    Gives (Steady terms) (CallFault terms c request) terms.responses (c.dispatch cached request) := by
  refine (send_gives c request).bind fun response read => ?_
  refine Gives.bind (A := fun answer => terms.responses answer) (gives_ofExcept ?_) fun answer kind => ?_
  · obtain ⟨reply, received, taken⟩ := read
    unfold accepted
    cases failed : response.error with
    | some error => exact .told received taken failed
    | none => exact remembers response ⟨reply, received, taken⟩ failed
  · cases cached with
    | false => exact gives_pure kind
    | true => exact (remember_gives kind).bind fun _ _ => gives_pure kind

-- A call that the hooks do not answer ends with a response of the kind that is remembered, or with
-- a fault of sending, reading or storing.
theorem call_gives {c : Caller N} {request next : Rpc.Request} (proceeds : Hook.runAll c.hooks request = .proceed next)
    (remembers : Remembers terms c next) :
    Gives (Steady terms) (CallFault terms c next) terms.responses (c.call request) := by
  unfold call
  rw [proceeds]
  apply gives_site_bind
  intro s steady
  cases used : c.cacheFor s next with
  | none => exact dispatch_gives remembers false
  | some cache =>
    refine (lookUp_gives steady (cacheFor_some used).1 _).bind fun found kind => ?_
    cases found with
    | none => exact dispatch_gives remembers true
    | some response =>
      exact (gives_ends (log_calm _ _ _ _) Steady.ofCalm (ends_update _)).bind fun _ _ => gives_pure (kind response rfl)

omit [Seconds N] in
theorem readReply_error {reply : Reply} {fault : Fault} (refused : readReply reply = .error fault) :
    (fault.isRemote = true ∧ fault.Coded) ∨ ∃ inObject, reply.status = 200 ∧
      Json.readBytes reply.body = .error (.tooDeep inObject) ∧ fault = .ofJson (.tooDeep inObject) := by
  unfold readReply at refused
  split at refused
  · cases refused
    exact Or.inl ⟨rfl, Fault.coded_remote _ none⟩
  · rename_i success
    split at refused
    · rename_i unread read
      split at refused
      · cases refused
        exact Or.inl ⟨rfl, Fault.coded_remote _ none⟩
      · rename_i deep
        cases refused
        cases unread with
        | tooDeep inObject => exact Or.inr ⟨inObject, Decidable.not_not.mp success, read, rfl⟩
        | _ => exact absurd rfl deep
    · rename_i members read
      cases parsed : Rpc.Response.ofMembers members with
      | ok response =>
        rw [parsed] at refused
        cases refused
      | error rejection =>
        rw [parsed] at refused
        cases refused
        exact Or.inl ⟨rfl, Fault.coded_remote _ none⟩
    · cases refused
      exact Or.inl ⟨rfl, Fault.coded_remote _ none⟩

theorem sendFault_coded {fault : Fault} (uncoded : fault.Uncoded) (remote : (sendFault fault).isRemote = true) :
    (sendFault fault).Coded := by
  cases fault with
  | transport kind message => exact Fault.coded_remote _ none
  | remote => cases uncoded
  | exhausted => cases uncoded
  | _ => cases remote

theorem CallFault.kind {E : Fault → Prop} (own : ∀ fault : Fault, fault.Own → E fault)
    (turns : ∀ turn fault, terms.turns turn → turn.outcome = .fails fault → E fault) {c : Caller N} {request : Rpc.Request}
    {fault : Fault} (failed : CallFault terms c request fault) : fault.isRemote = true ∨ E fault := by
  cases failed with
  | @sending fault failed =>
    rcases failed.kind own turns with ⟨status, preview, retryAfter, rfl⟩ | kind
    · exact Or.inl rfl
    · cases fault with
      | transport => exact Or.inl rfl
      | _ => exact Or.inr kind
  | unread received refused =>
    rcases readReply_error refused with ⟨remote, -⟩ | ⟨inObject, -, -, rfl⟩
    · exact Or.inl remote
    · exact Or.inr (own _ (Fault.own_ofJson _))
  | told => exact Or.inl rfl
  | storing => exact Or.inr (own _ Fault.own_overflow)

-- A failed call is told in words of the bridge, or else in those of an error object that the
-- backend sent.
theorem CallFault.told_or_coded {c : Caller N} {request : Rpc.Request} {fault : Fault}
    (outer : ∀ turn fault, terms.turns turn → turn.outcome = .fails fault → fault.Uncoded)
    (failed : CallFault terms c request fault) (remote : fault.isRemote = true) :
    fault.Coded ∨ ∃ reply response error, Received terms (c.message terms.requestId request) reply ∧
      readReply reply = .ok response ∧ response.error = some error ∧ fault = .ofErrorObject error (some response) := by
  cases failed with
  | sending failed =>
    left
    rcases failed.kind (fun _ own => own.uncoded) outer with ⟨status, preview, retryAfter, rfl⟩ | uncoded
    · exact Fault.coded_exhausted _ _ _
    · exact sendFault_coded uncoded remote
  | unread received refused =>
    rcases readReply_error refused with ⟨-, coded⟩ | ⟨inObject, -, -, same⟩
    · exact Or.inl coded
    · rw [same] at remote
      cases remote
  | told received read failed => exact Or.inr ⟨_, _, _, received, read, failed, rfl⟩
  | storing => cases remote

end UploadRelay.Caller
