import UploadRelay.Proofs.Backend.Answering
import UploadRelay.Proofs.Site.Outcomes
-- What sending a body ends with: a reply that one of the backend's turns gave, or a fault that is
-- traced back to where it comes from.

namespace UploadRelay.Backend

open Work

variable {N : Type}

-- The terms on which bodies are sent: the turns that the backend may take, the kind of responses
-- that are remembered, and what sending finds at the site and leaves as it is.
structure Terms (N : Type) where
  turns : Turn → Prop
  default : turns defaultTurn
  responses : Rpc.Response → Prop
  settings : Option (Rpc.Cache.Settings N)
  trouble : Trouble
  requestId : Text
  clock : N

def Terms.of (s : Site N) (responses : Rpc.Response → Prop) : Terms N where
  turns := fun turn => turn ∈ defaultTurn :: s.turns
  default := List.mem_cons_self
  responses := responses
  settings := s.cache.map Rpc.Cache.settings
  trouble := s.trouble
  requestId := s.requestId
  clock := s.clock

structure Steady (terms : Terms N) (s : Site N) : Prop where
  turns : ∀ turn ∈ s.turns, terms.turns turn
  cached : ∀ cache, s.cache = some cache → ∀ e ∈ cache.entries, terms.responses e.response
  settings : s.cache.map Rpc.Cache.settings = terms.settings
  trouble : s.trouble = terms.trouble
  requestId : s.requestId = terms.requestId
  clock : s.clock = terms.clock

theorem steady_of {s : Site N} {responses : Rpc.Response → Prop}
    (cached : ∀ cache, s.cache = some cache → ∀ e ∈ cache.entries, responses e.response) : Steady (.of s responses) s :=
  ⟨fun _ member => List.mem_cons_of_mem _ member, cached, rfl, rfl, rfl, rfl⟩

variable {terms : Terms N}

theorem Steady.ofCalm {s s' : Site N} (calm : Calm s s') (steady : Steady terms s) : Steady terms s' := by
  cases calm
  exact ⟨steady.turns, steady.cached, steady.settings, steady.trouble, steady.requestId, steady.clock⟩

theorem Steady.turn {s : Site N} (steady : Steady terms s) : terms.turns (turnOf s) := by
  unfold turnOf
  cases turns : s.turns with
  | nil => exact terms.default
  | cons turn rest => exact steady.turns turn (turns ▸ List.mem_cons_self)

theorem Steady.afterPost {s : Site N} (steady : Steady terms s) (post : Post) : Steady terms (afterPost post s) :=
  ⟨fun turn member => steady.turns turn (List.mem_of_mem_tail member), steady.cached, steady.settings, steady.trouble,
    steady.requestId, steady.clock⟩

theorem Steady.withCache {s : Site N} (steady : Steady terms s) {cache : Rpc.Cache N}
    (kind : ∀ e ∈ cache.entries, terms.responses e.response) (settings : some cache.settings = terms.settings) :
    Steady terms { s with cache := some cache } :=
  ⟨steady.turns, fun _ same => Option.some.inj same ▸ kind, settings, steady.trouble, steady.requestId, steady.clock⟩

theorem Steady.held {s : Site N} (steady : Steady terms s) {cache : Rpc.Cache N} (held : s.cache = some cache) :
    terms.settings = some cache.settings := by
  rw [← steady.settings, held]
  rfl

def Received (terms : Terms N) (m : Message) (reply : Reply) : Prop :=
  ∃ turn address raw, terms.turns turn ∧ Answers turn m.body raw ∧ addressed m = .ok address ∧ receive address raw = .ok reply

-- Why a post came to nothing: it has no place to go to, the backend's turn failed, or its answer
-- cannot be taken in.
inductive PostFault (terms : Terms N) (m : Message) : Fault → Prop where
  | address {fault : Fault} (refused : addressed m = .error fault) : PostFault terms m fault
  | raised {turn : Turn} {fault : Fault} (takes : terms.turns turn) (fails : turn.outcome = .fails fault) : PostFault terms m fault
  | reception {turn : Turn} {address : Address} {raw : Reply} {fault : Fault} (takes : terms.turns turn)
      (answers : Answers turn m.body raw) (goes : addressed m = .ok address) (refused : receive address raw = .error fault) :
      PostFault terms m fault

theorem turn_gives (post : Post) :
    Gives (N := N) (Steady terms) (fun fault => ∃ turn, terms.turns turn ∧ turn.outcome = .fails fault)
      (fun raw => ∃ turn, terms.turns turn ∧ Answers turn post.body raw) (turn post) := by
  intro s steady
  have takes := steady.turn
  refine ⟨(turn_run post s).symm ▸ steady.afterPost post, ?_⟩
  cases run : turn post s with
  | mk outcome s' =>
    cases outcome with
    | ok raw => exact ⟨turnOf s, takes, turn_ok run⟩
    | error fault =>
      refine ⟨turnOf s, takes, ?_⟩
      simp only [turn, bind_run, site_run, update_run] at run
      cases chosen : (s.turns.headD defaultTurn).outcome with
      | reply raw =>
        rw [chosen] at run
        cases run
      | echo status headers =>
        rw [chosen] at run
        cases run
      | fails other =>
        rw [chosen] at run
        cases run
        exact chosen

theorem post_gives (m : Message) :
    Gives (N := N) (Steady terms) (PostFault terms m) (Received terms m) (post m) := by
  cases goes : addressed m with
  | error fault =>
    have stays : (post m : Work N Reply) = throw fault := by
      unfold post
      rw [goes]
      rfl
    rw [stays]
    exact gives_throw (.address goes)
  | ok address =>
    have posts : (post m : Work N Reply) = site >>= fun s =>
        turn ⟨address.text, m.body, jsonType, m.requestId, s.tree⟩ >>= fun raw =>
          Work.ofExcept (receive address raw) := by
      unfold post
      rw [goes]
      rfl
    rw [posts]
    apply gives_site_bind
    intro s _
    refine ((turn_gives _).widen (fun fault raised => ?_) fun _ takes => takes).bind fun raw answered => ?_
    · obtain ⟨turn, takes, fails⟩ := raised
      exact PostFault.raised takes fails
    · obtain ⟨turn, takes, answers⟩ := answered
      apply gives_ofExcept
      cases taken : receive address raw with
      | ok reply => exact ⟨turn, address, raw, takes, answers, goes, taken⟩
      | error fault => exact .reception takes answers goes taken

variable [Seconds N]

inductive SendFault (terms : Terms N) (policy : Option (Retry.Policy N)) (m : Message) : Fault → Prop where
  | post {fault : Fault} (failed : PostFault terms m fault) : SendFault terms policy m fault
  | asked {reply : Reply} {value : Text} {now : Calendar.Moment} {fault : Fault} (received : Received terms m reply)
      (asks : reply.header? "Retry-After" = some value) (unread : Retry.secondsAsked now value = .error fault) :
      SendFault terms policy m fault
  | waiting {p : Retry.Policy N} {share : N} {attempt : Int} (chosen : policy = some p) (least : 0 ≤ attempt)
      (early : attempt < p.maxRetries) (overflows : Retry.delay p share attempt none = .error ⟨⟩) :
      SendFault terms policy m .overflow
  | exhausted (status : Int) (preview : Text) (retryAfter : Option Num) :
      SendFault terms policy m (.exhausted status preview retryAfter)

theorem askedBy_gives (policy : Option (Retry.Policy N)) {m : Message} {reply : Reply} (received : Received terms m reply) :
    Gives (N := N) (Steady terms) (SendFault terms policy m) (fun _ => True) (askedBy reply) := by
  unfold askedBy
  cases asks : reply.header? "Retry-After" with
  | none => exact gives_pure trivial
  | some value =>
    apply gives_site_bind
    intro s _
    apply gives_ofExcept
    cases unread : Retry.secondsAsked s.now value with
    | ok seconds => trivial
    | error fault => exact .asked received asks unread

theorem chooseDelay_gives {policy : Option (Retry.Policy N)} {p : Retry.Policy N} (chosen : policy = some p) (m : Message)
    {attempt : Int} (least : 0 ≤ attempt) (early : attempt < p.maxRetries) (asked : Option N) :
    Gives (Steady terms) (SendFault terms policy m) (fun _ => True) (chooseDelay p attempt asked) := by
  cases rises : Retry.ceiling p attempt with
  | error overflow =>
    have fails : Retry.delay p Seconds.half attempt none = .error ⟨⟩ := by
      rw [Retry.delay, rises]
      rfl
    have stays : chooseDelay p attempt asked = throw .overflow := by
      rw [chooseDelay, rises]
      rfl
    rw [stays]
    exact gives_throw (.waiting chosen least early fails)
  | ok top =>
    have draws : chooseDelay p attempt asked = drawShare >>= fun share => ofOverflow (Retry.jittered share top) >>= fun drawn =>
        pure (Retry.settled p drawn asked) := by
      rw [chooseDelay, rises]
      rfl
    have drawn : Gives (Steady terms) (SendFault terms policy m) (fun _ => True) (drawShare : Work N N) :=
      gives_site_bind fun s _ => (gives_update fun _ => .ofCalm (.intro _ _ _ _ _ _)).bind fun _ _ => gives_pure trivial
    rw [draws]
    refine drawn.bind fun share _ => ?_
    refine Gives.bind (A := fun _ => True) (gives_ofExcept ?_) fun _ _ => gives_pure trivial
    cases shares : Retry.jittered share top with
    | ok part => trivial
    | error overflow =>
      have fails : Retry.delay p share attempt none = .error ⟨⟩ := by
        rw [Retry.delay, rises]
        show (Retry.jittered share top >>= fun drawn => pure (Retry.settled p drawn none)) = _
        rw [shares]
        rfl
      exact .waiting chosen least early fails

theorem pause_gives {policy : Option (Retry.Policy N)} {p : Retry.Policy N} (chosen : policy = some p) (m : Message)
    {attempt : Int} (least : 0 ≤ attempt) (early : attempt < p.maxRetries) (what : Text) (asked : Option N) :
    Gives (Steady terms) (SendFault terms policy m) (fun _ => True) (pause p m attempt what asked) :=
  (chooseDelay_gives chosen m least early asked).bind fun _ _ =>
    (gives_ends (log_calm _ _ _ _) Steady.ofCalm (ends_update _)).bind fun _ _ =>
      gives_update fun _ => .ofCalm (.intro _ _ _ _ _ _)

theorem attempts_gives (p : Retry.Policy N) (m : Message) (remaining : Nat) {attempt : Int}
    (least : 0 ≤ attempt) (count : attempt + remaining ≤ p.maxRetries ∨ remaining = 0) :
    Gives (Steady terms) (SendFault terms (some p) m) (Received terms m) (attempts p m remaining attempt) := by
  induction remaining generalizing attempt with
  | zero =>
    unfold attempts
    refine (post_gives m).attempt.bind fun outcome ended => ?_
    cases outcome with
    | error fault => exact gives_throw (.post ended)
    | ok reply =>
      simp only
      split
      · exact gives_pure ended
      · exact (askedBy_gives _ ended).bind fun _ _ => gives_throw (.exhausted _ _ _)
  | succ remaining ih =>
    have early : attempt < p.maxRetries := by omega
    have again : Gives (Steady terms) (SendFault terms (some p) m) (Received terms m) (attempts p m remaining (attempt + 1)) :=
      ih (by omega) (by omega)
    unfold attempts
    refine (post_gives m).attempt.bind fun outcome ended => ?_
    cases outcome with
    | error fault =>
      simp only
      split
      · exact (pause_gives rfl m least early _ _).bind fun _ _ => again
      · exact gives_throw (.post ended)
    | ok reply =>
      simp only
      split
      · exact gives_pure ended
      · exact (askedBy_gives _ ended).bind fun _ _ => (pause_gives rfl m least early _ _).bind fun _ _ => again

theorem send_gives (policy : Option (Retry.Policy N)) (m : Message) :
    Gives (Steady terms) (SendFault terms policy m) (Received terms m) (send policy m) := by
  cases policy with
  | none => exact (post_gives m).widen (fun _ failed => .post failed) fun _ received => received
  | some p => exact attempts_gives p m _ (Int.le_refl 0) (by omega)

end UploadRelay.Backend
