import UploadRelay.Proofs.Caller.History
import UploadRelay.Proofs.Rpc.Request
-- Which id a response carries when the backend repeats the id of every post: the id of the
-- request that was posted for it. A call that is answered from the cache gets the id of the
-- earlier request that the answer was given to, whatever its own id is.

namespace UploadRelay

open Work

namespace Backend

def Echoes {N : Type} (s : Site N) : Prop := ∀ turn ∈ s.turns, turn.outcome = .echo 200 []

variable {N : Type} [Seconds N]

omit [Seconds N] in
theorem Echoes.turn {s : Site N} (echoes : Echoes s) : (turnOf s).outcome = .echo 200 [] := by
  unfold turnOf
  cases turns : s.turns with
  | nil => rfl
  | cons turn rest => exact echoes turn (turns ▸ List.mem_cons_self)

omit [Seconds N] in
theorem Echoes.sent {s s' : Site N} (echoes : Echoes s) {body : List UInt8} (sent : Sent body s s') : Echoes s' := by
  obtain ⟨posts, sends⟩ := sent
  intro turn member
  rw [sends.turns] at member
  exact echoes turn (List.mem_of_mem_drop member)

theorem send_echo {policy : Option (Retry.Policy N)} {m : Message} {s s' : Site N} {reply : Reply} (echoes : Echoes s)
    (run : send policy m s = (.ok reply, s')) : reply = ⟨200, echoBody m.body, []⟩ := by
  obtain ⟨s₁, sent, last⟩ := send_ok run
  obtain ⟨address, raw, post, -, answers, received⟩ := post_ok last
  have chosen := (echoes.sent sent).turn
  cases answers with
  | reply other => cases other.symm.trans chosen
  | echo other =>
    cases other.symm.trans chosen
    exact (receive_plain.mp received).2

end Backend

namespace Caller

open Backend

theorem ofMembers_id {members : Members} {response : Rpc.Response}
    (read : Rpc.Response.ofMembers members = .ok response) : response.id = Members.getD members "id" (.int 0) := by
  unfold Rpc.Response.ofMembers at read
  cases checked : Rpc.Response.errorMember members with
  | error rejection =>
    rw [checked] at read
    cases read
  | ok error =>
    rw [checked] at read
    cases read
    rfl

theorem readReply_echo {r : Rpc.Request} (sound : r.Sound) {response : Rpc.Response}
    (read : readReply ⟨200, echoBody r.body, []⟩ = .ok response) : response.id = r.id.reread := by
  unfold readReply at read
  rw [if_neg (by simp), sound.readBytes_echo] at read
  simp only [Json.reread] at read
  generalize parsed : Rpc.Response.ofMembers _ = outcome at read
  cases outcome with
  | error rejection => cases read
  | ok answer =>
    cases read
    rw [ofMembers_id parsed, Members.getD, Rpc.Request.echoMembers_id, Option.getD_some]

variable {N : Type} [Seconds N]

theorem obtained_id {c : Caller N} {r : Rpc.Request} {s : Site N} {response : Rpc.Response} (echoes : Echoes s)
    (sound : r.Sound) (obtained : Obtained c r s response) : response.id = r.id.reread := by
  obtain ⟨records, cache, reply, s', run, -, read, -⟩ := obtained
  have echoed := send_echo (show Echoes { s with records, cache } from echoes) run
  rw [echoed] at read
  exact readReply_echo sound read

theorem echoes_after {event : Event} (allowed : event.Allowed) {s : Site ℚ} (echoes : Echoes s) : Echoes (event.after s) := by
  cases event with
  | call caller request =>
    have proceeds : Hook.runAll caller.hooks request = .proceed request := by
      rw [allowed.1]
      rfl
    exact echoes.sent (call_sent proceeds s)
  | elapse seconds => exact echoes
  | clear => exact echoes

theorem echoes_history {history : List Event} (allowed : ∀ event ∈ history, event.Allowed) {s : Site ℚ}
    (echoes : Echoes s) : Echoes (siteAfter s history) := by
  induction history generalizing s with
  | nil => exact echoes
  | cons event rest ih =>
    have first := echoes_after (allowed event List.mem_cons_self) echoes
    exact ih (fun e member => allowed e (List.mem_cons_of_mem event member)) first

-- The request that was posted for an answer: this one, or else an earlier one of the same user
-- for the same method and params.
def PostedFor (s : Site ℚ) (history : List Event) (c : Caller ℚ) (r posted : Rpc.Request) : Prop :=
  posted = r ∧ (siteAfter s history).posts.length < (c.call r (siteAfter s history)).2.posts.length ∨
  ∃ early c₀ since, history = early ++ .call c₀ posted :: since ∧ Event.clear ∉ since ∧ c₀.user = c.user ∧
    posted.method = r.method ∧ Json.Alike posted.paramsValue r.paramsValue ∧
    (c.call r (siteAfter s history)).2.posts = (siteAfter s history).posts

-- A response carries the id of the request that was posted for it.
theorem response_has_posted_id {settings : Rpc.Cache.Settings ℚ} {s : Site ℚ} (empty : s.cache = some (.empty settings))
    (echoes : Echoes s) {history : List Event} (allowed : ∀ event ∈ history, event.Allowed)
    (sound : ∀ caller request, .call caller request ∈ history → request.Sound) {c : Caller ℚ} (free : c.hooks = [])
    {r : Rpc.Request} (plain : r.PlainParams) (soundNow : r.Sound) {response : Rpc.Response}
    (answered : (c.call r (siteAfter s history)).1 = .ok response) :
    ∃ posted, PostedFor s history c r posted ∧ response.id = posted.id.reread := by
  have echoesNow := echoes_history allowed echoes
  cases run : c.call r (siteAfter s history) with
  | mk outcome s' =>
    have ended : outcome = .ok response := by
      rw [run] at answered
      exact answered
    subst ended
    unfold PostedFor
    rw [run]
    rcases call_goes free r (siteAfter s history) with ⟨-, past⟩ | ⟨there, listed, found, hit⟩ | ⟨there, -, miss⟩
    · rw [past] at run
      have done := dispatch_ok run
      exact ⟨r, Or.inl ⟨rfl, done.posted⟩, obtained_id echoesNow soundNow done.obtained⟩
    · rw [hit] at run
      cases run
      obtain ⟨early, c₀, r₀, since, split, uncleared, user, method, params, obtained, -⟩ :=
        repeats_hit (coherent_history empty allowed) allowed plain there found
      have earlier : ∀ event ∈ early, event.Allowed := fun event member =>
        allowed event (split ▸ List.mem_append_left _ member)
      have soundThen : r₀.Sound := sound c₀ r₀ (split ▸ List.mem_append_right early List.mem_cons_self)
      exact ⟨r₀, Or.inr ⟨early, c₀, since, split, uncleared, user, method, params, rfl⟩,
        obtained_id (echoes_history earlier echoes) soundThen obtained⟩
    · rw [miss] at run
      have done := dispatch_ok run
      exact ⟨r, Or.inl ⟨rfl, done.posted⟩, obtained_id echoesNow soundNow done.obtained⟩

theorem memoRequest_sound {id : Int} (short : (Text.ofNat id.natAbs).length ≤ Json.digitLimit) : (memoRequest id).Sound := by
  refine ⟨fun given same => ?_, .int _ short⟩
  cases same
  exact memoParams_sound 898

theorem memoSite_echoes : Backend.Echoes memoSite := fun _ member => (List.not_mem_nil member).elim

theorem memoHistory_has_posted_id :
    ∃ response posted, (memoCaller.call (memoRequest 2) (siteAfter memoSite memoHistory)).1 = .ok response ∧
      PostedFor memoSite memoHistory memoCaller (memoRequest 2) posted ∧ response.id = posted.id.reread := by
  have answers : (memoCaller.call (memoRequest 2) (siteAfter memoSite memoHistory)).1.toOption.isSome = true := by
    decide +kernel
  cases answered : (memoCaller.call (memoRequest 2) (siteAfter memoSite memoHistory)).1 with
  | error fault =>
    rw [answered] at answers
    cases answers
  | ok response =>
    have sound : ∀ caller request, .call caller request ∈ memoHistory → request.Sound := by
      intro caller request member
      rcases List.mem_cons.mp member with first | rest
      · cases first
        exact memoRequest_sound (by decide)
      · cases List.mem_singleton.mp rest
    obtain ⟨posted, asked, id⟩ := response_has_posted_id rfl memoSite_echoes memoHistory_allowed sound rfl
      (memoRequest_plain 2) (memoRequest_sound (by decide)) answered
    exact ⟨response, posted, rfl, asked, id⟩

-- The second call asks with the id 2 and is answered with the id 1.
theorem memoHistory_answers_other_id :
    memoCaller.hooks = [] ∧ Backend.Echoes memoSite ∧
      ∃ response, (memoCaller.call (memoRequest 2) (siteAfter memoSite memoHistory)).1 = .ok response ∧
        response.id ≠ (memoRequest 2).id := by
  have one : (memoCaller.call (memoRequest 2) (siteAfter memoSite memoHistory)).1.toOption.map (fun response =>
      response.id.written) = some "1" := by
    decide +kernel
  refine ⟨rfl, memoSite_echoes, ?_⟩
  cases answered : (memoCaller.call (memoRequest 2) (siteAfter memoSite memoHistory)).1 with
  | error fault =>
    rw [answered] at one
    cases one
  | ok response =>
    rw [answered] at one
    refine ⟨response, rfl, fun same => ?_⟩
    have written : response.id.written = "1" := Option.some.inj one
    rw [same] at written
    exact absurd written (by decide)

end Caller

end UploadRelay
