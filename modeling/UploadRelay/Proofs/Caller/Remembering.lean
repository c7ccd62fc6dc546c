import UploadRelay.Proofs.Backend.Answering
import UploadRelay.Proofs.Caller.Calling
import UploadRelay.Proofs.Rpc.Cache
-- Calls without hooks: where an answer comes from, and what a call leaves in the cache.

namespace UploadRelay.Caller

open Work Backend

variable {N : Type} [Seconds N]

def Obtained (c : Caller N) (request : Rpc.Request) (s : Site N) (response : Rpc.Response) : Prop :=
  ∃ records cache reply s',
    Backend.send c.policy (c.message s.requestId request) { s with records, cache } = (.ok reply, s') ∧
      reply.status = 200 ∧ readReply reply = .ok response ∧ response.error = none

omit [Seconds N] in
theorem readReply_status {reply : Reply} {response : Rpc.Response} (read : readReply reply = .ok response) :
    reply.status = 200 := by
  unfold readReply at read
  split at read
  · cases read
  · rename_i other
    exact Decidable.not_not.mp other

theorem send_ignoresCache (c : Caller N) (request : Rpc.Request) : IgnoresCache (c.send request) := by
  apply ignoresCache_site (fun _ _ => rfl)
  intro s
  apply IgnoresCache.bind (ignoresCache_log _ _ _ _)
  intro _
  apply IgnoresCache.bind (Backend.send_ignoresCache _ _).attempt
  intro outcome
  cases outcome with
  | error fault => exact ignoresCache_throw _
  | ok reply => exact ignoresCache_ofExcept _

theorem dispatch_ignoresCache (c : Caller N) (request : Rpc.Request) : IgnoresCache (c.dispatch false request) := by
  apply IgnoresCache.bind (send_ignoresCache c request)
  intro response
  apply IgnoresCache.bind (ignoresCache_ofExcept _)
  intro accepted
  exact ignoresCache_pure accepted

theorem send_ok {c : Caller N} {request : Rpc.Request} {s s' : Site N} {response : Rpc.Response}
    (run : c.send request s = (.ok response, s')) :
    ∃ records reply, Backend.send c.policy (c.message s.requestId request) { s with records } = (.ok reply, s') ∧
      readReply reply = .ok response := by
  unfold send at run
  obtain ⟨before, s₁, looked, logs⟩ := bind_ok run
  cases looked
  obtain ⟨_, s₂, logged, tries⟩ := bind_ok logs
  cases logged
  obtain ⟨outcome, s₃, tried, reads⟩ := bind_ok tries
  have sent := attempt_inv tried
  cases outcome with
  | error fault => cases reads
  | ok reply =>
    obtain ⟨read, rfl⟩ := ofExcept_inv reads
    exact ⟨_, reply, sent, read⟩

theorem accepted_ok {response answer : Rpc.Response} (taken : accepted response = .ok answer) :
    answer = response ∧ response.error = none := by
  unfold accepted at taken
  split at taken
  · cases taken
  · rename_i none
    cases taken
    exact ⟨rfl, none⟩

theorem remember_ok {key : Text} {response : Rpc.Response} {s s' : Site N}
    (run : remember key response s = (.ok (), s')) {cache : Rpc.Cache N} (held : s.cache = some cache) :
    ∃ cache', cache.set s.clock key response = .ok cache' ∧ s'.cache = some cache' := by
  unfold remember at run
  obtain ⟨before, s₁, looked, puts⟩ := bind_ok run
  cases looked
  simp only [held] at puts
  obtain ⟨cache', s₂, put, updates⟩ := bind_ok puts
  obtain ⟨fits, rfl⟩ := ofExcept_inv put
  cases updates
  cases sum : cache.set s₂.clock key response with
  | error overflow =>
    rw [sum] at fits
    cases fits
  | ok room =>
    rw [sum] at fits
    cases fits
    exact ⟨cache', rfl, rfl⟩

theorem remember_error {key : Text} {response : Rpc.Response} {s s' : Site N} {fault : Fault}
    (run : remember key response s = (.error fault, s')) : s' = s := by
  unfold remember at run
  rcases bind_error run with looked | ⟨before, s₁, looked, puts⟩
  · cases looked
  · cases looked
    cases held : s.cache with
    | none =>
      simp only [held] at puts
      cases puts
    | some cache =>
      simp only [held] at puts
      rcases bind_error puts with put | ⟨cache', s₂, put, updates⟩
      · exact (ofExcept_inv put).2
      · cases updates

structure Dispatched (c : Caller N) (cached : Bool) (request : Rpc.Request) (response : Rpc.Response) (s s' : Site N) :
    Prop where
  obtained : Obtained c request s response
  posted : s.posts.length < s'.posts.length
  past : cached = false → s'.cache = s.cache
  remembered : ∀ cache, cached = true → s.cache = some cache →
    ∃ cache', cache.set s.clock (c.key request) response = .ok cache' ∧ s'.cache = some cache'

theorem dispatch_ok {c : Caller N} {cached : Bool} {request : Rpc.Request} {s s' : Site N} {response : Rpc.Response}
    (run : c.dispatch cached request s = (.ok response, s')) : Dispatched c cached request response s s' := by
  unfold dispatch at run
  obtain ⟨answer, s₁, sent, accepts⟩ := bind_ok run
  obtain ⟨taken, s₂, checked, remembers⟩ := bind_ok accepts
  obtain ⟨accepted, rfl⟩ := ofExcept_inv checked
  obtain ⟨same, clean⟩ := accepted_ok accepted
  subst same
  obtain ⟨records, reply, asked, read⟩ := send_ok sent
  have posted : s.posts.length < s₂.posts.length := send_posts (s := { s with records }) asked
  have obtained : Obtained c request s taken := ⟨records, s.cache, reply, s₂, asked, readReply_status read, read, clean⟩
  have kept : s₂.cache = s.cache := by
    have keeps := (send_ignoresCache c request).keeps s
    rwa [sent] at keeps
  have clock : s₂.clock = s.clock := by
    obtain ⟨posts, sends⟩ := send_sent c request s
    have same := sends.sameBridge.clock
    rwa [sent] at same
  cases cached with
  | false =>
    cases remembers
    exact ⟨obtained, posted, fun _ => kept, fun cache off => nomatch off⟩
  | true =>
    obtain ⟨_, s₃, done, ends⟩ := bind_ok remembers
    cases ends
    have grown : s₂.posts.length ≤ s'.posts.length := by
      obtain ⟨posts, sends⟩ := remember_sent (c.key request) response request.body s₂
      have all := sends.posts
      rw [done] at all
      rw [all, List.length_append]
      omega
    refine ⟨obtained, by omega, (fun off => nomatch off), fun cache _ held => ?_⟩
    rw [← clock]
    exact remember_ok done (kept.trans held)

theorem dispatch_error {c : Caller N} {cached : Bool} {request : Rpc.Request} {s s' : Site N} {fault : Fault}
    (run : c.dispatch cached request s = (.error fault, s')) : s'.cache = s.cache := by
  have keeps := (send_ignoresCache c request).keeps s
  unfold dispatch at run
  rcases bind_error run with failed | ⟨answer, s₁, sent, accepts⟩
  · rwa [failed] at keeps
  · rw [sent] at keeps
    rcases bind_error accepts with refused | ⟨taken, s₂, checked, remembers⟩
    · rw [(ofExcept_inv refused).2]
      exact keeps
    · obtain ⟨-, rfl⟩ := ofExcept_inv checked
      cases cached with
      | false => cases remembers
      | true =>
        rcases bind_error remembers with full | ⟨_, s₃, -, ends⟩
        · rw [remember_error full]
          exact keeps
        · cases ends

-- The three ways of a call without hooks: past the cache, answered from it, or asked of the
-- backend for it.
inductive Goes (c : Caller N) (request : Rpc.Request) (s : Site N) : Prop where
  | past (unused : c.cacheFor s request = none) (run : c.call request s = c.dispatch false request s)
  | hit {cache : Rpc.Cache N} {response : Rpc.Response} {records : List Log.Entry} (held : s.cache = some cache)
      (listed : request.method ∈ cache.settings.methods)
      (found : (cache.get s.clock (c.key request)).1 = some response)
      (run : c.call request s =
        (.ok response, { s with cache := some (cache.get s.clock (c.key request)).2, records }))
  | miss {cache : Rpc.Cache N} (held : s.cache = some cache) (listed : request.method ∈ cache.settings.methods)
      (run : c.call request s =
        c.dispatch true request { s with cache := some (cache.get s.clock (c.key request)).2 })

omit [Seconds N] in
theorem cacheFor_some {c : Caller N} {s : Site N} {request : Rpc.Request} {cache : Rpc.Cache N}
    (used : c.cacheFor s request = some cache) : s.cache = some cache ∧ request.method ∈ cache.settings.methods := by
  unfold cacheFor at used
  split at used
  · obtain ⟨held, listed⟩ := Option.filter_eq_some_iff.mp used
    exact ⟨held, by simpa [Rpc.Cache.isCacheable] using listed⟩
  · cases used

theorem call_goes {c : Caller N} (free : c.hooks = []) (request : Rpc.Request) (s : Site N) : Goes c request s := by
  cases used : c.cacheFor s request with
  | none =>
    refine .past used ?_
    unfold call
    simp only [free, Hook.runAll, bind_run, site_run, used]
  | some cache =>
    obtain ⟨held, listed⟩ := cacheFor_some used
    cases found : (cache.get s.clock (c.key request)).1 with
    | none =>
      refine .miss held listed ?_
      unfold call
      simp only [free, Hook.runAll, bind_run, site_run, used, lookUp, update_run, pure_run, found]
    | some response =>
      have run : c.call request s = (.ok response, { s with
          cache := some (cache.get s.clock (c.key request)).2
          records := s.records ++
            [⟨logger, .debug, "Cache hit for " ++ request.method, [("user_id", c.user.json)], none⟩] }) := by
        unfold call
        simp only [free, Hook.runAll, bind_run, site_run, used, lookUp, update_run, pure_run, found, log]
      exact .hit held listed found run

theorem call_entries {c : Caller N} (free : c.hooks = []) {request : Rpc.Request} {s s' : Site N}
    {cache : Rpc.Cache N} (held : s.cache = some cache) {outcome : Except Fault Rpc.Response}
    (run : c.call request s = (outcome, s')) :
    ∃ cache', s'.cache = some cache' ∧ cache'.settings = cache.settings ∧ ∀ e ∈ cache'.entries, e ∈ cache.entries ∨
      outcome = .ok e.response ∧ e.key = c.key request ∧ Seconds.add s.clock cache.settings.ttl = .ok e.expires ∧
        request.method ∈ cache.settings.methods ∧ Obtained c request s e.response := by
  rcases call_goes free request s with ⟨-, past⟩ | ⟨there, -, -, hit⟩ | ⟨there, listed, miss⟩
  · have kept : s'.cache = s.cache := by
      rw [past] at run
      cases outcome with
      | error fault => exact dispatch_error run
      | ok response => exact (dispatch_ok run).past rfl
    exact ⟨cache, kept.trans held, rfl, fun e member => Or.inl member⟩
  · cases held.symm.trans there
    rw [hit] at run
    cases run
    exact ⟨_, rfl, Rpc.Cache.get_settings _ _ _, fun e member => Or.inl (Rpc.Cache.mem_get member)⟩
  · cases held.symm.trans there
    rw [miss] at run
    cases outcome with
    | error fault =>
      exact ⟨_, dispatch_error run, Rpc.Cache.get_settings _ _ _, fun e member => Or.inl (Rpc.Cache.mem_get member)⟩
    | ok response =>
      have done := dispatch_ok run
      obtain ⟨cache', put, kept⟩ := done.remembered _ rfl rfl
      obtain ⟨settings, entries⟩ := Rpc.Cache.mem_set put
      rw [Rpc.Cache.get_settings] at settings
      refine ⟨cache', kept, settings, fun e member => ?_⟩
      rcases entries e member with old | ⟨named, answer, expires⟩
      · exact Or.inl (Rpc.Cache.mem_get old)
      · rw [Rpc.Cache.get_settings] at expires
        refine Or.inr ⟨by rw [answer], named, expires, listed, ?_⟩
        rw [answer]
        exact done.obtained

end UploadRelay.Caller
