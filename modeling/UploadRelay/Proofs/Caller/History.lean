import Mathlib.Tactic.Linarith
import UploadRelay.Proofs.Caller.Remembering
import UploadRelay.Proofs.Number.Exact
import UploadRelay.Proofs.Rpc.Key
-- Calls of many callers that share one cache, on an exact clock: every answer from the cache is
-- the one that an earlier call of the same user obtained for the same method and the same
-- params.

namespace UploadRelay.Caller

open Work Backend

inductive Event where
  | call (caller : Caller ℚ) (request : Rpc.Request)
  | elapse (seconds : ℚ)
  | clear

def Event.after (s : Site ℚ) : Event → Site ℚ
  | .call caller request => (caller.call request s).2
  | .elapse seconds => { s with clock := s.clock + seconds }
  | .clear => { s with cache := s.cache.map Rpc.Cache.clear }

def siteAfter (s : Site ℚ) (history : List Event) : Site ℚ := history.foldl Event.after s

theorem siteAfter_append (s : Site ℚ) (before behind : List Event) :
    siteAfter s (before ++ behind) = siteAfter (siteAfter s before) behind := List.foldl_append

def Event.Allowed : Event → Prop
  | .call caller request => caller.hooks = [] ∧ request.PlainParams
  | .elapse seconds => 0 ≤ seconds
  | .clear => True

-- Where an entry of the cache comes from: a call since the cache was last cleared, which
-- obtained the response and stored it for so many seconds.
def Stored (settings : Rpc.Cache.Settings ℚ) (s : Site ℚ) (history : List Event) (e : Rpc.Cache.Entry ℚ) : Prop :=
  ∃ early caller request since, history = early ++ .call caller request :: since ∧ Event.clear ∉ since ∧
    request.method ∈ settings.methods ∧ e.key = caller.key request ∧
    e.expires = (siteAfter s early).clock + settings.ttl ∧ Obtained caller request (siteAfter s early) e.response

def Coherent (settings : Rpc.Cache.Settings ℚ) (s : Site ℚ) (history : List Event) : Prop :=
  ∃ cache, (siteAfter s history).cache = some cache ∧ cache.settings = settings ∧
    ∀ e ∈ cache.entries, Stored settings s history e

theorem Stored.later {settings : Rpc.Cache.Settings ℚ} {s : Site ℚ} {history : List Event} {e : Rpc.Cache.Entry ℚ}
    (stored : Stored settings s history e) {event : Event} (keeps : event ≠ .clear) :
    Stored settings s (history ++ [event]) e := by
  obtain ⟨early, caller, request, since, rfl, uncleared, rest⟩ := stored
  refine ⟨early, caller, request, since ++ [event], by simp, ?_, rest⟩
  intro cleared
  rcases List.mem_append.mp cleared with there | last
  · exact uncleared there
  · exact keeps (List.mem_singleton.mp last).symm

theorem coherent_empty {settings : Rpc.Cache.Settings ℚ} {s : Site ℚ} (empty : s.cache = some (.empty settings)) :
    Coherent settings s [] := by
  refine ⟨.empty settings, empty, rfl, ?_⟩
  intro e member
  cases member

theorem coherent_after {settings : Rpc.Cache.Settings ℚ} {s : Site ℚ} {history : List Event}
    (coherent : Coherent settings s history) {event : Event} (allowed : event.Allowed) :
    Coherent settings s (history ++ [event]) := by
  obtain ⟨cache, held, rfl, stored⟩ := coherent
  unfold Coherent
  rw [siteAfter_append]
  cases event with
  | call caller request =>
    cases run : caller.call request (siteAfter s history) with
    | mk outcome s' =>
      obtain ⟨cache', held', same, entries⟩ := call_entries allowed.1 held run
      have next : siteAfter (siteAfter s history) [.call caller request] = s' := congrArg Prod.snd run
      rw [next]
      refine ⟨cache', held', same, fun e member => ?_⟩
      rcases entries e member with old | ⟨-, named, expires, listed, obtained⟩
      · exact (stored e old).later (by simp)
      · have sum : (siteAfter s history).clock + cache.settings.ttl = e.expires := Except.ok.inj expires
        exact ⟨history, caller, request, [], rfl, by simp, listed, named, sum.symm, obtained⟩
  | elapse seconds => exact ⟨cache, held, rfl, fun e member => (stored e member).later (by simp)⟩
  | clear =>
    refine ⟨cache.clear, congrArg (Option.map Rpc.Cache.clear) held, rfl, fun e member => ?_⟩
    cases member

theorem coherent_history {settings : Rpc.Cache.Settings ℚ} {s : Site ℚ} (empty : s.cache = some (.empty settings))
    {history : List Event} (allowed : ∀ event ∈ history, event.Allowed) : Coherent settings s history := by
  induction history using List.reverseRecOn with
  | nil => exact coherent_empty empty
  | append_singleton before event ih =>
    have coherent := ih fun e member => allowed e (List.mem_append_left [event] member)
    exact coherent_after coherent (allowed event (List.mem_append_right before (List.mem_singleton.mpr rfl)))

theorem clock_after {event : Event} (allowed : event.Allowed) (s : Site ℚ) : s.clock ≤ (event.after s).clock := by
  cases event with
  | call caller request =>
    have proceeds : Hook.runAll caller.hooks request = .proceed request := by
      rw [allowed.1]
      rfl
    obtain ⟨posts, sends⟩ := call_sent proceeds s
    exact le_of_eq sends.sameBridge.clock.symm
  | elapse seconds =>
    have forward : 0 ≤ seconds := allowed
    show s.clock ≤ s.clock + seconds
    linarith
  | clear => exact le_refl s.clock

theorem clock_history {history : List Event} (allowed : ∀ event ∈ history, event.Allowed) (s : Site ℚ) :
    s.clock ≤ (siteAfter s history).clock := by
  induction history generalizing s with
  | nil => exact le_refl s.clock
  | cons event rest ih =>
    have first := clock_after (allowed event List.mem_cons_self) s
    exact le_trans first (ih (fun e member => allowed e (List.mem_cons_of_mem event member)) (event.after s))

-- The response is the one that an earlier call of the same user obtained, for the same method
-- and params, less than the time to live ago and since the cache was last cleared.
def Repeats (settings : Rpc.Cache.Settings ℚ) (s : Site ℚ) (history : List Event) (c : Caller ℚ) (r : Rpc.Request)
    (response : Rpc.Response) : Prop :=
  ∃ early c₀ r₀ since, history = early ++ .call c₀ r₀ :: since ∧ Event.clear ∉ since ∧
    c₀.user = c.user ∧ r₀.method = r.method ∧ Json.Alike r₀.paramsValue r.paramsValue ∧
    Obtained c₀ r₀ (siteAfter s early) response ∧ (siteAfter s early).clock ≤ (siteAfter s history).clock ∧
    (siteAfter s history).clock - (siteAfter s early).clock < settings.ttl

theorem repeats_hit {settings : Rpc.Cache.Settings ℚ} {s : Site ℚ} {history : List Event}
    (coherent : Coherent settings s history) (allowed : ∀ event ∈ history, event.Allowed) {c : Caller ℚ} {r : Rpc.Request}
    (plain : r.PlainParams) {cache : Rpc.Cache ℚ} (held : (siteAfter s history).cache = some cache)
    {response : Rpc.Response} (found : (cache.get (siteAfter s history).clock (c.key r)).1 = some response) :
    Repeats settings s history c r response := by
  obtain ⟨cache', held', -, stored⟩ := coherent
  cases held.symm.trans held'
  obtain ⟨e, member, named, fresh, rfl⟩ := Rpc.Cache.get_hit found
  obtain ⟨early, c₀, r₀, since, rfl, uncleared, -, key, expires, obtained⟩ := stored e member
  have called : Event.Allowed (.call c₀ r₀) := allowed _ (by simp)
  obtain ⟨users, methods, params⟩ := Rpc.Request.cacheKey_unambiguous called.2 plain (key.symm.trans named)
  have forward : (siteAfter s early).clock ≤ (siteAfter s (early ++ .call c₀ r₀ :: since)).clock := by
    rw [siteAfter_append]
    exact clock_history (fun event there => allowed event (List.mem_append_right early there)) _
  have young : ¬ e.expires ≤ (siteAfter s (early ++ .call c₀ r₀ :: since)).clock := by
    simpa [Rpc.Cache.hasExpired, Seconds.atMost] using fresh
  rw [expires] at young
  exact ⟨early, c₀, r₀, since, rfl, uncleared, users, methods, params, obtained, forward, by linarith⟩

theorem unposted_hit {c : Caller ℚ} (free : c.hooks = []) {r : Rpc.Request} {s : Site ℚ} {response : Rpc.Response}
    (answered : (c.call r s).1 = .ok response) (unposted : (c.call r s).2.posts = s.posts) :
    ∃ cache, s.cache = some cache ∧ r.method ∈ cache.settings.methods ∧
      (cache.get s.clock (c.key r)).1 = some response := by
  cases run : c.call r s with
  | mk outcome s' =>
    rw [run] at answered unposted
    simp only at answered unposted
    subst answered
    rcases call_goes free r s with ⟨-, past⟩ | ⟨held, listed, found, hit⟩ | ⟨held, -, miss⟩
    · rw [past] at run
      have posted := (dispatch_ok run).posted
      rw [unposted] at posted
      exact absurd posted (Nat.lt_irrefl _)
    · rw [hit] at run
      cases run
      exact ⟨_, held, listed, found⟩
    · rw [miss] at run
      have posted : s.posts.length < s'.posts.length := (dispatch_ok run).posted
      rw [unposted] at posted
      exact absurd posted (Nat.lt_irrefl _)

theorem unlisted_past {c : Caller ℚ} (free : c.hooks = []) {r : Rpc.Request} {s : Site ℚ} {cache : Rpc.Cache ℚ}
    (held : s.cache = some cache) (unlisted : r.method ∉ cache.settings.methods) :
    c.call r s = c.dispatch false r s := by
  rcases call_goes free r s with ⟨-, past⟩ | ⟨there, listed, -, -⟩ | ⟨there, listed, -⟩
  · exact past
  · cases held.symm.trans there
    exact absurd listed unlisted
  · cases held.symm.trans there
    exact absurd listed unlisted

-- How a call behind a history uses the cache that all callers share.
structure SharesCache (settings : Rpc.Cache.Settings ℚ) (s : Site ℚ) (history : List Event) (c : Caller ℚ)
    (r : Rpc.Request) : Prop where
  answers : ∀ response, (c.call r (siteAfter s history)).1 = .ok response →
    (c.call r (siteAfter s history)).2.posts = (siteAfter s history).posts →
    r.method ∈ settings.methods ∧ Repeats settings s history c r response
  failures : ∀ fault, (c.call r (siteAfter s history)).1 = .error fault →
    ∃ before behind, (siteAfter s history).cache = some before ∧
      (c.call r (siteAfter s history)).2.cache = some behind ∧ ∀ e ∈ behind.entries, e ∈ before.entries
  others : r.method ∉ settings.methods →
    (c.call r (siteAfter s history)).2.cache = (siteAfter s history).cache ∧
    ∀ entries, c.call r { siteAfter s history with cache := some ⟨settings, entries⟩ } =
      ((c.call r (siteAfter s history)).1,
        { (c.call r (siteAfter s history)).2 with cache := some ⟨settings, entries⟩ })

theorem call_shares_cache {settings : Rpc.Cache.Settings ℚ} {s : Site ℚ} (empty : s.cache = some (.empty settings))
    {history : List Event} (allowed : ∀ event ∈ history, event.Allowed) {c : Caller ℚ} (free : c.hooks = [])
    {r : Rpc.Request} (plain : r.PlainParams) : SharesCache settings s history c r := by
  have coherent := coherent_history empty allowed
  obtain ⟨cache, held, rfl, -⟩ := coherent_history empty allowed
  refine ⟨fun response answered unposted => ?answers, fun fault failed => ?failures, fun unlisted => ?others⟩
  case answers =>
    obtain ⟨cache', held', listed, found⟩ := unposted_hit free answered unposted
    cases held.symm.trans held'
    exact ⟨listed, repeats_hit coherent allowed plain held found⟩
  case failures =>
    cases run : c.call r (siteAfter s history) with
    | mk outcome s' =>
      obtain ⟨behind, held', -, entries⟩ := call_entries free held run
      refine ⟨cache, behind, held, held', fun e member => ?_⟩
      rcases entries e member with old | ⟨answered, -⟩
      · exact old
      · rw [run, answered] at failed
        cases failed
  case others =>
    have ignores := dispatch_ignoresCache c r
    rw [unlisted_past free held unlisted]
    refine ⟨ignores.keeps _, fun entries => ?_⟩
    have past : c.call r { siteAfter s history with cache := some ⟨cache.settings, entries⟩ } =
        c.dispatch false r { siteAfter s history with cache := some ⟨cache.settings, entries⟩ } :=
      unlisted_past free rfl unlisted
    rw [past]
    exact ignores _ _

def memoSettings : Rpc.Cache.Settings ℚ := ⟨60, .int 8, ["resolve"]⟩

def memoSite : Site ℚ := { Site.new .empty 0 0 (fun _ => "k3") with cache := some (.empty memoSettings) }

def memoCaller : Caller ℚ := ⟨"http://backend:5279/", .number 7, [], none, true⟩

def memoRequest (id : Int) : Rpc.Request := ⟨"resolve", some [("page", .bool true)], .int id, "2.0"⟩

def memoHistory : List Event := [.call memoCaller (memoRequest 1), .elapse 5]

theorem memoParams_sound (depth : Nat) : Json.Sound (depth + 1) (.obj [("page", .bool true)]) :=
  ⟨.obj (List.forall_mem_singleton.mpr (.bool depth true)),
    .obj (List.pairwise_singleton _ _) (List.forall_mem_singleton.mpr (.bool true))⟩

theorem memoRequest_plain (id : Int) : (memoRequest id).PlainParams := by
  have plain : NoSurrogate "page" := by
    unfold NoSurrogate
    decide
  refine ⟨fun given same => ?_, fun given same => ?_⟩
  · cases same
    exact memoParams_sound 899
  · cases same
    exact .obj (List.forall_mem_singleton.mpr plain) (List.forall_mem_singleton.mpr (.bool true))

theorem memoHistory_allowed : ∀ event ∈ memoHistory, event.Allowed := by
  refine List.forall_mem_cons.mpr ⟨⟨rfl, memoRequest_plain 1⟩, List.forall_mem_singleton.mpr ?_⟩
  show (0 : ℚ) ≤ 5
  norm_num

theorem memoHistory_shares_cache :
    SharesCache memoSettings memoSite memoHistory memoCaller (memoRequest 2) ∧
      ((memoCaller.call (memoRequest 2) (siteAfter memoSite memoHistory)).1.toOption.isSome = true ∧
        (memoCaller.call (memoRequest 2) (siteAfter memoSite memoHistory)).2.posts.length = 1) :=
  ⟨call_shares_cache rfl memoHistory_allowed rfl (memoRequest_plain 2), by decide +kernel⟩

end UploadRelay.Caller
