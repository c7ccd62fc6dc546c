import UploadRelay.Caller
import UploadRelay.Proofs.Caller.Editing
import UploadRelay.Proofs.Caller.Remembering
import UploadRelay.Proofs.Number.Exact
-- Lists of hooks: which of them run, on which request each of them runs, and which one has the
-- last word.

namespace UploadRelay.Hook

def Proceeds (hook : Hook) (request : Rpc.Request) : Prop := ∃ next, hook.run request = .proceed next

def rewrite (hook : Hook) (request : Rpc.Request) : Rpc.Request :=
  match hook.run request with
  | .proceed next => next
  | _ => request

def rewritten (hooks : List Hook) (request : Rpc.Request) (count : Nat) : Rpc.Request :=
  (hooks.take count).foldl (fun request hook => hook.rewrite request) request

def Reaches (hooks : List Hook) (request : Rpc.Request) (count : Nat) : Prop :=
  ∀ i < count, ∀ hook, hooks[i]? = some hook → hook.Proceeds (rewritten hooks request i)

structure Stops (hooks : List Hook) (request : Rpc.Request) (place : Nat) (hook : Hook) : Prop where
  stands : hooks[place]? = some hook
  reached : Reaches hooks request place
  halts : ¬ hook.Proceeds (rewritten hooks request place)

def Passes (hooks : List Hook) (request : Rpc.Request) : Prop := Reaches hooks request hooks.length

variable {hooks rest : List Hook} {hook : Hook} {request next : Rpc.Request} {place : Nat}

theorem rewritten_cons (proceeds : hook.run request = .proceed next) (count : Nat) :
    rewritten (hook :: rest) request (count + 1) = rewritten rest next count := by
  have step : hook.rewrite request = next := by rw [rewrite, proceeds]
  show rewritten rest (hook.rewrite request) count = _
  rw [step]

theorem reaches_cons (proceeds : hook.run request = .proceed next) {count : Nat} :
    Reaches (hook :: rest) request (count + 1) ↔ Reaches rest next count := by
  constructor
  · intro reached i less other stands
    rw [← rewritten_cons proceeds]
    exact reached (i + 1) (by omega) other stands
  · intro reached i less other stands
    cases i with
    | zero =>
      cases stands
      exact ⟨next, proceeds⟩
    | succ i =>
      rw [rewritten_cons proceeds]
      exact reached i (by omega) other stands

theorem stops_cons (proceeds : hook.run request = .proceed next) {last : Hook} :
    Stops (hook :: rest) request (place + 1) last ↔ Stops rest next place last := by
  constructor
  · intro stops
    exact ⟨stops.stands, (reaches_cons proceeds).mp stops.reached, rewritten_cons proceeds place ▸ stops.halts⟩
  · intro stops
    exact ⟨stops.stands, (reaches_cons proceeds).mpr stops.reached, (rewritten_cons proceeds place).symm ▸ stops.halts⟩

theorem stops_or_passes (hooks : List Hook) (request : Rpc.Request) :
    (∃ place hook, Stops hooks request place hook) ∨ Passes hooks request := by
  induction hooks generalizing request with
  | nil => exact Or.inr fun i less => absurd less (Nat.not_lt_zero i)
  | cons first rest ih =>
    -- A hook that proceeds moves the question on to the rest, for the request it hands on.
    by_cases proceeds : first.Proceeds request
    · obtain ⟨next, step⟩ := proceeds
      rcases ih next with ⟨place, hook, stops⟩ | passes
      · exact Or.inl ⟨place + 1, hook, (stops_cons step).mpr stops⟩
      · exact Or.inr ((reaches_cons step).mpr passes)
    · exact Or.inl ⟨0, first, rfl, fun i less => absurd less (Nat.not_lt_zero i), proceeds⟩

theorem Stops.not_passed (stops : Stops hooks request place hook) {count : Nat} (reaches : Reaches hooks request count) :
    count ≤ place := by
  refine Nat.le_of_not_lt fun less => ?_
  exact stops.halts (reaches place less hook stops.stands)

theorem Stops.not_passes (stops : Stops hooks request place hook) : ¬ Passes hooks request := by
  intro passes
  have within := (List.getElem?_eq_some_iff.mp stops.stands).1
  have bound := stops.not_passed passes
  omega

theorem Stops.unique (stops : Stops hooks request place hook) {place' : Nat} {hook' : Hook}
    (other : Stops hooks request place' hook') : place' = place ∧ hook' = hook := by
  have same : place' = place := Nat.le_antisymm (stops.not_passed other.reached) (other.not_passed stops.reached)
  subst same
  exact ⟨rfl, Option.some.inj (other.stands.symm.trans stops.stands)⟩

-- The first hook that does not proceed decides, and it is the last one to run.
theorem Stops.decides (stops : Stops hooks request place hook) :
    runAll hooks request = hook.run (rewritten hooks request place) ∧
      trace hooks request = (hooks.take (place + 1)).map Hook.name := by
  induction place generalizing hooks request with
  | zero =>
    obtain ⟨stands, -, halts⟩ := stops
    cases hooks with
    | nil => cases stands
    | cons first rest =>
      cases stands
      have here : rewritten (hook :: rest) request 0 = request := rfl
      rw [here] at halts ⊢
      cases verdict : hook.run request with
      | proceed next => exact absurd ⟨next, verdict⟩ halts
      | answer response => simp [runAll, trace, verdict]
      | abort fault => simp [runAll, trace, verdict]
  | succ place ih =>
    cases hooks with
    | nil => cases stops.stands
    | cons first rest =>
      obtain ⟨next, step⟩ := stops.reached 0 (by omega) first rfl
      have proceeds : first.run request = .proceed next := step
      obtain ⟨decides, ran⟩ := ih ((stops_cons proceeds).mp stops)
      rw [rewritten_cons proceeds, ← decides]
      exact ⟨by rw [runAll, proceeds], by simp [trace, proceeds, ran]⟩

theorem Stops.rewritten_regardless (stops : Stops hooks request place hook) (others : List Hook) {count : Nat}
    (bound : count ≤ place) : rewritten (hooks.take (place + 1) ++ others) request count = rewritten hooks request count := by
  have within := (List.getElem?_eq_some_iff.mp stops.stands).1
  unfold rewritten
  rw [List.take_append_of_le_length (by rw [List.length_take]; omega), List.take_take, Nat.min_eq_left (by omega)]

theorem Stops.regardless (stops : Stops hooks request place hook) (others : List Hook) :
    Stops (hooks.take (place + 1) ++ others) request place hook := by
  have within := (List.getElem?_eq_some_iff.mp stops.stands).1
  have same : ∀ i ≤ place, (hooks.take (place + 1) ++ others)[i]? = hooks[i]? := by
    intro i bound
    rw [List.getElem?_append_left (by rw [List.length_take]; omega), List.getElem?_take_of_lt (by omega)]
  refine ⟨(same place (Nat.le_refl _)).trans stops.stands, fun i less other stands => ?_, ?_⟩
  · rw [stops.rewritten_regardless others (by omega)]
    exact stops.reached i less other ((same i (by omega)).symm.trans stands)
  · rw [stops.rewritten_regardless others (Nat.le_refl _)]
    exact stops.halts

theorem Passes.proceeds (passes : Passes hooks request) :
    runAll hooks request = .proceed (rewritten hooks request hooks.length) ∧ trace hooks request = hooks.map Hook.name := by
  induction hooks generalizing request with
  | nil => exact ⟨rfl, rfl⟩
  | cons first rest ih =>
    obtain ⟨next, step⟩ := passes 0 (by simp) first rfl
    have proceeds : first.run request = .proceed next := step
    obtain ⟨goes, ran⟩ := ih ((reaches_cons proceeds).mp passes)
    rw [List.length_cons, rewritten_cons proceeds, ← goes]
    exact ⟨by rw [runAll, proceeds], by simp [trace, proceeds, ran]⟩

end UploadRelay.Hook

-- Calls with hooks: either one of them ends the call before anything is looked up or sent, or the call
-- is the one that would be made without hooks for the request as they leave it.
namespace UploadRelay.Caller

open Work Backend Hook

variable {N : Type} [Seconds N]

def withoutHooks (c : Caller N) : Caller N := { c with hooks := [] }

structure Stopped (c : Caller N) (request : Rpc.Request) (s : Site N) (place : Nat) (hook : Hook) : Prop where
  ran : trace c.hooks request = (c.hooks.take (place + 1)).map Hook.name
  regardless : ∀ others, runAll (c.hooks.take (place + 1) ++ others) request = runAll c.hooks request
  ends : (∃ response, hook.run (rewritten c.hooks request place) = .answer response ∧ (c.call request s).1 = .ok response) ∨
    (∃ fault, hook.run (rewritten c.hooks request place) = .abort fault ∧ (c.call request s).1 = .error fault)
  untouched : (c.call request s).2 = { s with records := (c.call request s).2.records }

structure Passed (c : Caller N) (request : Rpc.Request) (s : Site N) (next : Rpc.Request) : Prop where
  ran : trace c.hooks request = c.hooks.map Hook.name
  call : c.call request s = c.withoutHooks.call next s
  goes : Goes c.withoutHooks next s
  posts : ∃ posts, (c.call request s).2.posts = s.posts ++ posts ∧ ∀ post ∈ posts, post.body = next.body

structure Pipeline (c : Caller N) (request : Rpc.Request) (s : Site N) : Prop where
  either : (∃ place hook, Stops c.hooks request place hook) ∨ Passes c.hooks request
  once : ∀ place hook, Stops c.hooks request place hook → ¬ Passes c.hooks request ∧
    ∀ place' hook', Stops c.hooks request place' hook' → place' = place ∧ hook' = hook
  stopped : ∀ place hook, Stops c.hooks request place hook → Stopped c request s place hook
  passed : Passes c.hooks request → Passed c request s (rewritten c.hooks request c.hooks.length)

theorem call_aborted {c : Caller N} {request : Rpc.Request} {fault : Fault} (aborts : runAll c.hooks request = .abort fault)
    (s : Site N) : c.call request s = (.error fault, s) := by
  unfold call
  rw [aborts]
  rfl

theorem call_answered {c : Caller N} {request : Rpc.Request} {response : Rpc.Response}
    (answers : runAll c.hooks request = .answer response) (s : Site N) :
    ∃ records, c.call request s = (.ok response, { s with records }) := by
  unfold call
  rw [answers]
  exact ⟨_, rfl⟩

theorem call_proceeds {c : Caller N} {request next : Rpc.Request} (proceeds : runAll c.hooks request = .proceed next) :
    c.call request = c.withoutHooks.call next := by
  have plain : runAll c.withoutHooks.hooks next = .proceed next := rfl
  unfold call
  rw [proceeds, plain]
  rfl

theorem call_stopped {c : Caller N} {request : Rpc.Request} {place : Nat} {hook : Hook}
    (stops : Stops c.hooks request place hook) (s : Site N) : Stopped c request s place hook := by
  obtain ⟨decides, ran⟩ := stops.decides
  have regardless : ∀ others, runAll (c.hooks.take (place + 1) ++ others) request = runAll c.hooks request := by
    intro others
    rw [(stops.regardless others).decides.1, decides, stops.rewritten_regardless others (Nat.le_refl _)]
  cases verdict : hook.run (rewritten c.hooks request place) with
  | proceed next => exact absurd ⟨next, verdict⟩ stops.halts
  | answer response =>
    obtain ⟨records, run⟩ := call_answered (decides.trans verdict) s
    refine ⟨ran, regardless, Or.inl ⟨response, verdict, by rw [run]⟩, ?_⟩
    rw [run]
  | abort fault =>
    have run := call_aborted (decides.trans verdict) s
    refine ⟨ran, regardless, Or.inr ⟨fault, verdict, by rw [run]⟩, ?_⟩
    rw [run]

theorem call_passed {c : Caller N} {request : Rpc.Request} (passes : Passes c.hooks request) (s : Site N) :
    Passed c request s (rewritten c.hooks request c.hooks.length) := by
  obtain ⟨proceeds, ran⟩ := passes.proceeds
  obtain ⟨posts, sends⟩ := call_sent proceeds s
  exact ⟨ran, congrFun (call_proceeds proceeds) s, call_goes rfl _ s, posts, sends.posts, sends.bodies⟩

theorem call_pipeline (c : Caller N) (request : Rpc.Request) (s : Site N) : Pipeline c request s where
  either := stops_or_passes c.hooks request
  once := fun _ _ stops => ⟨stops.not_passes, fun _ _ other => stops.unique other⟩
  stopped := fun _ _ stops => call_stopped stops s
  passed := fun passes => call_passed passes s

-- A call for a request that stands in a store, with hooks that write to it: the call goes by the values
-- alone, and whoever holds the request finds it as it was.
structure Preflight (c : Caller N) (editors : List Editing.Editor) (store : Editing.Store) (place : Nat) (s : Site N) :
    Prop where
  prepares : Editing.Prepares editors store place
  pipeline : Pipeline { c with hooks := editors.map Editing.Editor.hook } (store.read place) s

theorem call_preflight (c : Caller N) (editors : List Editing.Editor) {store : Editing.Store} {place : Nat}
    (stands : store.Stands place) (s : Site N) : Preflight c editors store place s :=
  ⟨Editing.prepare_prepares stands editors, call_pipeline _ _ s⟩

-- A request that stands alone in a store, and a caller with three hooks: one marks and renames what it is
-- given, one drops the params and answers in place of the backend, and one does not get to run.
def publishStore : Editing.Store := ⟨[[("name", .str "x")]], [⟨"publish", some 0, .int 3, "2.0"⟩]⟩

def cannedResponse : Rpc.Response := ⟨.str "canned", none, .int 3, "2.0", []⟩

def gateEditors : List Editing.Editor := [
  ⟨"mark", fun _ => [.setParam "step" (.int 1), .rename "resolve"], fun _ => .proceeds⟩,
  ⟨"gate", fun _ => [.dropParams], fun request =>
    if request.method = ("resolve" : Text) then .answers cannedResponse else .aborts .overflow⟩,
  ⟨"later", fun _ => [.rename "later"], fun _ => .proceeds⟩]

def gatedCaller : Caller ℚ := ⟨"http://backend:5279/", .number 7, gateEditors.map Editing.Editor.hook, none, true⟩

def quietSite : Site ℚ := .new .empty 0 0 (fun _ => "k3")

theorem gatedCaller_preflight : publishStore.Stands 0 ∧ Preflight gatedCaller gateEditors publishStore 0 quietSite ∧
    (gatedCaller.call (publishStore.read 0) quietSite).1 = .ok cannedResponse ∧
    (Editing.prepare gateEditors publishStore 0).ran = (["mark", "gate"] : List Text) ∧
    (Editing.prepare gateEditors publishStore 0).store.read 0 = ⟨"publish", some [("name", .str "x")], .int 3, "2.0"⟩ := by
  have stands : publishStore.Stands 0 := by
    refine ⟨by decide, fun shared holds => ?_⟩
    cases holds
    decide
  exact ⟨stands, call_preflight gatedCaller gateEditors stands quietSite, rfl, rfl, rfl⟩

end UploadRelay.Caller
