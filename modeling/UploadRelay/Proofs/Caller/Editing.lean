import UploadRelay.Caller
-- Requests as objects that hooks write to. Requests and the mappings of their params stand at places of
-- a store, and whoever holds a place sees what is written there; hooks are given a request of their own.

namespace UploadRelay.Editing

structure Held where
  method : Text
  params : Option Nat
  id : Json
  jsonrpc : Text

structure Store where
  mappings : List Members
  requests : List Held

namespace Store

def mapping (store : Store) (place : Nat) : Members := store.mappings.getD place []

def held (store : Store) (place : Nat) : Held := store.requests.getD place ⟨[], none, .null, []⟩

def value (store : Store) (held : Held) : Rpc.Request := ⟨held.method, held.params.map store.mapping, held.id, held.jsonrpc⟩

def read (store : Store) (place : Nat) : Rpc.Request := store.value (store.held place)

def putHeld (store : Store) (place : Nat) (held : Held) : Store :=
  { store with requests := store.requests.set place held }

def newParams (store : Store) (place : Nat) (params : Members) : Store :=
  { mappings := store.mappings ++ [params]
    requests := store.requests.set place { store.held place with params := some store.mappings.length } }

def copy (store : Store) (place : Nat) : Store :=
  let added := { store with requests := store.requests ++ [store.held place] }
  match (store.held place).params with
  | none => added
  | some shared => added.newParams store.requests.length (store.mapping shared)

structure Stands (store : Store) (place : Nat) : Prop where
  request : place < store.requests.length
  params : ∀ shared, (store.held place).params = some shared → shared < store.mappings.length

structure Extends (first store : Store) : Prop where
  mappings : first.mappings <+: store.mappings
  requests : first.requests <+: store.requests

end Store

inductive Edit where
  | setParam (name : Text) (value : Json)
  | newParams (params : Members)
  | dropParams
  | rename (method : Text)

namespace Edit

def write (store : Store) (place : Nat) : Edit → Store
  | setParam name value =>
    match (store.held place).params with
    | some own => { store with mappings := store.mappings.set own (Members.put name value (store.mapping own)) }
    | none => store.newParams place (Members.put name value [])
  | newParams params => store.newParams place params
  | dropParams => store.putHeld place { store.held place with params := none }
  | rename method => store.putHeld place { store.held place with method }

def apply (request : Rpc.Request) : Edit → Rpc.Request
  | setParam name value => Hook.setParam name value request
  | newParams params => { request with params := some params }
  | dropParams => { request with params := none }
  | rename method => { request with method }

end Edit

inductive Ending where
  | proceeds
  | answers (response : Rpc.Response)
  | aborts (fault : Fault)

structure Editor where
  name : Text
  edits : Rpc.Request → List Edit
  ending : Rpc.Request → Ending

def Editor.hook (editor : Editor) : Hook :=
  ⟨editor.name, fun request =>
    match editor.ending request with
    | .proceeds => .proceed ((editor.edits request).foldl Edit.apply request)
    | .answers response => .answer response
    | .aborts fault => .abort fault⟩

structure Outcome where
  verdict : Hook.Verdict
  store : Store
  ran : List Text

def process (place : Nat) : List Editor → Store → Outcome
  | [], store => ⟨.proceed (store.read place), store, []⟩
  | editor :: rest, store =>
    let found := store.read place
    let written := (editor.edits found).foldl (fun store edit => edit.write store place) store
    match editor.ending found with
    | .proceeds =>
      let outcome := process place rest written
      { outcome with ran := editor.name :: outcome.ran }
    | .answers response => ⟨.answer response, written, [editor.name]⟩
    | .aborts fault => ⟨.abort fault, written, [editor.name]⟩

def prepare (editors : List Editor) (store : Store) (place : Nat) : Outcome :=
  process store.requests.length editors (store.copy place)

-- A request that stands, with its params, behind everything that was there at first.
structure Private (first store : Store) (place : Nat) : Prop where
  stands : store.Stands place
  request : first.requests.length ≤ place
  params : ∀ own, (store.held place).params = some own → first.mappings.length ≤ own
  kept : first.Extends store

variable {first store : Store} {place : Nat}

theorem getD_of_prefix {α : Type} {before after : List α} (kept : before <+: after) {i : Nat} (within : i < before.length)
    (default : α) : after.getD i default = before.getD i default := by
  obtain ⟨more, rfl⟩ := kept
  simp [List.getD_eq_getElem?_getD, List.getElem?_append_left within]

theorem prefix_set {α : Type} {before after : List α} (kept : before <+: after) {i : Nat} (behind : before.length ≤ i) (a : α) :
    before <+: after.set i a := by
  obtain ⟨more, rfl⟩ := kept
  rw [List.set_append_right _ _ behind]
  exact List.prefix_append _ _

theorem read_of_extends (kept : first.Extends store) (stands : first.Stands place) : store.read place = first.read place := by
  have held : store.held place = first.held place := getD_of_prefix kept.requests stands.request _
  unfold Store.read Store.value
  rw [held]
  cases params : (first.held place).params with
  | none => rfl
  | some shared =>
    have mapping : store.mapping shared = first.mapping shared := getD_of_prefix kept.mappings (stands.params shared params) _
    rw [Option.map_some, Option.map_some, mapping]

theorem held_putHeld (within : place < store.requests.length) (held : Held) : (store.putHeld place held).held place = held := by
  simp [Store.held, Store.putHeld, within]

theorem newParams_private (within : place < store.requests.length) (behind : first.requests.length ≤ place)
    (kept : first.Extends store) (params : Members) : Private first (store.newParams place params) place ∧
      (store.newParams place params).read place = { store.read place with params := some params } := by
  have now : (store.newParams place params).held place = { store.held place with params := some store.mappings.length } :=
    held_putHeld within _
  refine ⟨⟨⟨?_, fun own holds => ?_⟩, behind, fun own holds => ?_, ⟨?_, prefix_set kept.requests behind _⟩⟩, ?_⟩
  · simpa [Store.newParams] using within
  · rw [now] at holds
    cases holds
    simp [Store.newParams]
  · rw [now] at holds
    cases holds
    exact kept.mappings.length_le
  · exact kept.mappings.trans (List.prefix_append _ _)
  · unfold Store.read
    rw [now]
    simp [Store.newParams, Store.value, Store.mapping]

theorem copy_private (store : Store) (place : Nat) : Private store (store.copy place) store.requests.length ∧
    (store.copy place).read store.requests.length = store.read place := by
  have last : (Store.mk store.mappings (store.requests ++ [store.held place])).held store.requests.length = store.held place := by
    simp [Store.held]
  have kept : store.Extends ⟨store.mappings, store.requests ++ [store.held place]⟩ := ⟨List.prefix_rfl, List.prefix_append _ _⟩
  unfold Store.copy
  cases params : (store.held place).params with
  | none =>
    refine ⟨⟨⟨by simp, fun own holds => ?_⟩, Nat.le_refl _, fun own holds => ?_, kept⟩, ?_⟩
    · rw [last, params] at holds
      cases holds
    · rw [last, params] at holds
      cases holds
    · unfold Store.read
      rw [last]
      simp only [Store.value, params, Option.map_none]
  | some shared =>
    -- Until it has params of its own, the new request still holds the shared ones.
    obtain ⟨own, read⟩ := newParams_private (by simp) (Nat.le_refl _) kept (store.mapping shared)
    refine ⟨own, read.trans ?_⟩
    unfold Store.read
    rw [last]
    simp only [Store.value, params, Option.map_some]

theorem Private.putHeld (own : Private first store place) {held : Held}
    (params : ∀ shared, held.params = some shared → (store.held place).params = some shared) :
    Private first (store.putHeld place held) place ∧ (store.putHeld place held).read place = store.value held := by
  have now : (store.putHeld place held).held place = held := held_putHeld own.stands.request held
  refine ⟨⟨⟨?_, fun shared holds => ?_⟩, own.request, fun shared holds => ?_,
    ⟨own.kept.mappings, prefix_set own.kept.requests own.request _⟩⟩, ?_⟩
  · simpa [Store.putHeld] using own.stands.request
  · rw [now] at holds
    exact own.stands.params shared (params shared holds)
  · rw [now] at holds
    exact own.params shared (params shared holds)
  · unfold Store.read
    rw [now]
    rfl

theorem Private.setMapping (own : Private first store place) {held : Nat} (holds : (store.held place).params = some held)
    (params : Members) : Private first ⟨store.mappings.set held params, store.requests⟩ place ∧
      (Store.mk (store.mappings.set held params) store.requests).read place = { store.read place with params := some params } := by
  have within := own.stands.params held holds
  have same : (Store.mk (store.mappings.set held params) store.requests).held place = store.held place := rfl
  refine ⟨⟨⟨own.stands.request, fun shared holds' => ?_⟩, own.request, own.params,
    ⟨prefix_set own.kept.mappings (own.params held holds) _, own.kept.requests⟩⟩, ?_⟩
  · simpa using own.stands.params shared holds'
  · unfold Store.read
    rw [same]
    simp [Store.value, holds, Store.mapping, within]

theorem Private.write (own : Private first store place) (edit : Edit) :
    Private first (edit.write store place) place ∧ (edit.write store place).read place = edit.apply (store.read place) := by
  cases edit with
  | setParam name value =>
    unfold Edit.write
    cases holds : (store.held place).params with
    | none =>
      obtain ⟨next, read⟩ := newParams_private own.stands.request own.request own.kept (Members.put name value [])
      refine ⟨next, read.trans ?_⟩
      simp [Edit.apply, Hook.setParam, Rpc.Request.paramsOrEmpty, Store.read, Store.value, holds]
    | some held =>
      obtain ⟨next, read⟩ := own.setMapping holds (Members.put name value (store.mapping held))
      refine ⟨next, read.trans ?_⟩
      simp [Edit.apply, Hook.setParam, Rpc.Request.paramsOrEmpty, Store.read, Store.value, holds]
  | newParams params => exact newParams_private own.stands.request own.request own.kept params
  | dropParams => exact own.putHeld fun shared holds => nomatch holds
  | rename method => exact own.putHeld fun shared holds => holds

theorem Private.writeAll (own : Private first store place) (edits : List Edit) :
    Private first (edits.foldl (fun store edit => edit.write store place) store) place ∧
      (edits.foldl (fun store edit => edit.write store place) store).read place =
        edits.foldl Edit.apply (store.read place) := by
  induction edits generalizing store with
  | nil => exact ⟨own, rfl⟩
  | cons edit rest ih =>
    obtain ⟨next, read⟩ := own.write edit
    obtain ⟨last, all⟩ := ih next
    exact ⟨last, all.trans (congrArg (rest.foldl Edit.apply) read)⟩

-- Written to in place or rewritten as a value, a request goes the same way through the hooks.
theorem Private.process (own : Private first store place) (editors : List Editor) :
    (process place editors store).verdict = Hook.runAll (editors.map Editor.hook) (store.read place) ∧
      (process place editors store).ran = Hook.trace (editors.map Editor.hook) (store.read place) ∧
      first.Extends (process place editors store).store := by
  induction editors generalizing store with
  | nil => exact ⟨rfl, rfl, own.kept⟩
  | cons editor rest ih =>
    -- What a hook writes keeps the request private, also when the hook then ends the call.
    obtain ⟨next, read⟩ := own.writeAll (editor.edits (store.read place))
    obtain ⟨verdict, ran, kept⟩ := ih next
    rw [read] at verdict ran
    rw [List.map_cons, Editing.process, Hook.runAll, Hook.trace]
    cases ending : editor.ending (store.read place) with
    | proceeds =>
      simp only [Editor.hook, ending]
      exact ⟨verdict, congrArg (editor.name :: ·) ran, kept⟩
    | answers response =>
      simp only [Editor.hook, ending, true_and]
      exact next.kept
    | aborts fault =>
      simp only [Editor.hook, ending, true_and]
      exact next.kept

-- The hooks come to what they do on values, and everything that was there before is as it was.
structure Prepares (editors : List Editor) (store : Store) (place : Nat) : Prop where
  verdict : (prepare editors store place).verdict = Hook.runAll (editors.map Editor.hook) (store.read place)
  ran : (prepare editors store place).ran = Hook.trace (editors.map Editor.hook) (store.read place)
  kept : store.Extends (prepare editors store place).store
  unchanged : (prepare editors store place).store.read place = store.read place

theorem prepare_prepares (stands : store.Stands place) (editors : List Editor) : Prepares editors store place := by
  obtain ⟨own, read⟩ := copy_private store place
  obtain ⟨verdict, ran, kept⟩ := own.process editors
  rw [read] at verdict ran
  exact ⟨verdict, ran, kept, read_of_extends kept stands⟩

-- Without the copy the request itself is written to.
example : ((process 0 [⟨"name", fun _ => [.rename "resolve"], fun _ => .proceeds⟩]
    ⟨[], [⟨"publish", none, .null, []⟩]⟩).store.read 0).method = "resolve" := rfl

end UploadRelay.Editing
