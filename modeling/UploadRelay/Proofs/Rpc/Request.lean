import UploadRelay.Caller
import UploadRelay.Proofs.Files.Path
import UploadRelay.Proofs.Json.Decoding
import UploadRelay.Proofs.Json.Spelling
-- Requests: what an envelope holds is within the limits of the reader, also with a param set
-- afterwards, so the posted body reads back.

namespace UploadRelay.Rpc.Request

open Json

def innerLimit : Nat := 899

structure Sound (r : Request) : Prop where
  params : ∀ members, r.params = some members → Json.Sound innerLimit (.obj members)
  id : Fits innerLimit r.id

theorem Sound.paramsOrEmpty {r : Request} (sound : Sound r) : Json.Sound innerLimit (.obj r.paramsOrEmpty) := by
  unfold Request.paramsOrEmpty
  cases given : r.params with
  | none => exact sound_empty _
  | some members => exact sound.params members given

theorem member_sound {depth : Nat} {members : Members} {name : Text} {v : Json}
    (sound : Json.Sound (depth + 1) (.obj members)) (found : Members.get? members name = some v) :
    Json.Sound depth v := by
  have member := Members.get?_mem found
  cases sound.1 with
  | obj fits =>
    cases sound.2 with
    | obj distinct decoded => exact ⟨fits _ member, decoded _ member⟩

theorem paramsOf_sound {members : Members} (sound : Json.Sound nestingLimit (.obj members)) {params : Option Members}
    (taken : paramsOf members = .ok params) : ∀ inner, params = some inner → Json.Sound innerLimit (.obj inner) := by
  intro inner given
  subst given
  unfold paramsOf at taken
  split at taken
  · cases taken
  · cases taken
  · rename_i found
    cases taken
    exact member_sound sound found
  · cases taken

theorem idOf_fits {members : Members} (sound : Json.Sound nestingLimit (.obj members)) {id : Json}
    (taken : idOf members = .ok id) : Fits innerLimit id := by
  have fits : Fits innerLimit (Members.getD members "id" (.int 0)) := by
    unfold Members.getD
    cases found : Members.get? members "id" with
    | none => exact .int _ (by decide)
    | some v => exact (member_sound sound found).1
  unfold idOf at taken
  split at taken <;> cases taken <;> simp_all

theorem ofMembers_parts {members : Members} {r : Request} (accepted : ofMembers members = .ok r) :
    methodOf members = .ok r.method ∧ paramsOf members = .ok r.params ∧ idOf members = .ok r.id ∧
      r.jsonrpc = (Members.getD members "jsonrpc" (.str version)).shown := by
  unfold ofMembers at accepted
  cases method : methodOf members with
  | error rejection =>
    rw [method] at accepted
    cases accepted
  | ok name =>
    cases params : paramsOf members with
    | error rejection =>
      rw [method, params] at accepted
      cases accepted
    | ok given =>
      cases id : idOf members with
      | error rejection =>
        rw [method, params, id] at accepted
        cases accepted
      | ok value =>
        rw [method, params, id] at accepted
        cases accepted
        exact ⟨rfl, rfl, rfl, rfl⟩

theorem ofMembers_sound {members : Members} (sound : Json.Sound nestingLimit (.obj members)) {r : Request}
    (accepted : ofMembers members = .ok r) : Sound r := by
  obtain ⟨-, params, id, -⟩ := ofMembers_parts accepted
  exact ⟨paramsOf_sound sound params, idOf_fits sound id⟩

theorem ofDocument_sound {document : Except Json.Fault Json} {r : Request}
    (sound : ∀ v, document = .ok v → Json.Sound nestingLimit v) (accepted : ofDocument document = .ok r) : Sound r := by
  cases document with
  | error fault => cases accepted
  | ok v =>
    cases v with
    | obj members => exact ofMembers_sound (sound _ rfl) accepted
    | _ => cases accepted

theorem ofText_sound {t : Text} {r : Request} (accepted : ofText t = .ok r) : Sound r :=
  ofDocument_sound (fun _ read => read_sound read) accepted

theorem ofBytes_sound {bytes : List UInt8} {r : Request} (accepted : ofBytes bytes = .ok r) : Sound r :=
  ofDocument_sound (fun _ read => readBytes_sound read) accepted

def heading (r : Request) : Members := [("jsonrpc", .str r.jsonrpc), ("method", .str r.method), ("id", r.id)]

def paramsMember : Option Members → Members
  | some params => [("params", .obj params)]
  | none => []

theorem wire_shape (r : Request) : r.wire = r.heading ++ paramsMember r.params := by
  unfold wire
  cases r.params <;> rfl

theorem Sound.wire_fits {r : Request} (sound : Sound r) : Fits nestingLimit (.obj r.wire) := by
  show Fits (innerLimit + 1) (.obj r.wire)
  refine .obj ?_
  intro m member
  rw [wire_shape] at member
  rcases List.mem_append.mp member with front | back
  · simp only [heading, List.mem_cons, List.not_mem_nil, or_false] at front
    rcases front with rfl | rfl | rfl
    · exact .str _ _
    · exact .str _ _
    · exact sound.id
  · cases given : r.params with
    | none =>
      rw [given] at back
      cases back
    | some params =>
      rw [given] at back
      rw [List.mem_singleton.mp back]
      exact (sound.params params given).1

theorem Sound.readBytes_body {r : Request} (sound : Sound r) : readBytes r.body = .ok (reread (.obj r.wire)) :=
  readBytes_written sound.wire_fits

theorem wire_distinct (r : Request) : Members.Distinct r.wire := by
  rw [wire_shape]
  cases r.params with
  | none => exact (by decide : (["jsonrpc", "method", "id"] : List Text).Nodup)
  | some params => exact (by decide : (["jsonrpc", "method", "id", "params"] : List Text).Nodup)

theorem Sound.posted {r : Request} (sound : Sound r) {name : Text} (small : ∀ c ∈ name, c.val < 0xD800) {v : Json}
    (found : Members.get? r.wire name = some v) : Backend.postedMember? r.body name = some (reread v) := by
  simp only [Backend.postedMember?, sound.readBytes_body, reread, member?]
  exact get?_reread r.wire_distinct small found

theorem Sound.posted_id {r : Request} (sound : Sound r) : Backend.postedMember? r.body "id" = some (reread r.id) := by
  apply sound.posted (by decide)
  rw [wire_shape]
  rfl

def echoMembers (id : Json) : Members := [("jsonrpc", .str "2.0"), ("result", .obj [("ok", .bool true)]), ("id", id)]

-- A success that repeats the posted id reads back with that id.
theorem Sound.readBytes_echo {r : Request} (sound : Sound r) :
    readBytes (Backend.echoBody r.body) = .ok (reread (.obj (echoMembers (reread r.id)))) := by
  unfold Backend.echoBody
  rw [sound.posted_id, Option.getD_some]
  apply readBytes_written
  show Fits (innerLimit + 1) (.obj (echoMembers (reread r.id)))
  have result : Fits innerLimit (.obj [("ok", .bool true)]) :=
    .obj (List.forall_mem_singleton.mpr (Fits.bool 898 true))
  exact .obj (List.forall_mem_cons.mpr ⟨.str _ _,
    List.forall_mem_cons.mpr ⟨result, List.forall_mem_singleton.mpr sound.id.reread⟩⟩)

theorem echoMembers_id (id : Json) :
    Members.get? (Members.ofPairs (rereadMembers (echoMembers (reread id)))) "id" = some (reread id) := by
  have distinct : Members.Distinct (echoMembers (reread id)) :=
    (by decide : (["jsonrpc", "result", "id"] : List Text).Nodup)
  have there : Members.get? (echoMembers (reread id)) "id" = some (reread id) := rfl
  rw [get?_reread distinct (by decide) there, reread_reread]

theorem Sound.setParam {r : Request} (sound : Sound r) (name t : Text) : Sound (Hook.setParam name (.str t) r) := by
  refine ⟨?_, sound.id⟩
  intro members given
  cases given
  have before := sound.paramsOrEmpty
  cases before.1 with
  | obj fits =>
    cases before.2 with
    | obj distinct decoded =>
      refine ⟨.obj ?_, .obj (distinct.put name (.str t)) ?_⟩
      · intro m member
        rcases Members.mem_put member with new | old
        · rw [new]
          exact .str _ t
        · exact fits m old
      · intro m member
        rcases Members.mem_put member with new | old
        · rw [new]
          exact .str t
        · exact decoded m old

-- The backend finds the path that the hook wrote, whatever params the client sent.
theorem Sound.posted_path {r : Request} (sound : Sound r) {path : Path} (normal : path.Normal) (named : path.names ≠ [])
    (unpaired : Unpaired path.text) :
    Backend.postedPath? (Hook.setParam Hook.filePathParam (.str path.text) r).body = some path := by
  have set := sound.setParam Hook.filePathParam path.text
  have params : Members.get? (Hook.setParam Hook.filePathParam (.str path.text) r).wire "params" =
      some (.obj (Members.put Hook.filePathParam (.str path.text) r.paramsOrEmpty)) := by
    rw [wire_shape]
    rfl
  have inner : Members.get? (Members.put Hook.filePathParam (.str path.text) r.paramsOrEmpty) "file_path" =
      some (.str path.text) := Members.get?_put_same _ _ _
  have distinct : Members.Distinct (Members.put Hook.filePathParam (.str path.text) r.paramsOrEmpty) := by
    cases sound.paramsOrEmpty.2 with
    | obj distinct _ => exact distinct.put _ _
  have found := get?_reread distinct (by decide) inner
  simp only [Backend.postedPath?, set.posted (by decide) params, reread, member?] at found ⊢
  simp only [found]
  rw [unpaired, Path.ofText_text normal named]

end UploadRelay.Rpc.Request
