import UploadRelay.Proofs.Json.Showing
import UploadRelay.Proofs.Json.Standard
import UploadRelay.Proofs.Rpc.Response
-- The success of a backend on its way to the client: it is written with the members it came with,
-- unless a number in it is not finite, and writing it a second time changes nothing.

namespace UploadRelay

namespace Rpc.Response

open Json

def success (members : Members) : Response where
  result := Members.getD members "result" .null
  error := none
  id := Members.getD members "id" (.int 0)
  jsonrpc := (Members.getD members "jsonrpc" (.str version)).shown
  extra := Members.without members knownMembers

variable {members : Members}

theorem ofMembers_success (errorless : Members.getD members "error" .null = .null) :
    ofMembers members = .ok (success members) := by
  have none : errorMember members = .ok none := by
    unfold errorMember
    unfold Members.getD at errorless
    cases found : Members.get? members "error" with
    | none => rfl
    | some v =>
      rw [found] at errorless
      cases errorless
      rfl
  rw [ofMembers, none]
  rfl

theorem success_unknown {m : Text × Json} (member : m ∈ (success members).extra) : m ∈ members ∧ m.1 ∉ knownMembers := by
  obtain ⟨inside, unknown⟩ := List.mem_filter.mp member
  exact ⟨inside, by simpa using unknown⟩

def opening (r : Response) : Members := [("jsonrpc", .str r.jsonrpc)]

def closing (r : Response) : Members := [("result", r.result), ("id", r.id)]

theorem wire_success (distinct : Members.Distinct members) :
    (success members).wire = (success members).opening ++ (success members).extra ++ (success members).closing := by
  generalize same : success members = r
  have errorless : r.error = none := same ▸ rfl
  have kept : Members.Distinct r.extra := same ▸ distinct.without _
  have unknown : ∀ name ∈ knownMembers, name ∉ Members.names r.extra := by
    intro name known there
    obtain ⟨m, member, rfl⟩ := List.mem_map.mp there
    exact (success_unknown (same ▸ member)).2 known
  have opened : Members.putAll r.opening r.extra = r.opening ++ r.extra :=
    Members.putAll_distinct (List.nodup_cons.mpr ⟨unknown "jsonrpc" (by decide), kept⟩)
  have fresh : ∀ name ∈ knownMembers, name ≠ "jsonrpc" → name ∉ Members.names (r.opening ++ r.extra) := by
    intro name known apart there
    rcases List.mem_cons.mp there with version | behind
    · exact apart version
    · exact unknown name known behind
  have result : Text.ofString "result" ∉ Members.names (r.opening ++ r.extra) := fresh _ (by decide) (by decide)
  have id : Text.ofString "id" ∉ Members.names (r.opening ++ r.extra ++ ([("result", r.result)] : Members)) := by
    intro there
    rw [Members.names, List.map_append] at there
    rcases List.mem_append.mp there with front | behind
    · exact fresh _ (by decide) (by decide) front
    · exact absurd (List.mem_singleton.mp behind) (by decide : Text.ofString "id" ≠ Text.ofString "result")
  show envelope (.str r.jsonrpc) r.extra (r.error.map .obj) r.result r.id = _
  rw [errorless]
  show Members.put "id" r.id (Members.put "result" r.result (Members.putAll r.opening r.extra)) = _
  rw [opened, Members.put_fresh result, Members.put_fresh id, List.append_assoc]
  rfl

structure Relays (members sent : Members) : Prop where
  distinct : Members.Distinct sent
  jsonrpc : Members.get? sent "jsonrpc" = some (.str (Members.getD members "jsonrpc" (.str version)).shown)
  result : Members.get? sent "result" = some (Members.getD members "result" .null)
  id : Members.get? sent "id" = some (Members.getD members "id" (.int 0))
  errorless : Members.get? sent "error" = none
  others : ∀ name ∉ knownMembers, Members.get? sent name = Members.get? members name

theorem relays_wire (distinct : Members.Distinct members) : Relays members (success members).wire := by
  have unknown : ∀ name ∈ knownMembers, Members.get? (success members).extra name = none := fun name known =>
    Members.get?_absent fun m member same => (success_unknown member).2 (same ▸ known)
  have found : ∀ name, Members.get? (success members).wire name =
      ((Members.get? (success members).opening name).or (Members.get? (success members).extra name)).or
        (Members.get? (success members).closing name) := by
    intro name
    rw [wire_success distinct, Members.get?_append, Members.get?_append]
  refine ⟨envelope_distinct _ _ _ _ _, ?_, ?_, ?_, ?_, fun name other => ?_⟩
  · rw [found]
    rfl
  · rw [found, unknown "result" (by decide)]
    rfl
  · rw [found, unknown "id" (by decide)]
    rfl
  · rw [found, unknown "error" (by decide)]
    rfl
  · have apart : ∀ {known : Text}, known ∈ knownMembers → known ≠ name := fun inside same => other (same ▸ inside)
    have jsonrpc : Text.ofString "jsonrpc" ≠ name := apart (by decide)
    have result : Text.ofString "result" ≠ name := apart (by decide)
    have id : Text.ofString "id" ≠ name := apart (by decide)
    have front : Members.get? (success members).opening name = none := Members.get?_absent (List.forall_mem_singleton.mpr jsonrpc)
    have back : Members.get? (success members).closing name = none :=
      Members.get?_absent (List.forall_mem_cons.mpr ⟨result, List.forall_mem_singleton.mpr id⟩)
    rw [found, front, back, Option.none_or, Option.or_none]
    exact Members.get?_without other members

theorem success_wire (distinct : Members.Distinct members) : success (success members).wire = success members := by
  have sent := relays_wire distinct
  have extra : Members.without (success members).wire knownMembers = (success members).extra := by
    have kept : (success members).extra.filter (fun m => !knownMembers.contains m.1) = (success members).extra :=
      List.filter_eq_self.mpr fun m member => by simpa using (success_unknown member).2
    rw [wire_success distinct, Members.without, List.filter_append, List.filter_append, kept]
    exact List.append_nil _
  have members' : ∀ {name : Text} {v : Json} (fallback : Json), Members.get? (success members).wire name = some v →
      Members.getD (success members).wire name fallback = v := fun fallback there => by rw [Members.getD, there, Option.getD_some]
  have result := members' .null sent.result
  have id := members' (.int 0) sent.id
  have jsonrpc := members' (.str version) sent.jsonrpc
  rw [success, result, id, jsonrpc, extra]
  rfl

theorem wire_stable (stable : Stable (.obj members)) : Stable (.obj (success members).wire) := by
  refine .obj (envelope_distinct _ _ _ _ _) fun m member => ?_
  cases mem_envelope member with
  | version => exact ⟨(by decide : Unpaired "jsonrpc"), .str (stable.getD _ (.str (by decide))).shown⟩
  | extra member => exact stable.members.2 m (success_unknown member).1
  | result _ => exact ⟨(by decide : Unpaired "result"), stable.getD _ stable_null⟩
  | error failed => cases failed
  | id => exact ⟨(by decide : Unpaired "id"), stable.getD _ (stable_int 0)⟩

theorem wire_finite (distinct : Members.Distinct members) :
    AllFinite (.obj (success members).wire) ↔ ∀ m ∈ members, m.1 ≠ "jsonrpc" → m.1 ≠ "error" → AllFinite m.2 := by
  have sent := relays_wire distinct
  have passed : ∀ {name : Text} {v fallback : Json}, (name, v) ∈ members → Members.getD members name fallback = v := by
    intro name v fallback member
    rw [Members.getD, distinct.get? member, Option.getD_some]
  have usual : ∀ {name : Text} {fallback : Json}, name ≠ "jsonrpc" ∧ name ≠ "error" → AllFinite fallback →
      (∀ m ∈ members, m.1 ≠ "jsonrpc" → m.1 ≠ "error" → AllFinite m.2) → AllFinite (Members.getD members name fallback) := by
    intro name fallback named finite all
    unfold Members.getD
    cases found : Members.get? members name with
    | none => exact finite
    | some v => exact all _ (Members.get?_mem found) named.1 named.2
  rw [allFinite_obj]
  constructor
  · rintro all ⟨name, v⟩ member notVersion notError
    by_cases known : name ∈ knownMembers
    · simp only [knownMembers, List.mem_cons, List.not_mem_nil, or_false] at known
      rcases known with rfl | rfl | rfl | rfl
      · exact absurd rfl notVersion
      · exact passed member ▸ all _ (Members.get?_mem sent.result)
      · exact absurd rfl notError
      · exact passed member ▸ all _ (Members.get?_mem sent.id)
    · exact all _ (Members.get?_mem ((sent.others name known).trans (distinct.get? member)))
  · intro all m member
    cases mem_envelope member with
    | version => exact .str _
    | extra member =>
      obtain ⟨inside, unknown⟩ := success_unknown member
      exact all m inside (fun same => unknown (same ▸ by decide)) fun same => unknown (same ▸ by decide)
    | result _ => exact usual (by decide) .null all
    | error failed => cases failed
    | id => exact usual (by decide) (.int 0) all

theorem success_fits (sound : Json.Sound nestingLimit (.obj members)) (errorless : Members.getD members "error" .null = .null) :
    Fits nestingLimit (.obj (success members).wire) := (ofMembers_sound sound (ofMembers_success errorless)).wire_fits

-- What becomes of a response without an error: it is refused for a number that is not finite and would be passed
-- on, or else the client finds its members, and reading and writing them once more gives the same text.
structure Passes (members : Members) (response : Response) : Prop where
  refused : (∃ fault, response.serialize = .error fault) ↔
    ∃ m ∈ members, m.1 ≠ "jsonrpc" ∧ m.1 ≠ "error" ∧ ¬ AllFinite m.2
  relayed : ∀ t, response.serialize = .ok t → ∃ sent, readBytes (Utf8.encode t) = .ok (.obj sent) ∧ Relays members sent ∧
    ∃ again, ofMembers sent = .ok again ∧ again.serialize = .ok t

theorem serialize_judges (r : Response) :
    (∃ fault, r.serialize = .error fault ∧ firstFault (.obj r.wire) ≠ none) ∨
    (r.serialize = .ok (written (.obj r.wire)) ∧ firstFault (.obj r.wire) = none) := by
  unfold serialize writtenStrict
  cases firstFault (.obj r.wire) with
  | none => exact Or.inr ⟨rfl, rfl⟩
  | some fault => exact Or.inl ⟨_, rfl, Option.some_ne_none fault⟩

theorem ofMembers_passes (sound : Json.Sound nestingLimit (.obj members)) (unpaired : Texts Unpaired (.obj members))
    (errorless : Members.getD members "error" .null = .null) :
    ∃ response, ofMembers members = .ok response ∧ Passes members response := by
  have stable : Stable (.obj members) := ⟨sound.2, unpaired⟩
  have distinct : Members.Distinct members := stable.members.1
  have kept : Stable (.obj (success members).wire) := wire_stable stable
  have writable : firstFault (.obj (success members).wire) = none ↔
      ∀ m ∈ members, m.1 ≠ "jsonrpc" → m.1 ≠ "error" → AllFinite m.2 := kept.decoded.writable.trans (wire_finite distinct)
  refine ⟨success members, ofMembers_success errorless, ?refused, ?relayed⟩
  case refused =>
    rcases serialize_judges (success members) with ⟨fault, failed, faulty⟩ | ⟨written, clear⟩
    · have boundless : ¬ ∀ m ∈ members, m.1 ≠ "jsonrpc" → m.1 ≠ "error" → AllFinite m.2 := fun all => faulty (writable.mpr all)
      push Not at boundless
      exact iff_of_true ⟨fault, failed⟩ boundless
    · refine iff_of_false (fun ⟨fault, failed⟩ => nomatch written.symm.trans failed) ?_
      rintro ⟨m, member, notVersion, notError, boundless⟩
      exact boundless (writable.mp clear m member notVersion notError)
  case relayed =>
    intro t serialized
    rcases serialize_judges (success members) with ⟨fault, failed, -⟩ | ⟨written, -⟩
    · cases failed.symm.trans serialized
    · cases written.symm.trans serialized
      have read : readBytes (writtenBytes (.obj (success members).wire)) = .ok (.obj (success members).wire) :=
        kept.readBytes (success_fits sound errorless)
      have sent := relays_wire distinct
      have again : ofMembers (success members).wire = .ok (success members) := by
        rw [ofMembers_success (by rw [Members.getD, sent.errorless]; rfl), success_wire distinct]
      exact ⟨_, read, sent, _, again, serialized⟩

def oddReply : Members :=
  [("took", .arr [.int 3, .str "ms"]), ("jsonrpc", .int 2), ("error", .null), ("id", .str "a")]

theorem oddReply_passes :
    Json.Sound nestingLimit (.obj oddReply) ∧ Texts Unpaired (.obj oddReply) ∧ Members.getD oddReply "error" .null = .null ∧
      ∃ response, ofMembers oddReply = .ok response ∧ Passes oddReply response := by
  have took : Json.Sound (898 + 1) (.arr [.int 3, .str "ms"]) :=
    sound_arr (List.forall_mem_cons.mpr ⟨⟨.int 898 (by decide), .int 3⟩, List.forall_mem_singleton.mpr ⟨.str 898 "ms", .str "ms"⟩⟩)
  have each : ∀ m ∈ oddReply, Json.Sound (898 + 1) m.2 :=
    List.forall_mem_cons.mpr ⟨took, List.forall_mem_cons.mpr ⟨⟨.int _ (by decide), .int 2⟩,
      List.forall_mem_cons.mpr ⟨⟨.null _, .null⟩, List.forall_mem_singleton.mpr ⟨.str _ "a", .str "a"⟩⟩⟩⟩
  have distinct : Members.Distinct oddReply := (by decide : (["took", "jsonrpc", "error", "id"] : List Text).Nodup)
  have sound : Json.Sound nestingLimit (.obj oddReply) :=
    ⟨.obj fun m member => (each m member).1, .obj distinct fun m member => (each m member).2⟩
  have unpaired : Texts Unpaired (.obj oddReply) := by decide
  exact ⟨sound, unpaired, rfl, ofMembers_passes sound unpaired rfl⟩

end Rpc.Response

end UploadRelay
