import UploadRelay.Proofs.Json.Showing
import UploadRelay.Proofs.Json.Standard
import UploadRelay.Proofs.Rpc.Response
-- Responses with extra members of known names. The id and the answer are written over extra members of their names;
-- an extra version takes the place of the response's own, and an extra member named like the other answer stays.

namespace UploadRelay.Rpc

open Json

variable {jsonrpc result id : Json} {error : Option Json} {extra : Members}

theorem get?_envelope_other (distinct : Members.Distinct extra) {name : Text} (notId : name ≠ "id")
    (notError : error ≠ none → name ≠ "error") (notResult : error = none → name ≠ "result") :
    Members.get? (envelope jsonrpc extra error result id) name =
      (Members.get? extra name).or (Members.get? [("jsonrpc", jsonrpc)] name) := by
  unfold envelope
  rw [Members.get?_put_other _ _ notId]
  cases error with
  | none => rw [Members.get?_put_other _ _ (notResult rfl), Members.get?_putAll_distinct distinct]
  | some e => rw [Members.get?_put_other _ _ (notError (Option.some_ne_none e)), Members.get?_putAll_distinct distinct]

theorem get?_envelope_id : Members.get? (envelope jsonrpc extra error result id) "id" = some id :=
  Members.get?_put_same _ _ _

theorem get?_envelope_result : Members.get? (envelope jsonrpc extra none result id) "result" = some result := by
  unfold envelope
  rw [Members.get?_put_other _ _ (by decide), Members.get?_put_same]

theorem get?_envelope_error (e : Json) : Members.get? (envelope jsonrpc extra (some e) result id) "error" = some e := by
  unfold envelope
  rw [Members.get?_put_other _ _ (by decide), Members.get?_put_same]

namespace Response

namespace Draft

def failure? (d : Draft) : Option Json :=
  match d.error with
  | .null => none
  | e => some e

def wire (d : Draft) (extra : Members) : Members := envelope d.jsonrpc extra d.failure? d.result d.id

theorem failure?_eq_none_iff (d : Draft) : d.failure? = none ↔ d.error = .null := by
  unfold failure?
  cases d.error <;> simp

theorem failure?_eq_some_iff {d : Draft} {e : Json} : d.failure? = some e ↔ d.error = e ∧ e ≠ .null := by
  by_cases none : d.error = .null
  · rw [d.failure?_eq_none_iff.mpr none, none]
    constructor
    · intro failed
      cases failed
    · rintro ⟨same, failed⟩
      exact absurd same.symm failed
  · have some : d.failure? = some d.error := by
      unfold failure?
      split
      · contradiction
      · rfl
    rw [some, Option.some.injEq]
    exact ⟨fun same => ⟨same, same ▸ none⟩, And.left⟩

theorem serialize_wire {d : Draft} (mapping : d.extra = .obj extra) :
    d.serialize = (writtenStrict (.obj (d.wire extra))).mapError .unwritable := by
  unfold serialize
  rw [mapping]
  rfl

inductive Answers (d : Draft) : (name other : Text) → Json → Prop where
  | result (success : d.error = .null) : Answers d "result" "error" d.result
  | error (failed : d.error ≠ .null) : Answers d "error" "result" d.error

-- An object says what the response says.
structure Means (d : Draft) (sent : Members) : Prop where
  jsonrpc : Members.get? sent "jsonrpc" = some d.jsonrpc
  id : Members.get? sent "id" = some d.id
  answer : ∀ name other v, d.Answers name other v → Members.get? sent name = some v ∧ Members.get? sent other = none

structure Merges (d : Draft) (extra sent : Members) : Prop where
  distinct : Members.Distinct sent
  jsonrpc : Members.get? sent "jsonrpc" = some (Members.getD extra "jsonrpc" d.jsonrpc)
  id : Members.get? sent "id" = some d.id
  answer : ∀ name other v, d.Answers name other v →
    Members.get? sent name = some v ∧ Members.get? sent other = Members.get? extra other
  others : ∀ name ∉ knownMembers, Members.get? sent name = Members.get? extra name

theorem wire_merges (d : Draft) (distinct : Members.Distinct extra) : Merges d extra (d.wire extra) where
  distinct := envelope_distinct _ _ _ _ _
  jsonrpc := by
    rw [wire, get?_envelope_other distinct (by decide) (fun _ => by decide) (fun _ => by decide), Members.getD]
    cases Members.get? extra "jsonrpc" <;> rfl
  id := get?_envelope_id
  answer := by
    intro name other v answers
    cases answers with
    | result success =>
      have none : d.failure? = none := d.failure?_eq_none_iff.mpr success
      refine ⟨by rw [wire, none, get?_envelope_result], ?_⟩
      rw [wire, get?_envelope_other distinct (by decide) (absurd none) (fun _ => by decide)]
      exact Option.or_none
    | error failed =>
      have some : d.failure? = some d.error := failure?_eq_some_iff.mpr ⟨rfl, failed⟩
      refine ⟨by rw [wire, some, get?_envelope_error], ?_⟩
      have fails : d.failure? ≠ none := some ▸ Option.some_ne_none _
      rw [wire, get?_envelope_other distinct (by decide) (fun _ => by decide) (fun none => absurd none fails)]
      exact Option.or_none
  others := by
    intro name unknown
    simp only [knownMembers, List.mem_cons, List.not_mem_nil, or_false, not_or] at unknown
    obtain ⟨notVersion, notResult, notError, notId⟩ := unknown
    have front : Members.get? [("jsonrpc", d.jsonrpc)] name = none :=
      Members.get?_absent (List.forall_mem_singleton.mpr (Ne.symm notVersion))
    rw [wire, get?_envelope_other distinct notId (fun _ => notError) (fun _ => notResult), front, Option.or_none]

-- No extra member speaks against the response: none gives another version, none is named like the other answer.
structure Unopposed (d : Draft) (extra : Members) : Prop where
  jsonrpc : ∀ v, Members.get? extra "jsonrpc" = some v → v = d.jsonrpc
  answer : ∀ name other v, d.Answers name other v → Members.get? extra other = none

theorem Merges.means_iff {d : Draft} {sent : Members} (merges : Merges d extra sent) : Means d sent ↔ Unopposed d extra := by
  constructor
  · intro means
    refine ⟨fun v found => ?_, fun name other v answers => ?_⟩
    · have same := merges.jsonrpc.symm.trans means.jsonrpc
      rw [Members.getD, found] at same
      exact Option.some.inj same
    · exact (merges.answer name other v answers).2.symm.trans (means.answer name other v answers).2
  · intro unopposed
    refine ⟨?_, merges.id, fun name other v answers => ?_⟩
    · rw [merges.jsonrpc, Members.getD]
      cases found : Members.get? extra "jsonrpc" with
      | none => rfl
      | some v => rw [Option.getD_some, unopposed.jsonrpc v found]
    · obtain ⟨same, other⟩ := merges.answer name other v answers
      exact ⟨same, other.trans (unopposed.answer name _ v answers)⟩

def values (d : Draft) : List Json := [d.result, d.error, d.id, d.jsonrpc, d.extra]

def Finite (d : Draft) : Prop := ∀ v ∈ d.values, Decoded v ∧ AllFinite v

theorem finite_of_reread {d : Draft} (same : reread (.arr d.values) = .arr d.values) (clear : firstFault (.arr d.values) = none) :
    d.Finite := by
  have decoded : Decoded (.arr d.values) := (stable_of_reread same).decoded
  have bounded : AllFinite (.arr d.values) := finite_of_writable clear
  cases decoded with
  | arr decoded =>
    cases bounded with
    | arr bounded => exact fun v member => ⟨decoded v member, bounded v member⟩

theorem Finite.wire {d : Draft} (finite : d.Finite) (mapping : d.extra = .obj extra) :
    Decoded (.obj (d.wire extra)) ∧ AllFinite (.obj (d.wire extra)) := by
  have extras : Decoded (.obj extra) ∧ AllFinite (.obj extra) := mapping ▸ finite d.extra (by simp [values])
  have each : ∀ m ∈ d.wire extra, Decoded m.2 ∧ AllFinite m.2 := by
    intro m member
    cases mem_envelope member with
    | version => exact finite d.jsonrpc (by simp [values])
    | extra member =>
      cases extras.1 with
      | obj _ decoded => exact ⟨decoded m member, allFinite_obj.mp extras.2 m member⟩
    | result _ => exact finite d.result (by simp [values])
    | @error e failed =>
      exact (failure?_eq_some_iff.mp failed).1 ▸ finite d.error (by simp [values])
    | id => exact finite d.id (by simp [values])
  exact ⟨.obj (envelope_distinct _ _ _ _ _) fun m member => (each m member).1, .obj fun m member => (each m member).2⟩

-- What a client gets of a response: an object in which the members of the response and its extra members are merged,
-- with the meaning of the response unless an extra member speaks against it. Within the limits of a reader the text is
-- read as that object.
structure Delivers (d : Draft) (extra sent : Members) (t : Text) : Prop where
  text : t = written (.obj sent)
  merges : Merges d extra sent
  means_iff : Means d sent ↔ Unopposed d extra
  read : Fits nestingLimit (.obj sent) → ∃ members, readBytes (Utf8.encode t) = .ok (.obj members) ∧
    ∀ name ∈ knownMembers, Members.get? members name = (Members.get? sent name).map reread

theorem readBytes_known {members : Members} (distinct : Members.Distinct members) (fits : Fits nestingLimit (.obj members)) :
    ∃ found, readBytes (Utf8.encode (written (.obj members))) = .ok (.obj found) ∧
      ∀ name ∈ knownMembers, Members.get? found name = (Members.get? members name).map reread := by
  refine ⟨_, readBytes_written fits, fun name known => ?_⟩
  have small : ∀ name ∈ knownMembers, ∀ c ∈ name, c.val < 0xD800 := by decide
  cases found : Members.get? members name with
  | none =>
    exact get?_reread_absent (fun c there => Nat.lt_trans (small name known c there) (by decide))
      (Members.get?_eq_none_iff.mp found)
  | some v => exact get?_reread distinct (small name known) found

theorem serialize_delivers {d : Draft} (finite : d.Finite) (mapping : d.extra = .obj extra) :
    ∃ t sent, d.serialize = .ok t ∧ Delivers d extra sent t := by
  obtain ⟨decoded, bounded⟩ := finite.wire mapping
  have distinct : Members.Distinct extra := by
    cases (mapping ▸ (finite d.extra (by simp [values])).1 : Decoded (.obj extra)) with
    | obj distinct _ => exact distinct
  have merges : Merges d extra (d.wire extra) := wire_merges d distinct
  refine ⟨written (.obj (d.wire extra)), d.wire extra, ?_, rfl, merges, merges.means_iff, readBytes_known merges.distinct⟩
  rw [serialize_wire mapping, writtenStrict, decoded.writable.mpr bounded]
  rfl

end Draft

def draft (r : Response) : Draft where
  result := r.result
  error := (r.error.map Json.obj).getD .null
  id := r.id
  jsonrpc := .str r.jsonrpc
  extra := .obj r.extra

theorem serialize_draft (r : Response) : r.draft.serialize = r.serialize := by
  have error : r.draft.failure? = r.error.map .obj := by
    unfold Draft.failure? draft
    cases r.error <;> rfl
  rw [Draft.serialize_wire rfl, Draft.wire, error]
  rfl

theorem ofMembers_unopposed {members : Members} {r : Response} (accepted : ofMembers members = .ok r) :
    r.draft.Unopposed r.extra := by
  have unknown : ∀ name ∈ knownMembers, Members.get? r.extra name = none := by
    unfold ofMembers at accepted
    cases taken : errorMember members with
    | error rejection =>
      rw [taken] at accepted
      cases accepted
    | ok error =>
      rw [taken] at accepted
      cases accepted
      intro name known
      refine Members.get?_absent fun m member same => ?_
      have kept : m.1 ∉ knownMembers := by simpa using (List.mem_filter.mp member).2
      exact kept (same ▸ known)
  refine ⟨fun v found => ?_, fun name other v answers => ?_⟩
  · rw [unknown _ (by decide)] at found
    cases found
  · cases answers with
    | result _ => exact unknown _ (by decide)
    | error _ => exact unknown _ (by decide)

def contraryExtra : Members :=
  [("took", .int 3), ("id", .int 6), ("result", .arr []), ("jsonrpc", .str "1.0"), ("error", .str "none")]

def contraryFailure : Response := ⟨.null, some [("code", .int 7), ("message", .str "m")], .int 5, "2.0", contraryExtra⟩

theorem contraryFailure_delivers :
    contraryFailure.draft.Finite ∧ contraryFailure.draft.extra = .obj contraryExtra ∧
      ∃ t sent, contraryFailure.draft.serialize = .ok t ∧ contraryFailure.draft.Delivers contraryExtra sent t := by
  have finite : contraryFailure.draft.Finite := Draft.finite_of_reread rfl rfl
  exact ⟨finite, rfl, Draft.serialize_delivers finite rfl⟩

def twoAnswers : Draft where
  result := .int 1
  id := .int 1
  extra := .obj [("jsonrpc", .str "1.0"), ("error", .obj [("code", .int 7), ("message", .str "m")])]

def twoAnswersSent : Members :=
  [("jsonrpc", .str "1.0"), ("error", .obj [("code", .int 7), ("message", .str "m")]), ("result", .int 1), ("id", .int 1)]

theorem twoAnswers_contradict :
    twoAnswers.Finite ∧ twoAnswers.serialize = .ok (written (.obj twoAnswersSent)) ∧
      readBytes (Utf8.encode (written (.obj twoAnswersSent))) = .ok (.obj twoAnswersSent) ∧ ¬ twoAnswers.Means twoAnswersSent := by
  have error : Fits (898 + 1) (.obj [("code", .int 7), ("message", .str "m")]) :=
    .obj (List.forall_mem_cons.mpr ⟨.int 898 (by decide), List.forall_mem_singleton.mpr (.str 898 "m")⟩)
  have fits : Fits (899 + 1) (.obj twoAnswersSent) :=
    .obj (List.forall_mem_cons.mpr ⟨.str 899 "1.0", List.forall_mem_cons.mpr ⟨error, List.forall_mem_cons.mpr
      ⟨.int 899 (by decide), List.forall_mem_singleton.mpr (.int 899 (by decide))⟩⟩⟩)
  have read : readBytes (writtenBytes (.obj twoAnswersSent)) = .ok (.obj twoAnswersSent) := (stable_of_reread rfl).readBytes fits
  refine ⟨Draft.finite_of_reread rfl rfl, rfl, read, fun means => ?_⟩
  exact absurd (means.answer _ _ _ (.result rfl)).2 (Option.some_ne_none _)

end Response

end UploadRelay.Rpc
