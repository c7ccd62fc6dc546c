import UploadRelay.Proofs.Service.Bodies
-- Which bodies are standard JSON: all of them, but for those that tell an error object of the
-- backend whose data hold a number that is not finite.

namespace UploadRelay

open Json

theorem Fault.reply_finite {fault : Fault} {code id : Json} (coded : fault.code? = some code) (plain : AllFinite code)
    (finite : AllFinite id) : AllFinite (fault.reply id) ↔ AllFinite fault.data := by
  obtain ⟨details, answered, data, kind, same⟩ := Fault.reply_coded coded id
  have answeredFinite : AllFinite answered := by
    cases kind with
    | none => exact .int 0
    | given => exact finite
  have version : AllFinite (.str Rpc.version) := .str _
  have message : AllFinite (.str fault.message) := .str _
  rw [same]
  generalize fault.data = given at data ⊢
  cases data with
  | none => simp [allFinite_obj, answeredFinite, version, message, plain, AllFinite.null]
  | given => simp [allFinite_obj, answeredFinite, version, message, plain]

namespace Service

open Work Backend

variable {N : Type} [Seconds N]

def TellsError (s : Site N) (error : Members) (v : Json) : Prop :=
  ∃ m reply response id, Received (.of s fun _ => True) m reply ∧ Caller.readReply reply = .ok response ∧
    response.error = some error ∧ v = (Fault.ofErrorObject error (some response)).reply id

omit [Seconds N] in
theorem told_standard {s : Site N} {v : Json} (told : Told (.of s fun _ => True) v) :
    Standard .document v.written ∨ ∃ error, TellsError s error v ∧ ¬ AllFinite (Members.getD error "data" .null) ∧
      ¬ Standard .document v.written := by
  rw [standard_written]
  cases told with
  | response kind writable => exact Or.inl (finite_of_writable writable)
  | fault coded isId =>
    obtain ⟨⟨n, code, -⟩, data⟩ := coded
    left
    rw [Fault.reply_finite code (.int n) isId.finite, data]
    exact .null
  | @failure m reply response error id received read failed isId =>
    have coded : ∃ code, (Fault.ofErrorObject error (some response)).code? = some code ∧ AllFinite code := by
      refine ⟨_, rfl, ?_⟩
      split
      · exact .int _
      · exact .bool _
      · exact .int _
    obtain ⟨code, coded, plain⟩ := coded
    have exactly := Fault.reply_finite coded plain isId.finite
    by_cases finite : AllFinite (Members.getD error "data" .null)
    · exact Or.inl (exactly.mpr finite)
    · exact Or.inr ⟨error, ⟨m, reply, response, id, received, read, failed, rfl⟩, finite, fun told => finite (exactly.mp told)⟩

-- The body that answers a request is standard JSON, unless it tells an error object of the backend
-- with data that are not finite.
theorem handle_writes_standard (settings : Settings N) (route : Route) (visitor : Visitor) (r : Http.Request) (s : Site N)
    (trouble : Upload.OuterTrouble s.trouble)
    (turns : ∀ turn ∈ s.turns, ∀ fault, turn.outcome = .fails fault → fault.Uncoded) :
    ∃ v s', handle settings route visitor r s = (.ok (writtenBytes v), s') ∧
      (Standard .document v.written ∨ ∃ error, TellsError s error v ∧ ¬ AllFinite (Members.getD error "data" .null) ∧
        ¬ Standard .document v.written) := by
  have outer : Outer (.of s fun _ => True) := outer_of trouble turns fun _ _ _ _ => trivial
  obtain ⟨body, s', run, ⟨v, same, told⟩, -⟩ :=
    (handle_tells outer settings route visitor r).run (steady_of fun _ _ _ _ => trivial)
  exact ⟨v, s', same ▸ run, told_standard told⟩

def boundlessSite : Site Num :=
  { Site.new .empty (.int 0) 0 (fun _ => "k3") with
    turns := [⟨false, .reply ⟨200, Utf8.encode "\x7b\"error\": \x7b\"code\": 7, \"data\": NaN\x7d\x7d", []⟩⟩] }

def boundlessSettings : Settings Num := ⟨⟨Path.ofText "/srv/uploads"⟩, none, .silent⟩

def boundlessVisitor : Visitor := .known ⟨.number 7, some "http://backend:5279/"⟩

def boundlessRequest : Http.Request := ⟨"POST", "/proxy", [], Utf8.encode "\x7b\"method\": \"publish\"\x7d", "127.0.0.1"⟩

theorem boundlessSite_turns : ∀ turn ∈ boundlessSite.turns, ∀ fault, turn.outcome = .fails fault → fault.Uncoded := by
  intro turn member fault fails
  rw [List.mem_singleton.mp member] at fails
  cases fails

theorem boundlessSite_writes :
    ∃ v s', handle boundlessSettings .proxy boundlessVisitor boundlessRequest boundlessSite = (.ok (writtenBytes v), s') ∧
      (Standard .document v.written ∨ ∃ error, TellsError boundlessSite error v ∧
        ¬ AllFinite (Members.getD error "data" .null) ∧ ¬ Standard .document v.written) :=
  handle_writes_standard boundlessSettings .proxy boundlessVisitor boundlessRequest boundlessSite
    Upload.outerTrouble_none boundlessSite_turns

def boundlessReply : Json :=
  .obj [("jsonrpc", .str "2.0"), ("error", .obj [("code", .int 7), ("message", .str []), ("data", .float .nan)]), ("id", .int 0)]

-- What the client gets is no standard JSON.
theorem boundlessReply_written :
    (handle boundlessSettings .proxy boundlessVisitor boundlessRequest boundlessSite).1.toOption =
        some (writtenBytes boundlessReply) ∧ ¬ Standard .document boundlessReply.written := by
  refine ⟨by decide +kernel, ?_⟩
  rw [standard_written]
  intro finite
  have error := allFinite_obj.mp finite ("error", _) (List.mem_cons_of_mem _ List.mem_cons_self)
  have data := allFinite_obj.mp error ("data", .float .nan) (by simp)
  cases data with
  | float finite => cases finite

end Service

end UploadRelay
