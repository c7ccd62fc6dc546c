import UploadRelay.Fault
import UploadRelay.Proofs.Rpc.Request
-- Which documents are requests. Each of the members that count is judged for itself; of the faults
-- that a document has at once the first one in their order is told, and no other member matters.

namespace UploadRelay.Rpc.Request

inductive Payload where
  | text (t : Text)
  | bytes (bytes : List UInt8)

namespace Payload

def document : Payload → Except Json.Fault Json
  | .text t => Json.read t
  | .bytes b => Json.readBytes b

def request : Payload → Except Rejection Request
  | .text t => ofText t
  | .bytes b => ofBytes b

def parse (payload : Payload) : Except Fault Request := payload.request.mapError Fault.ofRejection

theorem request_eq (payload : Payload) : payload.request = ofDocument payload.document := by
  cases payload <;> rfl

end Payload

inductive IsParams : Option Json → Option Members → Prop where
  | absent : IsParams none none
  | null : IsParams (some .null) none
  | object (params : Members) : IsParams (some (.obj params)) (some params)

inductive IsId : Option Json → Json → Prop where
  | absent : IsId none (.int 0)
  | null : IsId (some .null) .null
  | bool (b : Bool) : IsId (some (.bool b)) (.bool b)
  | int (n : Int) : IsId (some (.int n)) (.int n)
  | str (t : Text) : IsId (some (.str t)) (.str t)

inductive IsVersion : Option Json → Text → Prop where
  | absent : IsVersion none version
  | given (v : Json) : IsVersion (some v) v.shown

structure Envelope (members : Members) (r : Request) : Prop where
  method : Members.get? members "method" = some (.str r.method)
  named : r.method ≠ []
  params : IsParams (Members.get? members "params") r.params
  id : IsId (Members.get? members "id") r.id
  jsonrpc : IsVersion (Members.get? members "jsonrpc") r.jsonrpc

-- What is wrong with a document, each fault judged for itself.
inductive Faulty : Except Json.Fault Json → Rejection → Prop where
  | unreadable (fault : Json.Fault) : Faulty (.error fault) (.unreadable fault)
  | notObject {v : Json} (other : ∀ members, v ≠ .obj members) : Faulty (.ok v) (.notObject v.kind)
  | noMethod {members : Members} (unnamed : ∀ name, name ≠ [] → Members.get? members "method" ≠ some (.str name)) :
      Faulty (.ok (.obj members)) .noMethod
  | paramsNotObject {members : Members} {v : Json} (given : Members.get? members "params" = some v)
      (other : ∀ params, ¬ IsParams (some v) params) : Faulty (.ok (.obj members)) (.paramsNotObject v.kind)
  | idNotScalar {members : Members} {v : Json} (given : Members.get? members "id" = some v)
      (other : ∀ id, ¬ IsId (some v) id) : Faulty (.ok (.obj members)) (.idNotScalar v.kind)

def Rejection.rank : Rejection → Nat
  | .unreadable _ => 0
  | .notObject _ => 1
  | .noMethod => 2
  | .paramsNotObject _ => 3
  | .idNotScalar _ => 4

def Rejection.refusal : Rejection → Refusal
  | .unreadable _ => .jsonParse
  | .notObject _ => .invalidRequest
  | .noMethod => .invalidRequest
  | .paramsNotObject _ => .invalidParams
  | .idNotScalar _ => .invalidRequest

-- The fault of a document that comes before all others it has.
structure Foremost (document : Except Json.Fault Json) (rejection : Rejection) : Prop where
  faulty : Faulty document rejection
  first : ∀ other, Faulty document other → rejection.rank ≤ other.rank

theorem Faulty.unique {document : Except Json.Fault Json} {one other : Rejection} (faulty : Faulty document one)
    (faulty' : Faulty document other) (same : one.rank = other.rank) : one = other := by
  cases faulty <;> cases faulty' <;> simp_all [Rejection.rank]

theorem Foremost.unique {document : Except Json.Fault Json} {one other : Rejection} (foremost : Foremost document one)
    (foremost' : Foremost document other) : one = other :=
  foremost.faulty.unique foremost'.faulty
    (Nat.le_antisymm (foremost.first other foremost'.faulty) (foremost'.first one foremost.faulty))

theorem IsParams.unique {given : Option Json} {params params' : Option Members} (one : IsParams given params)
    (other : IsParams given params') : params = params' := by
  cases one <;> cases other <;> rfl

theorem IsId.unique {given : Option Json} {id id' : Json} (one : IsId given id) (other : IsId given id') : id = id' := by
  cases one <;> cases other <;> rfl

theorem IsVersion.unique {given : Option Json} {t t' : Text} (one : IsVersion given t) (other : IsVersion given t') : t = t' := by
  cases one <;> cases other <;> rfl

variable {members : Members}

theorem Envelope.unique {r r' : Request} (one : Envelope members r) (other : Envelope members r') : r = r' := by
  have method : r.method = r'.method := Json.str.inj (Option.some.inj (one.method.symm.trans other.method))
  have params := one.params.unique other.params
  have id := one.id.unique other.id
  have jsonrpc := one.jsonrpc.unique other.jsonrpc
  cases r
  cases r'
  subst method params id jsonrpc
  rfl

theorem Envelope.faultless {r : Request} (envelope : Envelope members r) (rejection : Rejection) :
    ¬ Faulty (.ok (.obj members)) rejection := by
  intro faulty
  cases faulty with
  | notObject other => exact other members rfl
  | noMethod unnamed => exact unnamed r.method envelope.named envelope.method
  | paramsNotObject given other => exact other r.params (given ▸ envelope.params)
  | idNotScalar given other => exact other r.id (given ▸ envelope.id)

theorem methodOf_judges (members : Members) :
    (∃ name, methodOf members = .ok name ∧ Members.get? members "method" = some (.str name) ∧ name ≠ []) ∨
    (methodOf members = .error .noMethod ∧ ∀ name, name ≠ [] → Members.get? members "method" ≠ some (.str name)) := by
  unfold methodOf
  split
  case h_1 c rest found => exact Or.inl ⟨c :: rest, rfl, found, List.cons_ne_nil _ _⟩
  case h_2 other =>
    refine Or.inr ⟨rfl, fun name named found => ?_⟩
    cases name with
    | nil => exact named rfl
    | cons c rest => exact other c rest found

theorem paramsOf_judges (members : Members) :
    (∃ params, paramsOf members = .ok params ∧ IsParams (Members.get? members "params") params) ∨
    (∃ v, paramsOf members = .error (.paramsNotObject v.kind) ∧ Members.get? members "params" = some v ∧
      ∀ params, ¬ IsParams (some v) params) := by
  unfold paramsOf
  cases Members.get? members "params" with
  | none => exact Or.inl ⟨none, rfl, .absent⟩
  | some v =>
    cases v with
    | null => exact Or.inl ⟨none, rfl, .null⟩
    | obj params => exact Or.inl ⟨some params, rfl, .object params⟩
    | _ => exact Or.inr ⟨_, rfl, rfl, fun params isParams => nomatch isParams⟩

theorem idOf_judges (members : Members) :
    (∃ id, idOf members = .ok id ∧ IsId (Members.get? members "id") id) ∨
    (∃ v, idOf members = .error (.idNotScalar v.kind) ∧ Members.get? members "id" = some v ∧ ∀ id, ¬ IsId (some v) id) := by
  unfold idOf Members.getD
  cases Members.get? members "id" with
  | none => exact Or.inl ⟨.int 0, rfl, .absent⟩
  | some v =>
    cases v with
    | null => exact Or.inl ⟨_, rfl, .null⟩
    | bool b => exact Or.inl ⟨_, rfl, .bool b⟩
    | int n => exact Or.inl ⟨_, rfl, .int n⟩
    | str t => exact Or.inl ⟨_, rfl, .str t⟩
    | _ => exact Or.inr ⟨_, rfl, rfl, fun id isId => nomatch isId⟩

theorem jsonrpc_isVersion (members : Members) :
    IsVersion (Members.get? members "jsonrpc") (Members.getD members "jsonrpc" (.str version)).shown := by
  unfold Members.getD
  cases Members.get? members "jsonrpc" with
  | none => exact .absent
  | some v => exact .given v

theorem ofMembers_judges (members : Members) :
    (∃ r, ofMembers members = .ok r ∧ Envelope members r) ∨
    (∃ rejection, ofMembers members = .error rejection ∧ Foremost (.ok (.obj members)) rejection) := by
  unfold ofMembers
  -- A part that is taken rules out the faults before it, so the part that is refused is the foremost fault.
  rcases methodOf_judges members with ⟨name, taken, method, named⟩ | ⟨refused, unnamed⟩
  case inr =>
    refine Or.inr ⟨.noMethod, by rw [refused]; rfl, .noMethod unnamed, fun other faulty => ?_⟩
    cases faulty with
    | notObject object => exact absurd rfl (object members)
    | _ => simp [Rejection.rank]
  case inl =>
    rw [taken]
    rcases paramsOf_judges members with ⟨params, taken, isParams⟩ | ⟨v, refused, given, other⟩
    case inr =>
      refine Or.inr ⟨.paramsNotObject v.kind, by rw [refused]; rfl, .paramsNotObject given other, fun other faulty => ?_⟩
      cases faulty with
      | notObject object => exact absurd rfl (object members)
      | noMethod unnamed => exact absurd method (unnamed name named)
      | _ => simp [Rejection.rank]
    case inl =>
      rw [taken]
      rcases idOf_judges members with ⟨id, taken, isId⟩ | ⟨v, refused, given, other⟩
      case inr =>
        refine Or.inr ⟨.idNotScalar v.kind, by rw [refused]; rfl, .idNotScalar given other, fun other faulty => ?_⟩
        cases faulty with
        | notObject object => exact absurd rfl (object members)
        | noMethod unnamed => exact absurd method (unnamed name named)
        | paramsNotObject given other => exact absurd (given ▸ isParams) (other params)
        | idNotScalar => exact Nat.le_refl _
      case inl =>
        rw [taken]
        exact Or.inl ⟨_, rfl, method, named, isParams, isId, jsonrpc_isVersion members⟩

theorem ofDocument_judges (document : Except Json.Fault Json) :
    (∃ r members, ofDocument document = .ok r ∧ document = .ok (.obj members) ∧ Envelope members r) ∨
    (∃ rejection, ofDocument document = .error rejection ∧ Foremost document rejection) := by
  cases document with
  | error fault => exact Or.inr ⟨_, rfl, .unreadable fault, fun other faulty => Nat.zero_le _⟩
  | ok v =>
    cases v with
    | obj members =>
      rcases ofMembers_judges members with ⟨r, taken, envelope⟩ | ⟨rejection, refused, foremost⟩
      · exact Or.inl ⟨r, members, taken, rfl, envelope⟩
      · exact Or.inr ⟨rejection, refused, foremost⟩
    | _ =>
      refine Or.inr ⟨_, rfl, .notObject (fun members same => nomatch same), fun other faulty => ?_⟩
      cases faulty
      exact Nat.le_refl _

theorem ofDocument_ok_iff {document : Except Json.Fault Json} {r : Request} :
    ofDocument document = .ok r ↔ ∃ members, document = .ok (.obj members) ∧ Envelope members r := by
  rcases ofDocument_judges document with ⟨r', members, taken, read, envelope⟩ | ⟨rejection, refused, foremost⟩
  · rw [taken]
    constructor
    · intro same
      cases same
      exact ⟨members, read, envelope⟩
    · rintro ⟨members', read', envelope'⟩
      cases read.symm.trans read'
      rw [envelope.unique envelope']
  · rw [refused]
    refine ⟨fun same => (nomatch same), ?_⟩
    rintro ⟨members, rfl, envelope⟩
    exact absurd foremost.faulty (envelope.faultless rejection)

theorem ofDocument_error_iff {document : Except Json.Fault Json} {rejection : Rejection} :
    ofDocument document = .error rejection ↔ Foremost document rejection := by
  rcases ofDocument_judges document with ⟨r, members, taken, rfl, envelope⟩ | ⟨rejection', refused, foremost⟩
  · rw [taken]
    exact ⟨fun same => (nomatch same), fun foremost => absurd foremost.faulty (envelope.faultless rejection)⟩
  · rw [refused]
    constructor
    · intro same
      cases same
      exact foremost
    · intro foremost'
      rw [foremost.unique foremost']

theorem ofRejection_refusal {document : Except Json.Fault Json} (shallow : ∀ inObject, document ≠ .error (.tooDeep inObject))
    {rejection : Rejection} (faulty : Faulty document rejection) :
    Fault.ofRejection rejection = .refusal rejection.refusal rejection.message := by
  cases faulty with
  | unreadable fault =>
    cases fault with
    | tooDeep inObject => exact absurd rfl (shallow inObject)
    | _ => rfl
  | _ => rfl

def namedMembers : List Text := ["method", "params", "id", "jsonrpc"]

def SameNamed (members members' : Members) : Prop :=
  ∀ name ∈ namedMembers, Members.get? members name = Members.get? members' name

theorem ofMembers_same {members' : Members} (same : SameNamed members members') : ofMembers members = ofMembers members' := by
  have method := same "method" (by decide)
  have params := same "params" (by decide)
  have id := same "id" (by decide)
  have jsonrpc := same "jsonrpc" (by decide)
  unfold ofMembers methodOf paramsOf idOf Members.getD
  rw [method, params, id, jsonrpc]

structure Reads (payload : Payload) : Prop where
  accepted : ∀ r, payload.parse = .ok r ↔ ∃ members, payload.document = .ok (.obj members) ∧ Envelope members r
  refused : ∀ fault, payload.parse = .error fault ↔
    ∃ rejection, Foremost payload.document rejection ∧ fault = .refusal rejection.refusal rejection.message
  indifferent : ∀ (other : Payload) members members', payload.document = .ok (.obj members) → other.document = .ok (.obj members') →
    SameNamed members members' → payload.parse = other.parse

theorem Payload.reads {payload : Payload} (shallow : ∀ inObject, payload.document ≠ .error (.tooDeep inObject)) :
    Reads payload := by
  refine ⟨fun r => ?accepted, fun fault => ?refused, fun other members members' read read' same => ?indifferent⟩
  case accepted =>
    rw [← ofDocument_ok_iff, ← payload.request_eq, Payload.parse]
    cases payload.request <;> simp [Except.mapError]
  case refused =>
    rw [Payload.parse, payload.request_eq]
    cases outcome : ofDocument payload.document with
    | ok r =>
      refine ⟨fun raised => (nomatch raised), fun ⟨rejection, foremost, _⟩ => ?_⟩
      rw [ofDocument_error_iff.mpr foremost] at outcome
      cases outcome
    | error rejection =>
      have foremost := ofDocument_error_iff.mp outcome
      have told := ofRejection_refusal shallow foremost.faulty
      constructor
      · intro raised
        cases raised
        exact ⟨rejection, foremost, told⟩
      · rintro ⟨rejection', foremost', rfl⟩
        rw [foremost'.unique foremost, ← told]
        rfl
  case indifferent =>
    rw [Payload.parse, Payload.parse, payload.request_eq, other.request_eq, read, read']
    exact congrArg (Except.mapError Fault.ofRejection) (ofMembers_same same)

-- A payload with a member written twice, params that are nothing, a truth value for an id, and a member
-- that does not count.
def oddPayload : Payload :=
  .text "\x7b\"method\": \"old\", \"id\": true, \"params\": null, \"extra\": [1.5], \"method\": \"status\"\x7d"

theorem oddPayload_reads : (∀ inObject, oddPayload.document ≠ .error (.tooDeep inObject)) ∧ Reads oddPayload ∧
    oddPayload.parse.toOption.map quoted = some "RpcRequest(method='status', params=None, id=True, jsonrpc='2.0')" := by
  have isDocument : oddPayload.document.toOption.isSome = true := by decide +kernel
  have shallow : ∀ inObject, oddPayload.document ≠ .error (.tooDeep inObject) := by
    intro inObject deep
    rw [deep] at isDocument
    cases isDocument
  exact ⟨shallow, Payload.reads shallow, by decide +kernel⟩

end UploadRelay.Rpc.Request
