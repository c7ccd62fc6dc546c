import UploadRelay.Proofs.Caller.Calling
import UploadRelay.Proofs.Json.Showing
import UploadRelay.Proofs.Rpc.Envelope
-- Envelopes on their way through the bridge. A text and its UTF-8 are parsed alike, and the body
-- that is posted for a request is an envelope of that request.

namespace UploadRelay

open Work

namespace Json

theorem read_unmarked {t : Text} (unmarked : ∀ c ∈ t.head?, c.val ≠ 0xFEFF) : read t = readDecoded t := by
  have bare : beginsWithMark t = false := by
    cases t with
    | nil => rfl
    | cons c rest => exact beq_eq_false_iff_ne.mpr (unmarked c rfl)
  rw [read, bare]
  rfl

theorem readBytes_encode {t : Text} (unmarked : ∀ c ∈ t.head?, c.val ≠ 0xFEFF) (zeroless : (0 : UInt8) ∉ (Utf8.encode t).take 4) :
    readBytes (Utf8.encode t) = read t := by
  rw [readBytes, Encoding.decodeGuessed_encode unmarked zeroless, read_unmarked unmarked]

theorem read_written {v : Json} (fits : Fits nestingLimit v) : read (written v) = .ok (reread v) := by
  have unmarked : ∀ c ∈ (written v).head?, c.val ≠ 0xFEFF := by
    intro c first
    have small := written_simple v c (List.mem_of_mem_head? first)
    omega
  rw [read_unmarked unmarked, readDecoded_written fits]

theorem readAscii_written (v : Json) : Encoding.readAscii (writtenBytes v) = .ok (written v) := by
  have simple := written_simple v
  have low : (writtenBytes v).findIdx? (fun b => decide (0x80 ≤ b.toNat)) = none := by
    rw [List.findIdx?_eq_none_iff]
    intro b member
    have small := (Utf8.encode_low simple b member).2
    simp only [decide_eq_false_iff_not]
    omega
  have chars : (writtenBytes v).map CodePoint.ofByte = written v := by
    rw [writtenBytes, Utf8.encode_simple simple, List.map_map]
    refine (List.map_congr_left fun c member => ?_).trans (List.map_id _)
    have small := (simple c member).2
    exact CodePoint.ext_val (Utf8.toNat_byte (by omega))
  rw [Encoding.readAscii, low, chars]

end Json

namespace Rpc.Request

open Json

namespace Payload

theorem parse_ok_iff {payload : Payload} {r : Request} :
    payload.parse = .ok r ↔ ∃ members, payload.document = .ok (.obj members) ∧ Envelope members r := by
  rw [← ofDocument_ok_iff, ← payload.request_eq, parse]
  cases payload.request <;> simp [Except.mapError]

-- Both ways in read an envelope alike, whether it is taken or refused.
theorem parse_encode {t : Text} (unmarked : ∀ c ∈ t.head?, c.val ≠ 0xFEFF) (zeroless : (0 : UInt8) ∉ (Utf8.encode t).take 4) :
    (Payload.bytes (Utf8.encode t)).parse = (Payload.text t).parse := by
  have documents : (Payload.bytes (Utf8.encode t)).document = (Payload.text t).document := readBytes_encode unmarked zeroless
  rw [parse, parse, request_eq, request_eq, documents]

end Payload

def foreignEnvelope : Text := "\x7b\"method\": \"größe€😀\", \"params\": null\x7d"

theorem foreignEnvelope_alike :
    (∀ c ∈ foreignEnvelope.head?, c.val ≠ 0xFEFF) ∧ (0 : UInt8) ∉ (Utf8.encode foreignEnvelope).take 4 ∧
      (Payload.bytes (Utf8.encode foreignEnvelope)).parse = (Payload.text foreignEnvelope).parse ∧
      (Payload.text foreignEnvelope).parse.toOption.isSome = true := by
  have unmarked : ∀ c ∈ foreignEnvelope.head?, c.val ≠ 0xFEFF := by decide
  have zeroless : (0 : UInt8) ∉ (Utf8.encode foreignEnvelope).take 4 := by decide
  exact ⟨unmarked, zeroless, Payload.parse_encode unmarked zeroless, by decide +kernel⟩

example : (Payload.bytes (Utf8.encode (CodePoint.ofNat 0xFEFF :: "\x7b\"method\": \"status\"\x7d"))).parse.toOption.isSome = true ∧
    (Payload.text (CodePoint.ofNat 0xFEFF :: "\x7b\"method\": \"status\"\x7d")).parse.toOption.isSome = false := by decide +kernel

variable {members : Members} {r : Request}

theorem IsId.again {given : Option Json} {id : Json} (isId : IsId given id) : IsId (some id) id := by
  cases isId with
  | absent => exact .int 0
  | null => exact .null
  | bool b => exact .bool b
  | int n => exact .int n
  | str t => exact .str t

theorem IsId.decoded {given : Option Json} {id : Json} (isId : IsId given id) : Decoded id := by
  cases isId with
  | absent => exact .int 0
  | null => exact .null
  | bool b => exact .bool b
  | int n => exact .int n
  | str t => exact .str t

theorem IsId.stable {given : Option Json} {id : Json} (isId : IsId given id) (stable : ∀ v ∈ given, Stable v) : Stable id := by
  cases isId with
  | absent => exact stable_int 0
  | _ => exact stable _ rfl

theorem IsVersion.unpaired {given : Option Json} {t : Text} (isVersion : IsVersion given t) (stable : ∀ v ∈ given, Stable v) :
    Unpaired t := by
  cases isVersion with
  | absent => decide
  | given v => exact (stable v rfl).shown

theorem IsParams.stable {given : Option Json} {params : Option Members} (isParams : IsParams given params)
    (stable : ∀ v ∈ given, Stable v) : ∀ inner ∈ params, Stable (.obj inner) := by
  intro inner same
  cases isParams with
  | object => exact Option.some.inj same ▸ stable _ rfl
  | _ => cases same

theorem Envelope.wire (envelope : Envelope members r) : Envelope r.wire r := by
  have heads : Members.get? r.wire "method" = some (.str r.method) ∧ Members.get? r.wire "id" = some r.id ∧
      Members.get? r.wire "jsonrpc" = some (.str r.jsonrpc) := by
    rw [wire_shape]
    exact ⟨rfl, rfl, rfl⟩
  obtain ⟨method, id, jsonrpc⟩ := heads
  refine ⟨method, envelope.named, ?_, ?_, ?_⟩
  · rw [wire_shape]
    cases r.params with
    | none => exact .absent
    | some params => exact .object params
  · rw [id]
    exact envelope.id.again
  · rw [jsonrpc]
    exact .given (.str r.jsonrpc)

theorem Envelope.wire_stable (envelope : Envelope members r) (stable : Stable (.obj members)) : Stable (.obj r.wire) := by
  have inside : ∀ {name}, ∀ v ∈ Members.get? members name, Stable v := fun v found => stable.member found
  have method : Unpaired r.method := by
    cases (inside _ envelope.method).unpaired with
    | str holds => exact holds
  have jsonrpc : Unpaired r.jsonrpc := envelope.jsonrpc.unpaired inside
  have id : Stable r.id := envelope.id.stable inside
  have params : ∀ inner ∈ r.params, Stable (.obj inner) := envelope.params.stable inside
  refine .obj (wire_distinct r) fun m member => ?_
  rw [wire_shape] at member
  rcases List.mem_append.mp member with front | back
  · simp only [heading, List.mem_cons, List.not_mem_nil, or_false] at front
    rcases front with rfl | rfl | rfl
    · exact ⟨(by decide : Unpaired "jsonrpc"), .str jsonrpc⟩
    · exact ⟨(by decide : Unpaired "method"), .str method⟩
    · exact ⟨(by decide : Unpaired "id"), id⟩
  · cases given : r.params with
    | none =>
      rw [given] at back
      cases back
    | some inner =>
      rw [given] at back
      cases List.mem_singleton.mp back
      exact ⟨(by decide : Unpaired "params"), params inner given⟩

-- What a posted body is: ASCII, and parsed as a text or as bytes it is that request again.
structure Carries (body : List UInt8) (r : Request) : Prop where
  ascii : ∀ b ∈ body, b.toNat < 0x80
  text : ∃ t, Encoding.readAscii body = .ok t ∧ (Payload.text t).parse = .ok r
  bytes : (Payload.bytes body).parse = .ok r

theorem Envelope.carries (envelope : Envelope members r) (sound : Json.Sound nestingLimit (.obj members))
    (unpaired : Texts Unpaired (.obj members)) : Carries r.body r := by
  have accepted : ofDocument (.ok (.obj members)) = .ok r := ofDocument_ok_iff.mpr ⟨members, rfl, envelope⟩
  have fits : Fits nestingLimit (.obj r.wire) := (ofMembers_sound sound accepted).wire_fits
  have kept : Stable (.obj r.wire) := envelope.wire_stable ⟨sound.2, unpaired⟩
  refine ⟨fun b member => (Utf8.encode_low (written_simple _) b member).2, ⟨written (.obj r.wire), readAscii_written _, ?_⟩, ?_⟩
  · have read : read (written (.obj r.wire)) = .ok (.obj r.wire) := (read_written fits).trans (congrArg Except.ok kept.reread)
    exact Payload.parse_ok_iff.mpr ⟨r.wire, read, envelope.wire⟩
  · exact Payload.parse_ok_iff.mpr ⟨r.wire, kept.readBytes fits, envelope.wire⟩

namespace Payload

theorem document_sound {payload : Payload} {v : Json} (read : payload.document = .ok v) : Json.Sound nestingLimit v := by
  cases payload with
  | text t => exact read_sound read
  | bytes b => exact readBytes_sound read

def Unpaired (payload : Payload) : Prop := ∀ v, payload.document = .ok v → Texts Json.Unpaired v

instance (payload : Payload) : Decidable payload.Unpaired :=
  match read : payload.document with
  | .ok v => decidable_of_iff (Texts Json.Unpaired v)
      ⟨fun texts _ same => Except.ok.inj (read.symm.trans same) ▸ texts, fun unpaired => unpaired v read⟩
  | .error _ => isTrue fun _ same => nomatch read.symm.trans same

variable {N : Type} [Seconds N]

-- Whatever call a request that was accepted is for, each body that is posted for it stands for it.
theorem forwarded {payload : Payload} {r : Request} (parsed : payload.parse = .ok r) (unpaired : payload.Unpaired) :
    Carries r.body r ∧ ∀ (c : Caller N) (s : Site N), c.hooks = [] →
      ∃ posts, (c.call r s).2.posts = s.posts ++ posts ∧ ∀ post ∈ posts, post.body = r.body := by
  obtain ⟨members, read, envelope⟩ := parse_ok_iff.mp parsed
  constructor
  · exact envelope.carries (document_sound read) (unpaired _ read)
  · intro c s free
    have proceeds : Hook.runAll c.hooks r = .proceed r := by
      rw [free]
      rfl
    obtain ⟨posts, sends⟩ := Caller.call_sent proceeds s
    exact ⟨posts, sends.posts, sends.bodies⟩

end Payload

def strangeEnvelope : Text := "\x7b\"method\": \"add\", \"id\": null, \"params\": \x7b\"title\": \"\\ud83d\\ude00 \\udc00\", " ++
  "\"bid\": [NaN, -1e999, 18446744073709551616]\x7d, \"jsonrpc\": [\"\\ud800\"]\x7d"

theorem strangeEnvelope_forwarded :
    ∃ r, (Payload.text strangeEnvelope).parse = .ok r ∧ (Payload.text strangeEnvelope).Unpaired ∧ Carries r.body r ∧
      ∀ (c : Caller Num) (s : Site Num), c.hooks = [] →
        ∃ posts, (c.call r s).2.posts = s.posts ++ posts ∧ ∀ post ∈ posts, post.body = r.body := by
  have parses : (Payload.text strangeEnvelope).parse.toOption.isSome = true := by decide +kernel
  have unpaired : (Payload.text strangeEnvelope).Unpaired := by decide +kernel
  cases parsed : (Payload.text strangeEnvelope).parse with
  | error fault =>
    rw [parsed] at parses
    cases parses
  | ok r => exact ⟨r, rfl, unpaired, Payload.forwarded parsed unpaired⟩

end Rpc.Request

end UploadRelay
