import UploadRelay.Proofs.Rpc.Request
-- Responses: what a reply holds is within the limits of the reader, and written back it has a
-- result or else an error.

namespace UploadRelay.Rpc

open Json

theorem envelope_distinct (jsonrpc : Json) (extra : Members) (error : Option Json) (result id : Json) :
    Members.Distinct (envelope jsonrpc extra error result id) := by
  have version : Members.Distinct [("jsonrpc", jsonrpc)] := (by decide : (["jsonrpc"] : List Text).Nodup)
  have opened := version.putAll extra
  unfold envelope
  cases error with
  | none => exact (opened.put _ _).put _ _
  | some e => exact (opened.put _ _).put _ _

inductive EnvelopeMember (jsonrpc : Json) (extra : Members) (error : Option Json) (result id : Json) : Text × Json → Prop where
  | version : EnvelopeMember jsonrpc extra error result id ("jsonrpc", jsonrpc)
  | extra {m : Text × Json} (member : m ∈ extra) : EnvelopeMember jsonrpc extra error result id m
  | result (success : error = none) : EnvelopeMember jsonrpc extra error result id ("result", result)
  | error {e : Json} (failed : error = some e) : EnvelopeMember jsonrpc extra error result id ("error", e)
  | id : EnvelopeMember jsonrpc extra error result id ("id", id)

theorem mem_envelope {jsonrpc : Json} {extra : Members} {error : Option Json} {result id : Json} {m : Text × Json}
    (member : m ∈ envelope jsonrpc extra error result id) : EnvelopeMember jsonrpc extra error result id m := by
  have opened : ∀ {m}, m ∈ Members.putAll [("jsonrpc", jsonrpc)] extra → EnvelopeMember jsonrpc extra error result id m := by
    intro m member
    rcases Members.mem_putAll member with front | more
    · exact List.mem_singleton.mp front ▸ .version
    · exact .extra more
  unfold envelope at member
  rcases Members.mem_put member with here | member
  · exact here ▸ .id
  · cases error with
    | none =>
      rcases Members.mem_put member with here | there
      · exact here ▸ .result rfl
      · exact opened there
    | some e =>
      rcases Members.mem_put member with here | there
      · exact here ▸ .error rfl
      · exact opened there

namespace Response

open Request

structure Sound (r : Response) : Prop where
  result : Fits innerLimit r.result
  error : ∀ members, r.error = some members → Fits innerLimit (.obj members)
  id : Fits innerLimit r.id
  extra : ∀ m ∈ r.extra, m.1 ∉ knownMembers ∧ Fits innerLimit m.2

theorem getD_fits {members : Members} (sound : Json.Sound nestingLimit (.obj members)) (name : Text) {fallback : Json}
    (fits : Fits innerLimit fallback) : Fits innerLimit (Members.getD members name fallback) := by
  unfold Members.getD
  cases found : Members.get? members name with
  | none => exact fits
  | some v => exact (member_sound sound found).1

theorem errorMember_fits {members : Members} (sound : Json.Sound nestingLimit (.obj members)) {error : Members}
    (taken : errorMember members = .ok (some error)) : Fits innerLimit (.obj error) := by
  unfold errorMember at taken
  split at taken
  · cases taken
  · cases taken
  · rename_i found
    cases taken
    exact (member_sound sound found).1
  · cases taken

theorem ofMembers_sound {members : Members} (sound : Json.Sound nestingLimit (.obj members)) {r : Response}
    (accepted : ofMembers members = .ok r) : r.Sound := by
  unfold ofMembers at accepted
  cases taken : errorMember members with
  | error rejection =>
    rw [taken] at accepted
    cases accepted
  | ok error =>
    rw [taken] at accepted
    cases accepted
    refine ⟨getD_fits sound _ (.null _), ?_, getD_fits sound _ (.int _ (by decide)), ?_⟩
    · intro inner same
      exact errorMember_fits sound (taken.trans (congrArg Except.ok same))
    · intro m member
      obtain ⟨inside, unknown⟩ := List.mem_filter.mp member
      cases sound.1 with
      | obj fits =>
        refine ⟨?_, fits m inside⟩
        simpa using unknown

theorem Sound.wire_fits {r : Response} (sound : r.Sound) : Fits nestingLimit (.obj r.wire) := by
  show Fits (innerLimit + 1) (.obj r.wire)
  refine .obj ?_
  intro m member
  cases mem_envelope member with
  | version => exact .str _ _
  | extra member => exact (sound.extra m member).2
  | result _ => exact sound.result
  | error failed =>
    obtain ⟨members, same, rfl⟩ := Option.map_eq_some_iff.mp failed
    exact sound.error members same
  | id => exact sound.id

theorem wire_result {r : Response} (success : r.error = none) : Members.get? r.wire "result" = some r.result := by
  unfold wire envelope
  rw [success]
  simp only [Option.map_none]
  rw [Members.get?_put_other _ _ (by decide), Members.get?_put_same]

theorem Sound.wire_errorless {r : Response} (sound : r.Sound) (success : r.error = none) :
    Text.ofString "error" ∉ Members.names r.wire := by
  intro named
  obtain ⟨⟨name, v⟩, member, same⟩ := List.mem_map.mp named
  cases mem_envelope member with
  | extra member => exact (sound.extra _ member).1 (same ▸ by decide)
  | error failed =>
    rw [success] at failed
    cases failed
  | version => exact absurd same (by decide : Text.ofString "jsonrpc" ≠ Text.ofString "error")
  | result _ => exact absurd same (by decide : Text.ofString "result" ≠ Text.ofString "error")
  | id => exact absurd same (by decide : Text.ofString "id" ≠ Text.ofString "error")

end Response

end UploadRelay.Rpc

namespace UploadRelay.Caller

theorem readReply_sound {reply : Backend.Reply} {response : Rpc.Response} (read : readReply reply = .ok response) :
    response.Sound := by
  unfold readReply at read
  split at read
  · cases read
  · split at read
    · split at read <;> cases read
    · rename_i members decoded
      cases parsed : Rpc.Response.ofMembers members with
      | error rejection =>
        rw [parsed] at read
        cases read
      | ok found =>
        rw [parsed] at read
        cases read
        exact Rpc.Response.ofMembers_sound (Json.readBytes_sound decoded) parsed
    · cases read

end UploadRelay.Caller
