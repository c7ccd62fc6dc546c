import UploadRelay.Proofs.Json.Sorting
import UploadRelay.Proofs.Rpc.Key
-- Two requests have one key exactly when they are of one user and one method and have the same
-- params, whatever the order of the members.

namespace UploadRelay.Rpc.Request

open Json

-- Params as they come out of a document, nested as deep as you like, without surrogates in their
-- texts.
structure DecodedParams (r : Request) : Prop where
  sound : ∀ params, r.params = some params → ∃ depth, Json.Sound depth (.obj params)
  texts : ∀ params, r.params = some params → Texts NoSurrogate (.obj params)

def SameParams : Option Members → Option Members → Prop
  | none, none => True
  | some params, some params' => Alike (.obj params) (.obj params')
  | _, _ => False

theorem sameParams_iff {r r' : Request} : SameParams r.params r'.params ↔ Alike r.paramsValue r'.paramsValue := by
  unfold paramsValue
  cases r.params with
  | none =>
    cases r'.params with
    | none => exact ⟨fun _ => .null, fun _ => trivial⟩
    | some params' => exact ⟨fun never => never.elim, fun alike => nomatch alike⟩
  | some params =>
    cases r'.params with
    | none => exact ⟨fun never => never.elim, fun alike => nomatch alike⟩
    | some params' => exact Iff.rfl

theorem DecodedParams.value {r : Request} (decoded : DecodedParams r) :
    (∃ depth, Json.Sound depth r.paramsValue) ∧ Texts NoSurrogate r.paramsValue := by
  unfold paramsValue
  split
  · rename_i params given
    exact ⟨decoded.sound params given, decoded.texts params given⟩
  · exact ⟨⟨0, .null 0, .null⟩, .null⟩

theorem cacheKey_eq_iff {u u' : UserId} {r r' : Request} (decoded : DecodedParams r) (decoded' : DecodedParams r') :
    r.cacheKey u.text = r'.cacheKey u'.text ↔ u = u' ∧ r.method = r'.method ∧ SameParams r.params r'.params := by
  obtain ⟨⟨depth, sound⟩, texts⟩ := decoded.value
  obtain ⟨⟨depth', sound'⟩, texts'⟩ := decoded'.value
  rw [sameParams_iff]
  constructor
  · intro same
    obtain ⟨users, methods, params⟩ := cacheKey_parts same
    exact ⟨users, methods, alike_of_written sound sound' texts texts' params⟩
  · rintro ⟨rfl, methods, alike⟩
    rw [cacheKey_shape, cacheKey_shape, methods, written_of_alike alike sound.2 sound'.2]

def tagsMember : Text × Json := ("any_tags", .arr [.str "news"])

def pageMember : Text × Json := ("page", .int 2)

def listing (params : Members) (id : Int) : Request := ⟨"claim:\"search", some params, .int id, "2.0"⟩

theorem listing_decoded {params : Members} (order : params = [pageMember, tagsMember] ∨ params = [tagsMember, pageMember])
    (id : Int) : DecodedParams (listing params id) := by
  have news : Json.Sound 1 tagsMember.2 :=
    ⟨.arr (List.forall_mem_singleton.mpr (.str 0 _)), .arr (List.forall_mem_singleton.mpr (.str _))⟩
  have two : Json.Sound 1 pageMember.2 := ⟨.int 1 (by decide), .int 2⟩
  have plain : ∀ t ∈ [pageMember.1, tagsMember.1, "news"], NoSurrogate t := by
    unfold NoSurrogate
    decide
  have tags : Texts NoSurrogate tagsMember.2 := .arr (List.forall_mem_singleton.mpr (.str (plain _ (by simp))))
  have distinct : Members.Distinct params := by
    rcases order with rfl | rfl
    · exact List.nodup_cons.mpr ⟨by decide, by simp⟩
    · exact List.nodup_cons.mpr ⟨by decide, by simp⟩
  have each : ∀ m ∈ params, m = pageMember ∨ m = tagsMember := by
    rcases order with rfl | rfl
    · simp
    · simp [or_comm]
  refine ⟨fun given same => ⟨2, ?_, ?_⟩, fun given same => ?_⟩ <;> cases same
  · refine .obj fun m member => ?_
    rcases each m member with rfl | rfl
    · exact two.1
    · exact news.1
  · refine .obj distinct fun m member => ?_
    rcases each m member with rfl | rfl
    · exact two.2
    · exact news.2
  · refine .obj (fun m member => ?_) fun m member => ?_
    · rcases each m member with rfl | rfl <;> exact plain _ (by simp)
    · rcases each m member with rfl | rfl
      · exact .int 2
      · exact tags

theorem listing_one_key : DecodedParams (listing [pageMember, tagsMember] 1) ∧ DecodedParams (listing [tagsMember, pageMember] 2) ∧
    (listing [pageMember, tagsMember] 1).cacheKey (UserId.number 7).text =
      (listing [tagsMember, pageMember] 2).cacheKey (UserId.number 7).text ∧
    SameParams (some [pageMember, tagsMember]) (some [tagsMember, pageMember]) := by
  have first := listing_decoded (Or.inl rfl) 1
  have second := listing_decoded (Or.inr rfl) 2
  have same : (listing [pageMember, tagsMember] 1).cacheKey (UserId.number 7).text =
      (listing [tagsMember, pageMember] 2).cacheKey (UserId.number 7).text := by decide +kernel
  exact ⟨first, second, same, ((cacheKey_eq_iff first second).mp same).2.2⟩

end UploadRelay.Rpc.Request
