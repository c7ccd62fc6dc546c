import UploadRelay.Principal
import UploadRelay.Rpc.Request
import UploadRelay.Proofs.Json.Brackets
import UploadRelay.Proofs.Json.Likeness
-- The key under which an answer is remembered tells apart users, methods and params, whatever
-- colons, quotes and brackets a method is made of.

namespace UploadRelay

open Text

theorem mem_ofInt {n : Int} {c : CodePoint} (member : c ∈ Text.ofInt n) : c.isDigit = true ∨ c = CodePoint.ofChar '-' := by
  rw [Json.ofInt_signed, Json.signed] at member
  split at member
  · rcases List.mem_cons.mp member with minus | there
    · exact Or.inr minus
    · exact Or.inl (ofNat_allDigits _ c there)
  · exact Or.inl (ofNat_allDigits _ c member)

theorem ofInt_injective {n n' : Int} (same : Text.ofInt n = Text.ofInt n') : n = n' := by
  have noMinus : ∀ {k : Nat} {rest : Text}, Text.ofNat k ≠ CodePoint.ofChar '-' :: rest := by
    intro k rest minus
    have digit := ofNat_allDigits k (CodePoint.ofChar '-') (minus ▸ List.mem_cons_self)
    exact absurd digit (by decide)
  unfold Text.ofInt at same
  split at same <;> split at same
  · have size := ofNat_injective (List.cons.inj same).2
    omega
  · exact absurd same.symm noMinus
  · exact absurd same noMinus
  · have size := ofNat_injective same
    omega

namespace UserId

theorem no_colon (u : UserId) : CodePoint.ofChar ':' ∉ u.text := by
  intro member
  cases u with
  | number n =>
    rcases mem_ofInt (show CodePoint.ofChar ':' ∈ Text.ofInt n from member) with digit | minus
    · exact absurd digit (by decide)
    · exact absurd minus (by decide)
  | truth b => cases b <;> exact absurd member (by decide)

theorem truth_apart (b : Bool) (n : Int) : (truth b).text ≠ (number n).text := by
  intro same
  have letter : CodePoint.ofChar 'e' ∈ (truth b).text := by cases b <;> decide
  rw [same] at letter
  rcases mem_ofInt (show CodePoint.ofChar 'e' ∈ Text.ofInt n from letter) with digit | minus
  · exact absurd digit (by decide)
  · exact absurd minus (by decide)

theorem text_injective {u u' : UserId} (same : u.text = u'.text) : u = u' := by
  cases u with
  | number n =>
    cases u' with
    | number n' => exact congrArg number (ofInt_injective same)
    | truth b => exact absurd same.symm (truth_apart b n)
  | truth b =>
    cases u' with
    | number n => exact absurd same (truth_apart b n)
    | truth b' =>
      cases b <;> cases b'
      · rfl
      · exact absurd same (by decide)
      · exact absurd same (by decide)
      · rfl

end UserId

namespace Rpc.Request

open Json

structure PlainParams (r : Request) : Prop where
  sound : ∀ params, r.params = some params → Json.Sound nestingLimit (.obj params)
  texts : ∀ params, r.params = some params → Texts NoSurrogate (.obj params)

theorem PlainParams.value_sound {r : Request} (plain : PlainParams r) : Json.Sound nestingLimit r.paramsValue := by
  unfold paramsValue
  split
  · rename_i params given
    exact plain.sound params given
  · exact ⟨.null _, .null⟩

theorem PlainParams.value_texts {r : Request} (plain : PlainParams r) : Texts NoSurrogate r.paramsValue := by
  unfold paramsValue
  split
  · rename_i params given
    exact plain.texts params given
  · exact .null

theorem text_before_colon {front front' back back' : Text} (clear : CodePoint.ofChar ':' ∉ front)
    (clear' : CodePoint.ofChar ':' ∉ front')
    (same : front ++ CodePoint.ofChar ':' :: back = front' ++ CodePoint.ofChar ':' :: back') :
    front = front' ∧ back = back' := by
  induction front generalizing front' with
  | nil =>
    cases front' with
    | nil => exact ⟨rfl, (List.cons.inj same).2⟩
    | cons c front' => exact absurd ((List.cons.inj same).1 ▸ List.mem_cons_self) clear'
  | cons c front ih =>
    cases front' with
    | nil => exact absurd ((List.cons.inj same).1 ▸ List.mem_cons_self) clear
    | cons c' front' =>
      obtain ⟨first, rest⟩ := List.cons.inj same
      obtain ⟨fronts, backs⟩ := ih (fun there => clear (List.mem_cons_of_mem c there))
        (fun there => clear' (List.mem_cons_of_mem c' there)) rest
      exact ⟨by rw [first, fronts], backs⟩

theorem params_behind_colon (r r' : Request) (front : Text) :
    written r.paramsValue.sorted ≠ front ++ CodePoint.ofChar ':' :: written r'.paramsValue.sorted := by
  intro whole
  unfold paramsValue at whole
  split at whole
  · exact no_document_behind_colon _ _ front whole
  · have colon : CodePoint.ofChar ':' ∈ written (sorted .null) := by
      rw [whole]
      exact List.mem_append_right front List.mem_cons_self
    exact absurd colon (by decide)

-- The later of two splits at a colon would put one request's params behind a colon in the
-- other one's.
theorem method_split {r r' : Request}
    (same : r.method ++ CodePoint.ofChar ':' :: written r.paramsValue.sorted =
      r'.method ++ CodePoint.ofChar ':' :: written r'.paramsValue.sorted) :
    r.method = r'.method ∧ written r.paramsValue.sorted = written r'.paramsValue.sorted := by
  rcases List.append_eq_append_iff.mp same with ⟨more, longer, behind⟩ | ⟨more, longer, behind⟩
  · cases more with
    | nil => exact ⟨by rw [longer, List.append_nil], (List.cons.inj behind).2⟩
    | cons c more => exact absurd (List.cons.inj behind).2 (params_behind_colon r r' more)
  · cases more with
    | nil => exact ⟨by rw [longer, List.append_nil], (List.cons.inj behind).2.symm⟩
    | cons c more => exact absurd (List.cons.inj behind).2 (params_behind_colon r' r more)

theorem cacheKey_shape (user : Text) (r : Request) :
    r.cacheKey user =
      user ++ CodePoint.ofChar ':' :: (r.method ++ CodePoint.ofChar ':' :: written r.paramsValue.sorted) := by
  have colon : (":" : Text) = [CodePoint.ofChar ':'] := rfl
  simp [cacheKey, colon]

theorem cacheKey_parts {u u' : UserId} {r r' : Request} (same : r.cacheKey u.text = r'.cacheKey u'.text) :
    u = u' ∧ r.method = r'.method ∧ written r.paramsValue.sorted = written r'.paramsValue.sorted := by
  rw [cacheKey_shape, cacheKey_shape] at same
  obtain ⟨users, rest⟩ := text_before_colon u.no_colon u'.no_colon same
  obtain ⟨methods, params⟩ := method_split rest
  exact ⟨UserId.text_injective users, methods, params⟩

-- Requests with one key are of one user and one method, with params that differ in the order
-- of members only.
theorem cacheKey_unambiguous {u u' : UserId} {r r' : Request} (plain : PlainParams r) (plain' : PlainParams r')
    (same : r.cacheKey u.text = r'.cacheKey u'.text) :
    u = u' ∧ r.method = r'.method ∧ Alike r.paramsValue r'.paramsValue := by
  obtain ⟨users, methods, params⟩ := cacheKey_parts same
  exact ⟨users, methods,
    alike_of_written plain.value_sound plain'.value_sound plain.value_texts plain'.value_texts params⟩

end Rpc.Request

end UploadRelay
