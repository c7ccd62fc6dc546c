import Mathlib.Data.List.Induction
import UploadRelay.Proofs.Json.Shape
import UploadRelay.Proofs.Text.Numeral
-- What comes out of a document: values within the limits of the reader, in which no name
-- stands twice and nothing is foreign.

namespace UploadRelay.Json

open Text CodePoint

theorem digitsValue_bound {t : Text} (all : AllDigits t) : digitsValue t < 10 ^ t.length := by
  induction t using List.reverseRecOn with
  | nil => decide
  | append_singleton t c ih =>
    have front := ih fun d member => all d (List.mem_append_left _ member)
    have digit := all c (List.mem_append_right _ (List.mem_singleton_self c))
    simp only [isDigit, Bool.and_eq_true, decide_eq_true_eq] at digit
    rw [digitsValue_append, List.length_append, List.length_singleton, Nat.pow_succ]
    simp only [digitsValue, List.foldl_cons, List.foldl_nil] at front ⊢
    omega

theorem length_ofNat_le {n count : Nat} (some : 0 < count) (bound : n < 10 ^ count) : (Text.ofNat n).length ≤ count := by
  rw [Text.ofNat, List.length_map]
  exact (Nat.length_toDigits_le_iff (by decide) some).mpr bound

theorem span_allDigits (t : Text) : AllDigits (Decimal.span t).1 := by
  intro c member
  rw [Decimal.span, List.span_eq_takeWhile_dropWhile] at member
  exact List.all_eq_true.mp (List.all_takeWhile) c member

theorem wholeDigits_allDigits {t whole rest : Text} (found : wholeDigits? t = some (whole, rest)) :
    AllDigits whole ∧ whole ≠ [] := by
  cases t with
  | nil => cases found
  | cons c t =>
    rw [wholeDigits?] at found
    split at found
    · rename_i zero
      cases found
      refine ⟨?_, List.cons_ne_nil _ _⟩
      intro d member
      rw [List.mem_singleton.mp member]
      simp [isDigit, zero]
    · split at found
      · rename_i digit
        have parts : Decimal.span (c :: t) = (whole, rest) := Option.some.inj found
        have all := span_allDigits (c :: t)
        rw [parts] at all
        refine ⟨all, ?_⟩
        intro empty
        rw [Decimal.span, List.span_eq_takeWhile_dropWhile, List.takeWhile_cons, if_pos digit] at parts
        cases empty ▸ congrArg Prod.fst parts
      · cases found

theorem number_kinds {t rest : Text} {v : Json} (read : number t = .ok (v, rest)) :
    (∃ n : Int, v = .int n ∧ (Text.ofNat n.natAbs).length ≤ digitLimit) ∨ ∃ x, v = .float x := by
  unfold number at read
  simp only at read
  split at read
  · cases read
  · rename_i whole behind found
    obtain ⟨all, nonempty⟩ := wholeDigits_allDigits found
    split at read
    · cases read
      exact Or.inr ⟨_, rfl⟩
    · split at read
      · split at read
        · cases read
        · rename_i short
          cases read
          refine Or.inl ⟨_, rfl, ?_⟩
          have bound := digitsValue_bound all
          have count := length_ofNat_le (List.length_pos_iff.mpr nonempty) bound
          have size : ∀ negative : Bool, (if negative = true then -(Decimal.digits whole : Int)
              else (Decimal.digits whole : Int)).natAbs = digitsValue whole := by
            intro negative
            rw [Decimal.digits_eq]
            split <;> omega
          rw [size]
          omega
      · cases read
        exact Or.inr ⟨_, rfl⟩

def Sound (depth : Nat) (v : Json) : Prop := Fits depth v ∧ Decoded v

theorem scalar_sound {t rest : Text} {v : Json} (read : scalar t = .ok (v, rest)) (depth : Nat) : Sound depth v := by
  unfold scalar at read
  split at read
  · rename_i found word
    obtain ⟨w, inside, taken⟩ := List.exists_of_findSome?_eq_some word
    cases read
    cases dropped : Text.dropStart? w.1 t with
    | none =>
      rw [dropped] at taken
      cases taken
    | some rest =>
      rw [dropped] at taken
      have same : w.2 = v := congrArg Prod.fst (Option.some.inj taken)
      have kinds : w.2 = .null ∨ (∃ b, w.2 = .bool b) ∨ ∃ x, w.2 = .float x := by
        simp only [words, List.mem_cons, List.not_mem_nil, or_false] at inside
        rcases inside with rfl | rfl | rfl | rfl | rfl | rfl <;> simp
      rw [same] at kinds
      rcases kinds with rfl | ⟨b, rfl⟩ | ⟨x, rfl⟩
      · exact ⟨.null depth, .null⟩
      · exact ⟨.bool depth b, .bool b⟩
      · exact ⟨.float depth x, .float x⟩
  · rcases number_kinds read with ⟨n, rfl, short⟩ | ⟨x, rfl⟩
    · exact ⟨.int depth short, .int n⟩
    · exact ⟨.float depth x, .float x⟩

structure ScansSound (fuel : Nat) : Prop where
  value : ∀ {depth t v rest}, value fuel depth t = .ok (v, rest) → Sound depth v
  elements : ∀ {depth read t v rest}, elements fuel depth read t = .ok (v, rest) → (∀ x ∈ read, Sound depth x) →
    Sound (depth + 1) v
  members : ∀ {depth read t v rest}, members fuel depth read t = .ok (v, rest) → (∀ m ∈ read, Sound depth m.2) →
    Sound (depth + 1) v

theorem sound_arr {depth : Nat} {xs : List Json} (each : ∀ x ∈ xs, Sound depth x) : Sound (depth + 1) (.arr xs) :=
  ⟨.arr fun x member => (each x member).1, .arr fun x member => (each x member).2⟩

theorem sound_obj {depth : Nat} {pairs : List (Text × Json)} (each : ∀ m ∈ pairs, Sound depth m.2) :
    Sound (depth + 1) (.obj (Members.ofPairs pairs)) :=
  ⟨.obj fun m member => (each m (Members.mem_ofPairs member)).1,
    .obj (Members.distinct_ofPairs pairs) fun m member => (each m (Members.mem_ofPairs member)).2⟩

theorem sound_empty (depth : Nat) : Sound (depth + 1) (.obj []) :=
  ⟨.obj fun _ member => (List.not_mem_nil member).elim, .obj List.nodup_nil fun _ member => (List.not_mem_nil member).elim⟩

theorem value_step {fuel : Nat} (below : ScansSound fuel) {depth : Nat} {t rest : Text} {v : Json}
    (read : value (fuel + 1) depth t = .ok (v, rest)) : Sound depth v := by
  cases t with
  | nil => cases read
  | cons c t =>
    simp only [value] at read
    split at read
    · split at read
      · cases read
      · cases read
        exact ⟨.str depth _, .str _⟩
    · split at read
      · cases depth with
        | zero => cases read
        | succ depth =>
          simp only at read
          split at read
          · cases read
          · split at read
            · cases read
              exact sound_arr (fun x member => by cases member)
            · exact below.elements read (fun x member => by cases member)
      · split at read
        · cases depth with
          | zero => cases read
          | succ depth =>
            simp only at read
            split at read
            · cases read
            · split at read
              · cases read
                exact sound_empty depth
              · exact below.members read (fun m member => by cases member)
        · exact scalar_sound read depth

theorem elements_step {fuel : Nat} (below : ScansSound fuel) {depth : Nat} {read : List Json} {t rest : Text} {v : Json}
    (scanned : elements (fuel + 1) depth read t = .ok (v, rest)) (each : ∀ x ∈ read, Sound depth x) :
    Sound (depth + 1) v := by
  rw [elements] at scanned
  split at scanned
  · cases scanned
  · rename_i x behind first
    have more : ∀ y ∈ x :: read, Sound depth y := by
      intro y member
      rcases List.mem_cons.mp member with here | there
      · exact here ▸ below.value first
      · exact each y there
    split at scanned
    · cases scanned
    · split at scanned
      · cases scanned
        exact sound_arr fun y member => more y (List.mem_reverse.mp member)
      · split at scanned
        · exact below.elements scanned more
        · cases scanned

theorem members_step {fuel : Nat} (below : ScansSound fuel) {depth : Nat} {read : List (Text × Json)} {t rest : Text}
    {v : Json} (scanned : members (fuel + 1) depth read t = .ok (v, rest)) (each : ∀ m ∈ read, Sound depth m.2) :
    Sound (depth + 1) v := by
  simp only [members] at scanned
  split at scanned
  · cases scanned
  · split at scanned
    · cases scanned
    · split at scanned
      · cases scanned
      · rename_i name behind named
        split at scanned
        · cases scanned
        · split at scanned
          · cases scanned
          · split at scanned
            · cases scanned
            · rename_i x after first
              have more : ∀ m ∈ (name, x) :: read, Sound depth m.2 := by
                intro m member
                rcases List.mem_cons.mp member with here | there
                · exact here ▸ below.value first
                · exact each m there
              split at scanned
              · cases scanned
              · split at scanned
                · cases scanned
                  exact sound_obj fun m member => more m (List.mem_reverse.mp member)
                · split at scanned
                  · exact below.members scanned more
                  · cases scanned

theorem scansSound (fuel : Nat) : ScansSound fuel := by
  induction fuel with
  | zero =>
    refine ⟨?_, ?_, ?_⟩
    · intro depth t v rest read
      cases read
    · intro depth read t v rest scanned
      cases scanned
    · intro depth read t v rest scanned
      cases scanned
  | succ fuel below => exact ⟨value_step below, elements_step below, members_step below⟩

-- Every document that is read holds a value within the limits, decoded all through.
theorem readDecoded_sound {t : Text} {v : Json} (read : readDecoded t = .ok v) : Sound nestingLimit v := by
  unfold readDecoded document at read
  split at read
  · cases read
  · rename_i found behind scanned
    split at read
    · cases read
      exact (scansSound _).value scanned
    · cases read

theorem read_sound {t : Text} {v : Json} (accepted : read t = .ok v) : Sound nestingLimit v := by
  unfold read at accepted
  split at accepted
  · cases accepted
  · exact readDecoded_sound accepted

theorem readBytes_sound {bytes : List UInt8} {v : Json} (accepted : readBytes bytes = .ok v) : Sound nestingLimit v := by
  unfold readBytes at accepted
  split at accepted
  · cases accepted
  · exact readDecoded_sound accepted

end UploadRelay.Json
