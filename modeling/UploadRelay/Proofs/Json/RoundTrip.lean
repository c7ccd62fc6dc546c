import UploadRelay.Proofs.Json.Numbers
import UploadRelay.Proofs.Json.Shape
-- Writing and reading again: the reader takes a written value back and stops behind it.

namespace UploadRelay.Json

open CodePoint Text

def BeginsScalar (t : Text) : Prop :=
  ∃ c rest, t = c :: rest ∧ (c.isDigit = true ∨ c.isLetter = true ∨ c.val = 45)

theorem beginsScalar_null : BeginsScalar (written .null) := ⟨CodePoint.ofChar 'n', _, rfl, by decide⟩

theorem beginsScalar_bool (b : Bool) : BeginsScalar (written (.bool b)) := by
  cases b with
  | true => exact ⟨CodePoint.ofChar 't', _, rfl, by decide⟩
  | false => exact ⟨CodePoint.ofChar 'f', _, rfl, by decide⟩

theorem beginsScalar_signed (negative : Bool) {t : Text} (first : ∃ c rest, t = c :: rest ∧ c.isDigit = true) :
    BeginsScalar (signed negative t) := by
  cases negative with
  | true => exact ⟨CodePoint.ofChar '-', _, rfl, Or.inr (Or.inr rfl)⟩
  | false =>
    obtain ⟨c, rest, shape, digit⟩ := first
    exact ⟨c, rest, shape, Or.inl digit⟩

theorem beginsScalar_int (n : Int) : BeginsScalar (written (.int n)) := by
  rw [written, ofInt_signed]
  exact beginsScalar_signed _ (isWhole_ofNat _).head

theorem writtenDouble_finite (negative : Bool) {m e : Nat} (canonical : Canonical m e) :
    writtenDouble (.finite negative m e canonical) = signed negative (Double.magnitudeText m e) := by
  cases negative <;> rfl

theorem beginsScalar_float (x : Double) : BeginsScalar (written (.float x)) := by
  rw [written]
  cases x with
  | nan => exact ⟨CodePoint.ofChar 'N', _, rfl, by decide⟩
  | infinity negative =>
    cases negative with
    | true => exact ⟨CodePoint.ofChar '-', _, rfl, by decide⟩
    | false => exact ⟨CodePoint.ofChar 'I', _, rfl, by decide⟩
  | finite negative m e canonical =>
    rw [writtenDouble_finite]
    exact beginsScalar_signed negative (magnitudeText_head canonical)

theorem value_scalar {t : Text} (begins : BeginsScalar t) (rest : Text) (fuel depth : Nat) :
    value (fuel + 1) depth (t ++ rest) = scalar (t ++ rest) := by
  obtain ⟨c, behind, shape, first⟩ := begins
  have other : c.val ≠ 34 ∧ c.val ≠ 91 ∧ c.val ≠ 123 := by
    simp only [isDigit, isLetter, isUpper, isLower, Bool.and_eq_true, Bool.or_eq_true, decide_eq_true_eq] at first
    omega
  rw [shape, List.cons_append]
  simp [value, other]

def Opens (t : Text) : Prop := ∃ c rest, t = c :: rest ∧ isSpace c = false ∧ c.val ≠ 93 ∧ c.val ≠ 125

theorem BeginsScalar.opens {t : Text} (begins : BeginsScalar t) : Opens t := by
  obtain ⟨c, rest, shape, first⟩ := begins
  refine ⟨c, rest, shape, ?_⟩
  simp only [isDigit, isLetter, isUpper, isLower, Bool.and_eq_true, Bool.or_eq_true, decide_eq_true_eq] at first
  simp only [isSpace, Bool.or_eq_false_iff, beq_eq_false_iff_ne]
  omega

theorem written_opens (v : Json) : Opens (written v) := by
  cases v with
  | null => exact beginsScalar_null.opens
  | bool b => exact (beginsScalar_bool b).opens
  | int n => exact (beginsScalar_int n).opens
  | float x => exact (beginsScalar_float x).opens
  | str t => exact ⟨CodePoint.ofChar '"', _, rfl, by decide⟩
  | arr xs => exact ⟨CodePoint.ofChar '[', _, rfl, by decide⟩
  | obj ms => exact ⟨CodePoint.ofNat 123, _, rfl, by decide⟩
  | foreign f => exact ⟨CodePoint.ofChar '"', _, rfl, by decide⟩

theorem skipSpace_cons {c : CodePoint} (solid : isSpace c = false) (t : Text) : skipSpace (c :: t) = c :: t := by
  simp [skipSpace, solid]

theorem Opens.skipSpace {t : Text} (opens : Opens t) (rest : Text) : skipSpace (t ++ rest) = t ++ rest := by
  obtain ⟨c, behind, shape, solid, -⟩ := opens
  rw [shape, List.cons_append, skipSpace_cons solid]

theorem Opens.skipSpace_blank {t : Text} (opens : Opens t) (rest : Text) :
    Json.skipSpace (CodePoint.ofChar ' ' :: (t ++ rest)) = t ++ rest := by
  have blank : isSpace (CodePoint.ofChar ' ') = true := by decide
  have behind := opens.skipSpace rest
  simpa [Json.skipSpace, blank] using behind

-- The reader takes the written value back, whatever may end a value behind it.
def TakesBack (depth : Nat) (v : Json) : Prop :=
  ∀ fuel rest, EndsValue rest → 2 * (written v).length < fuel →
    value fuel depth (written v ++ rest) = .ok (reread v, rest)

theorem takesBack_scalar {depth : Nat} {v : Json} (begins : BeginsScalar (written v))
    (read : ∀ rest, EndsValue rest → scalar (written v ++ rest) = .ok (reread v, rest)) : TakesBack depth v := by
  intro fuel rest ends enough
  obtain ⟨fuel, rfl⟩ : ∃ n, fuel = n + 1 := ⟨fuel - 1, by omega⟩
  rw [value_scalar begins, read rest ends]

theorem length_writtenOne (c : CodePoint) : 0 < (writtenOne c).length := by
  generalize written : writtenOne c = spelling
  cases written ▸ writtenOne_spelled c <;> simp [escapedUnitText, Text.length_hex]

theorem length_flatMap_writtenOne (t : Text) : t.length ≤ (t.flatMap writtenOne).length := by
  induction t with
  | nil => exact Nat.le_refl 0
  | cons c t ih =>
    have one := length_writtenOne c
    rw [List.flatMap_cons, List.length_append, List.length_cons]
    omega

theorem length_writtenString (t : Text) : t.length + 2 ≤ (writtenString t).length := by
  have inside := length_flatMap_writtenOne t
  rw [writtenString, List.length_append, List.length_cons, List.length_singleton]
  omega

theorem takesBack_text {depth : Nat} {v : Json} {t : Text} (text : written v = writtenString t)
    (value_eq : reread v = .str (paired t)) : TakesBack depth v := by
  intro fuel rest ends enough
  have long := length_writtenString t
  rw [text] at enough
  obtain ⟨fuel, rfl⟩ : ∃ n, fuel = n + 1 := ⟨fuel - 1, by omega⟩
  have quote : (CodePoint.ofChar '"').val = 34 := rfl
  have more : t.length < fuel := by omega
  have read := string_written t rest more (CodePoint.ofChar '"')
  rw [text, writtenString_opened, value_eq]
  simp [value, quote, read]

theorem endsValue_cons {c : CodePoint} (closes : c.val = 44 ∨ c.val = 93 ∨ c.val = 125) (rest : Text) :
    EndsValue (c :: rest) := by
  intro d first
  cases first
  exact closes

theorem skipSpace_bracket (rest : Text) : skipSpace (CodePoint.ofChar ']' :: rest) = CodePoint.ofChar ']' :: rest :=
  skipSpace_cons (by decide) rest

theorem skipSpace_brace (rest : Text) : skipSpace (CodePoint.ofNat 125 :: rest) = CodePoint.ofNat 125 :: rest :=
  skipSpace_cons (by decide) rest

theorem skipSpace_comma (rest : Text) : skipSpace (CodePoint.ofChar ',' :: rest) = CodePoint.ofChar ',' :: rest :=
  skipSpace_cons (by decide) rest

theorem skipSpace_colon (rest : Text) : skipSpace (CodePoint.ofChar ':' :: rest) = CodePoint.ofChar ':' :: rest :=
  skipSpace_cons (by decide) rest

theorem elements_last {fuel depth : Nat} {v : Json} {t rest : Text} (read : List Json)
    (taken : value fuel depth t = .ok (v, CodePoint.ofChar ']' :: rest)) :
    elements (fuel + 1) depth read t = .ok (.arr (read.reverse ++ [v]), rest) := by
  have bracket : (CodePoint.ofChar ']').val = 93 := rfl
  simp [elements, taken, skipSpace_bracket, bracket]

theorem elements_more {fuel depth : Nat} {v : Json} {t rest : Text} (read : List Json) (opens : Opens rest) (behind : Text)
    (taken : value fuel depth t = .ok (v, ", " ++ (rest ++ behind))) :
    elements (fuel + 1) depth read t = elements fuel depth (v :: read) (rest ++ behind) := by
  have comma : (CodePoint.ofChar ',').val = 44 := rfl
  have shape : (", " : Text) ++ (rest ++ behind) = CodePoint.ofChar ',' :: CodePoint.ofChar ' ' :: (rest ++ behind) := rfl
  rw [shape] at taken
  simp [elements, taken, skipSpace_comma, comma, opens.skipSpace_blank]

theorem writtenElements_opens {xs : List Json} (some : xs ≠ []) : Opens (writtenElements xs) := by
  match xs with
  | [x] => exact written_opens x
  | x :: y :: rest =>
    obtain ⟨c, behind, shape, solid⟩ := written_opens x
    exact ⟨c, behind ++ ", " ++ writtenElements (y :: rest), by rw [writtenElements, shape]; rfl, solid⟩

theorem elements_written {depth : Nat} {xs : List Json} (each : ∀ x ∈ xs, TakesBack depth x) (some : xs ≠ [])
    (read : List Json) (rest : Text) {fuel : Nat} (enough : 2 * (writtenElements xs).length + 1 < fuel) :
    elements fuel depth read (writtenElements xs ++ CodePoint.ofChar ']' :: rest) =
      .ok (.arr (read.reverse ++ rereadElements xs), rest) := by
  induction xs generalizing read fuel with
  | nil => exact absurd rfl some
  | cons x more ih =>
    have first : TakesBack depth x := each x List.mem_cons_self
    obtain ⟨fuel, rfl⟩ : ∃ n, fuel = n + 1 := ⟨fuel - 1, by omega⟩
    match more with
    | [] =>
      rw [writtenElements] at enough ⊢
      exact elements_last read (first fuel _ (endsValue_cons (by decide) rest) (by omega))
    | y :: others =>
      have nonempty : y :: others ≠ [] := List.cons_ne_nil y others
      rw [writtenElements, List.length_append, List.length_append] at enough
      have two : (", " : Text).length = 2 := rfl
      have taken := first fuel (", " ++ (writtenElements (y :: others) ++ CodePoint.ofChar ']' :: rest))
        (endsValue_cons (by decide) _) (by omega)
      rw [writtenElements, List.append_assoc, List.append_assoc,
        elements_more read (writtenElements_opens nonempty) _ taken,
        ih (fun x member => each x (List.mem_cons_of_mem _ member)) nonempty _ (by omega)]
      simp [rereadElements]

theorem members_last {fuel depth : Nat} {name : Text} {v : Json} {t rest : Text} (read : List (Text × Json))
    (opens : Opens t) (short : name.length < fuel)
    (taken : value fuel depth (t ++ CodePoint.ofNat 125 :: rest) = .ok (v, CodePoint.ofNat 125 :: rest)) :
    members (fuel + 1) depth read (writtenString name ++ (": " ++ (t ++ CodePoint.ofNat 125 :: rest))) =
      .ok (.obj (Members.ofPairs (read.reverse ++ [(paired name, v)])), rest) := by
  have quote : (CodePoint.ofChar '"').val = 34 := rfl
  have colon : (CodePoint.ofChar ':').val = 58 := rfl
  have brace : (CodePoint.ofNat 125).val = 125 := rfl
  have shape : (": " : Text) ++ (t ++ CodePoint.ofNat 125 :: rest) =
    CodePoint.ofChar ':' :: CodePoint.ofChar ' ' :: (t ++ CodePoint.ofNat 125 :: rest) := rfl
  rw [writtenString_opened, shape]
  simp [members, quote, string_written name _ short, skipSpace_colon, colon, opens.skipSpace_blank, taken,
    skipSpace_brace, brace]

theorem members_more {fuel depth : Nat} {name : Text} {v : Json} {t rest : Text} (read : List (Text × Json))
    (opens : Opens t) (short : name.length < fuel) (next : Opens rest) (behind : Text)
    (taken : value fuel depth (t ++ (", " ++ (rest ++ behind))) = .ok (v, ", " ++ (rest ++ behind))) :
    members (fuel + 1) depth read (writtenString name ++ (": " ++ (t ++ (", " ++ (rest ++ behind))))) =
      members fuel depth ((paired name, v) :: read) (rest ++ behind) := by
  have quote : (CodePoint.ofChar '"').val = 34 := rfl
  have colon : (CodePoint.ofChar ':').val = 58 := rfl
  have comma : (CodePoint.ofChar ',').val = 44 := rfl
  have shape : ∀ u : Text, (": " : Text) ++ u = CodePoint.ofChar ':' :: CodePoint.ofChar ' ' :: u := fun _ => rfl
  have separator : (", " : Text) ++ (rest ++ behind) =
    CodePoint.ofChar ',' :: CodePoint.ofChar ' ' :: (rest ++ behind) := rfl
  rw [writtenString_opened, shape]
  rw [separator] at taken ⊢
  simp [members, quote, string_written name _ short, skipSpace_colon, colon, opens.skipSpace_blank, taken,
    skipSpace_comma, comma, next.skipSpace_blank]

theorem writtenMembers_opens {ms : List (Text × Json)} (some : ms ≠ []) : Opens (writtenMembers ms) := by
  match ms with
  | [(name, x)] => exact ⟨CodePoint.ofChar '"', _, rfl, by decide⟩
  | (name, x) :: m :: rest => exact ⟨CodePoint.ofChar '"', _, rfl, by decide⟩

theorem members_written {depth : Nat} {ms : List (Text × Json)} (each : ∀ m ∈ ms, TakesBack depth m.2) (some : ms ≠ [])
    (read : List (Text × Json)) (rest : Text) {fuel : Nat} (enough : 2 * (writtenMembers ms).length + 1 < fuel) :
    members fuel depth read (writtenMembers ms ++ CodePoint.ofNat 125 :: rest) =
      .ok (.obj (Members.ofPairs (read.reverse ++ rereadMembers ms)), rest) := by
  induction ms generalizing read fuel with
  | nil => exact absurd rfl some
  | cons m more ih =>
    obtain ⟨name, x⟩ := m
    have first : TakesBack depth x := each (name, x) List.mem_cons_self
    have long := length_writtenString name
    obtain ⟨fuel, rfl⟩ : ∃ n, fuel = n + 1 := ⟨fuel - 1, by omega⟩
    match more with
    | [] =>
      rw [writtenMembers, List.length_append, List.length_append] at enough
      have taken := first fuel (CodePoint.ofNat 125 :: rest) (endsValue_cons (by decide) rest) (by omega)
      rw [writtenMembers, List.append_assoc, List.append_assoc, members_last read (written_opens x) (by omega) taken]
      rfl
    | n :: others =>
      have nonempty : n :: others ≠ [] := List.cons_ne_nil n others
      rw [writtenMembers] at enough
      simp only [List.length_append] at enough
      have taken := first fuel (", " ++ (writtenMembers (n :: others) ++ CodePoint.ofNat 125 :: rest))
        (endsValue_cons (by decide) _) (by omega)
      rw [writtenMembers]
      simp only [List.append_assoc]
      rw [members_more read (written_opens x) (by omega) (writtenMembers_opens nonempty) _ taken,
        ih (fun m member => each m (List.mem_cons_of_mem _ member)) nonempty _ (by omega)]
      simp [rereadMembers]

theorem written_arr (xs : List Json) (rest : Text) :
    written (.arr xs) ++ rest = CodePoint.ofChar '[' :: (writtenElements xs ++ CodePoint.ofChar ']' :: rest) := by
  simp [written, Text.ofString]

theorem written_obj (ms : List (Text × Json)) (rest : Text) :
    written (.obj ms) ++ rest = CodePoint.ofNat 123 :: (writtenMembers ms ++ CodePoint.ofNat 125 :: rest) := by
  have opening : ("\x7b" : Text) = [CodePoint.ofNat 123] := rfl
  have closing : ("\x7d" : Text) = [CodePoint.ofNat 125] := rfl
  simp [written, opening, closing]

theorem takesBack_arr {depth : Nat} {xs : List Json} (each : ∀ x ∈ xs, TakesBack depth x) :
    TakesBack (depth + 1) (.arr xs) := by
  intro fuel rest ends enough
  have bracket : (CodePoint.ofChar '[').val = 91 := rfl
  have closing : (CodePoint.ofChar ']').val = 93 := rfl
  have long := congrArg List.length (written_arr xs [])
  simp only [List.length_append, List.length_cons, List.length_nil] at long
  obtain ⟨fuel, rfl⟩ : ∃ n, fuel = n + 1 := ⟨fuel - 1, by omega⟩
  rw [written_arr]
  match xs with
  | [] => simp [value, bracket, writtenElements, skipSpace_bracket, closing, reread, rereadElements]
  | x :: more =>
    have left : 2 * (writtenElements (x :: more)).length + 1 < fuel := by omega
    have taken := elements_written each (List.cons_ne_nil x more) [] rest left
    obtain ⟨c, behind, shape, solid, notClosing, -⟩ := writtenElements_opens (List.cons_ne_nil x more)
    rw [shape, List.cons_append] at taken ⊢
    simp [value, bracket, skipSpace_cons solid, notClosing, taken, reread]

theorem takesBack_obj {depth : Nat} {ms : List (Text × Json)} (each : ∀ m ∈ ms, TakesBack depth m.2) :
    TakesBack (depth + 1) (.obj ms) := by
  intro fuel rest ends enough
  have brace : (CodePoint.ofNat 123).val = 123 := rfl
  have closing : (CodePoint.ofNat 125).val = 125 := rfl
  have long := congrArg List.length (written_obj ms [])
  simp only [List.length_append, List.length_cons, List.length_nil] at long
  obtain ⟨fuel, rfl⟩ : ∃ n, fuel = n + 1 := ⟨fuel - 1, by omega⟩
  rw [written_obj]
  match ms with
  | [] => simp [value, brace, writtenMembers, skipSpace_brace, closing, reread, rereadMembers, Members.ofPairs, Members.putAll]
  | m :: more =>
    have left : 2 * (writtenMembers (m :: more)).length + 1 < fuel := by omega
    have taken := members_written each (List.cons_ne_nil m more) [] rest left
    obtain ⟨c, behind, shape, solid, -, notClosing⟩ := writtenMembers_opens (List.cons_ne_nil m more)
    rw [shape, List.cons_append] at taken ⊢
    simp [value, brace, skipSpace_cons solid, notClosing, taken, reread]

theorem takesBack {depth : Nat} {v : Json} (fits : Fits depth v) : TakesBack depth v := by
  induction fits with
  | null => exact takesBack_scalar beginsScalar_null fun rest _ => scalar_null rest
  | bool _ b => exact takesBack_scalar (beginsScalar_bool b) fun rest _ => scalar_bool b rest
  | @int depth n short =>
    apply takesBack_scalar (beginsScalar_int n)
    intro rest ends
    rw [written]
    exact scalar_int ends short
  | float _ x =>
    apply takesBack_scalar (beginsScalar_float x)
    intro rest ends
    rw [written]
    exact scalar_double x ends
  | str _ t => exact takesBack_text (by rw [written]) rfl
  | arr _ ih => exact takesBack_arr ih
  | obj _ ih => exact takesBack_obj ih
  | foreign _ f => exact takesBack_text (by rw [written]) rfl

theorem readDecoded_written {v : Json} (fits : Fits nestingLimit v) : readDecoded (written v) = .ok (reread v) := by
  have whole := takesBack fits (2 * (written v).length + 2) [] endsValue_nil (by omega)
  have front := (written_opens v).skipSpace []
  rw [List.append_nil] at whole front
  have none : skipSpace [] = [] := rfl
  have opened : document (written v) = .ok (reread v) := by simp [document, front, whole, none]
  rw [readDecoded, opened]
  rfl

end UploadRelay.Json
