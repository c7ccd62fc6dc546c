import UploadRelay.Proofs.Json.Brackets
-- The grammar of standard JSON, RFC 8259, which has no words for numbers that are not finite. What
-- is written for a value keeps to it just when every number in the value is finite.

namespace UploadRelay.Json

open CodePoint Text

inductive Chars : Text → Prop where
  | nil : Chars []
  | plain {c : CodePoint} {t : Text} (notQuote : c.val ≠ 34) (notSlash : c.val ≠ 92) (printable : 32 ≤ c.val)
      (rest : Chars t) : Chars (c :: t)
  | escape {e : CodePoint} {t : Text} (named : e.val ∈ [34, 92, 47, 98, 102, 110, 114, 116]) (rest : Chars t) :
      Chars (CodePoint.ofChar '\\' :: e :: t)
  | unit {a b c d : CodePoint} {t : Text} (digits : ∀ x ∈ [a, b, c, d], x.hexValue?.isSome) (rest : Chars t) :
      Chars (CodePoint.ofChar '\\' :: CodePoint.ofChar 'u' :: a :: b :: c :: d :: t)

def quotedChars (t : Text) : Text := CodePoint.ofChar '"' :: t ++ [CodePoint.ofChar '"']

inductive Fraction : Text → Prop where
  | none : Fraction []
  | places {t : Text} (digits : AllDigits t) (nonempty : t ≠ []) : Fraction (CodePoint.ofChar '.' :: t)

inductive Power : Text → Prop where
  | none : Power []
  | digits {mark : CodePoint} {sign t : Text} (marks : mark.val = 101 ∨ mark.val = 69)
      (signs : sign = [] ∨ sign = "+" ∨ sign = "-") (digits : AllDigits t) (nonempty : t ≠ []) : Power (mark :: (sign ++ t))

structure IsNumber (t : Text) (negative : Bool) (whole fraction power : Text) : Prop where
  shape : t = signed negative (whole ++ fraction ++ power)
  valid : IsWhole whole
  fraction : Fraction fraction
  power : Power power

def Blank (t : Text) : Prop := ∀ c ∈ t, isSpace c = true

-- What a text can be the spelling of; a document is a value with blanks around it.
inductive Phrase where
  | value
  | document
  | elements
  | member
  | members

inductive Standard : Phrase → Text → Prop where
  | word {t : Text} (named : t = "null" ∨ t = "true" ∨ t = "false") : Standard .value t
  | number {t whole fraction power : Text} {negative : Bool} (number : IsNumber t negative whole fraction power) :
      Standard .value t
  | string {t : Text} (chars : Chars t) : Standard .value (quotedChars t)
  | emptyArray {t : Text} (blank : Blank t) : Standard .value (CodePoint.ofChar '[' :: t ++ [CodePoint.ofChar ']'])
  | array {t : Text} (elements : Standard .elements t) : Standard .value (CodePoint.ofChar '[' :: t ++ [CodePoint.ofChar ']'])
  | emptyObject {t : Text} (blank : Blank t) : Standard .value (CodePoint.ofNat 123 :: t ++ [CodePoint.ofNat 125])
  | object {t : Text} (members : Standard .members t) : Standard .value (CodePoint.ofNat 123 :: t ++ [CodePoint.ofNat 125])
  | document {before t behind : Text} (front : Blank before) (value : Standard .value t) (back : Blank behind) :
      Standard .document (before ++ t ++ behind)
  | lastElement {t : Text} (element : Standard .document t) : Standard .elements t
  | element {t rest : Text} (element : Standard .document t) (others : Standard .elements rest) :
      Standard .elements (t ++ CodePoint.ofChar ',' :: rest)
  | named {before name behind t : Text} (front : Blank before) (chars : Chars name) (back : Blank behind)
      (value : Standard .document t) : Standard .member (before ++ quotedChars name ++ behind ++ CodePoint.ofChar ':' :: t)
  | lastMember {t : Text} (member : Standard .member t) : Standard .members t
  | member {t rest : Text} (member : Standard .member t) (others : Standard .members rest) :
      Standard .members (t ++ CodePoint.ofChar ',' :: rest)

inductive AllFinite : Json → Prop where
  | null : AllFinite .null
  | bool (b : Bool) : AllFinite (.bool b)
  | int (n : Int) : AllFinite (.int n)
  | float {x : Double} (finite : x.isFinite = true) : AllFinite (.float x)
  | str (t : Text) : AllFinite (.str t)
  | arr {xs : List Json} (all : ∀ x ∈ xs, AllFinite x) : AllFinite (.arr xs)
  | obj {ms : List (Text × Json)} (all : ∀ m ∈ ms, AllFinite m.2) : AllFinite (.obj ms)
  | foreign (f : Foreign) : AllFinite (.foreign f)

theorem allFinite_obj {ms : List (Text × Json)} : AllFinite (.obj ms) ↔ ∀ m ∈ ms, AllFinite m.2 := by
  constructor
  · intro finite
    cases finite with
    | obj all => exact all
  · exact .obj

theorem firstFaultInElements_none {xs : List Json} : firstFaultInElements xs = none ↔ ∀ x ∈ xs, firstFault x = none := by
  induction xs with
  | nil => simp [firstFaultInElements]
  | cons x rest ih => simp [firstFaultInElements, ih]

theorem firstFaultInMembers_none {ms : List (Text × Json)} : firstFaultInMembers ms = none ↔ ∀ m ∈ ms, firstFault m.2 = none := by
  induction ms with
  | nil => simp [firstFaultInMembers]
  | cons m rest ih => simp [firstFaultInMembers, ih]

theorem finite_of_writable {v : Json} (writable : firstFault v = none) : AllFinite v := by
  induction v using nested with
  | null => exact .null
  | bool b => exact .bool b
  | int n => exact .int n
  | float x =>
    unfold firstFault at writable
    split at writable
    · rename_i finite
      exact .float finite
    · cases writable
  | str t => exact .str t
  | arr xs ih => exact .arr fun x member => ih x member (firstFaultInElements_none.mp writable x member)
  | obj ms ih => exact .obj fun m member => ih m member (firstFaultInMembers_none.mp writable m member)
  | foreign f => exact .foreign f

theorem Decoded.writable {v : Json} (decoded : Decoded v) : firstFault v = none ↔ AllFinite v := by
  refine ⟨finite_of_writable, fun finite => ?_⟩
  induction finite with
  | float finite => exact if_pos finite
  | arr _ ih =>
    cases decoded with
    | arr each => exact firstFaultInElements_none.mpr fun x member => ih x member (each x member)
  | obj _ ih =>
    cases decoded with
    | obj _ each => exact firstFaultInMembers_none.mpr fun m member => ih m member (each m member)
  | foreign => cases decoded
  | _ => rfl

theorem blank_nil : Blank [] := by
  intro c member
  cases member

theorem blank_space : Blank " " := by
  intro c member
  rw [List.mem_singleton.mp member]
  rfl

theorem isNumber_whole (negative : Bool) {whole : Text} (valid : IsWhole whole) :
    IsNumber (signed negative whole) negative whole [] [] :=
  ⟨by simp, valid, .none, .none⟩

theorem isNumber_magnitude (negative : Bool) {m e : Nat} (canonical : Canonical m e) :
    ∃ whole fraction power, IsNumber (signed negative (Double.magnitudeText m e)) negative whole fraction power := by
  unfold Double.magnitudeText
  split
  · have fraction : Fraction (CodePoint.ofChar '.' :: [CodePoint.ofNat 48]) :=
      .places (replicate_zero_allDigits 1) (List.cons_ne_nil _ _)
    exact ⟨[CodePoint.ofNat 48], _, [], ⟨rfl, Or.inl rfl, fraction, .none⟩⟩
  · rename_i nonzero
    have range := ofFinite_range canonical nonzero
    simp only
    split
    · obtain ⟨whole, places, zeros, pointed⟩ := positional_pointed range.nonzero (Shortest.ofFinite m e).exponent
      refine ⟨whole, _, [], ⟨?_, pointed.valid, .places pointed.digits pointed.nonempty, .none⟩⟩
      rw [pointed.shape, List.append_nil]
    · obtain ⟨c, places, small, power, scaled⟩ := scientific_scaled range.nonzero (Shortest.ofFinite m e).exponent
      have fraction : Fraction (if places = [] then [] else CodePoint.ofChar '.' :: places) := by
        split
        · exact .none
        · rename_i some
          exact .places scaled.all some
      have digits : Power ((if small then "e-" else "e+" : Text) ++ padded 2 power) := by
        cases small with
        | true =>
          have minus : Power (CodePoint.ofChar 'e' :: ("-" ++ padded 2 power)) :=
            .digits (Or.inl rfl) (Or.inr (Or.inr rfl)) (padded_allDigits 2 power) (padded_ne_nil 2 power)
          exact minus
        | false =>
          have plus : Power (CodePoint.ofChar 'e' :: ("+" ++ padded 2 power)) :=
            .digits (Or.inl rfl) (Or.inr (Or.inl rfl)) (padded_allDigits 2 power) (padded_ne_nil 2 power)
          exact plus
      exact ⟨[c], _, _, ⟨by rw [scaled.shape], scaled.valid, fraction, digits⟩⟩

theorem Chars.append {t u : Text} (front : Chars t) (back : Chars u) : Chars (t ++ u) := by
  induction front with
  | nil => exact back
  | plain notQuote notSlash printable _ ih => exact .plain notQuote notSlash printable ih
  | escape named _ ih => exact .escape named ih
  | unit digits _ ih => exact .unit digits ih

theorem chars_unit (n : Nat) : Chars (escapedUnitText n) := by
  have digit : ∀ k, (Text.hexDigit (k % 16)).hexValue?.isSome := by
    intro k
    rw [hexValue_digit (Nat.mod_lt k (by decide))]
    rfl
  refine Chars.unit (fun x member => ?_) .nil
  simp only [List.mem_cons, List.not_mem_nil, or_false] at member
  rcases member with rfl | rfl | rfl | rfl <;> exact digit _

theorem chars_writtenOne (c : CodePoint) : Chars (writtenOne c) := by
  generalize written : writtenOne c = spelling
  cases written ▸ writtenOne_spelled c with
  | plain notQuote notSlash printable => exact .plain notQuote notSlash printable .nil
  | escape named =>
    refine .escape ?_ .nil
    unfold simpleEscape? at named
    split at named <;> simp_all
  | unit => exact chars_unit _
  | pair => exact (chars_unit _).append (chars_unit _)

theorem chars_flatMap (t : Text) : Chars (t.flatMap writtenOne) := by
  induction t with
  | nil => exact .nil
  | cons c t ih =>
    rw [List.flatMap_cons]
    exact (chars_writtenOne c).append ih

theorem standard_writtenString (t : Text) : Standard .value (writtenString t) := .string (chars_flatMap t)

theorem comma_space (t : Text) : ", " ++ t = CodePoint.ofChar ',' :: (" " ++ t) := rfl

theorem colon_space (t : Text) : ": " ++ t = CodePoint.ofChar ':' :: (" " ++ t) := rfl

theorem standard_elements {xs : List Json} (each : ∀ x ∈ xs, Standard .value (written x)) (some : xs ≠ [])
    {before : Text} (front : Blank before) : Standard .elements (before ++ writtenElements xs) := by
  induction xs generalizing before with
  | nil => exact absurd rfl some
  | cons x more ih =>
    have first : Standard .document (before ++ written x) := by
      have padded := Standard.document front (each x List.mem_cons_self) blank_nil
      rwa [List.append_nil] at padded
    match more with
    | [] => exact .lastElement first
    | y :: others =>
      have rest := ih (fun y member => each y (List.mem_cons_of_mem x member)) (List.cons_ne_nil _ _) blank_space
      have whole := Standard.element first rest
      rw [← comma_space] at whole
      simp only [writtenElements, List.append_assoc] at whole ⊢
      exact whole

theorem standard_member {v : Json} (value : Standard .value (written v)) (name : Text) {before : Text}
    (front : Blank before) : Standard .member (before ++ (writtenString name ++ (": " ++ written v))) := by
  have padded := Standard.document blank_space value blank_nil
  have whole := Standard.named front (chars_flatMap name) blank_nil padded
  rw [List.append_nil, List.append_nil, List.append_assoc, ← colon_space] at whole
  exact whole

theorem standard_members {ms : List (Text × Json)} (each : ∀ m ∈ ms, Standard .value (written m.2)) (some : ms ≠ [])
    {before : Text} (front : Blank before) : Standard .members (before ++ writtenMembers ms) := by
  induction ms generalizing before with
  | nil => exact absurd rfl some
  | cons m more ih =>
    obtain ⟨name, v⟩ := m
    have first := standard_member (each (name, v) List.mem_cons_self) name front
    match more with
    | [] =>
      simp only [writtenMembers, List.append_assoc]
      exact .lastMember first
    | n :: others =>
      have rest := ih (fun n member => each n (List.mem_cons_of_mem _ member)) (List.cons_ne_nil _ _) blank_space
      have whole := Standard.member first rest
      rw [← comma_space] at whole
      simp only [writtenMembers, List.append_assoc] at whole ⊢
      exact whole

theorem AllFinite.standard {v : Json} (finite : AllFinite v) : Standard .value (written v) := by
  induction finite with
  | null => exact .word (Or.inl rfl)
  | bool b =>
    cases b with
    | true => exact .word (Or.inr (Or.inl rfl))
    | false => exact .word (Or.inr (Or.inr rfl))
  | int n =>
    have number := isNumber_whole (decide (n < 0)) (isWhole_ofNat n.natAbs)
    rw [← ofInt_signed] at number
    exact .number number
  | @float x finite =>
    cases x with
    | nan => cases finite
    | infinity negative => cases finite
    | finite negative m e canonical =>
      obtain ⟨whole, fraction, power, number⟩ := isNumber_magnitude negative canonical
      rw [← writtenDouble_finite negative canonical] at number
      exact .number number
  | str t => exact standard_writtenString t
  | @arr xs all ih =>
    cases xs with
    | nil => exact .emptyArray blank_nil
    | cons x more => exact .array (standard_elements ih (List.cons_ne_nil _ _) blank_nil)
  | @obj ms all ih =>
    cases ms with
    | nil => exact .emptyObject blank_nil
    | cons m more => exact .object (standard_members ih (List.cons_ne_nil _ _) blank_nil)
  | foreign f => exact standard_writtenString f.shown

-- The other way round: a scan of a standard text finds no name of such a number outside of
-- strings, and a scan of what is written for one finds the first letter of its name there.
def Place.unquoted (p : Place) : Text → Text
  | [] => []
  | c :: t => if p.mode = .outside then c :: (p.after c).unquoted t else (p.after c).unquoted t

def Lacks (depth : Int) (t : Text) : Prop := ∀ c ∈ Place.unquoted ⟨.outside, depth⟩ t, c.val ≠ 73 ∧ c.val ≠ 78

theorem Place.unquoted_append (p : Place) (t u : Text) : p.unquoted (t ++ u) = p.unquoted t ++ (p.through t).unquoted u := by
  induction t generalizing p with
  | nil => rfl
  | cons c t ih =>
    have rest := ih (p.after c)
    simp only [List.cons_append, unquoted]
    split <;> simp [rest, through]

theorem Place.mem_unquoted {p : Place} {t : Text} {c : CodePoint} (member : c ∈ p.unquoted t) : c ∈ t := by
  induction t generalizing p with
  | nil => exact member
  | cons d t ih =>
    unfold unquoted at member
    split at member
    · rcases List.mem_cons.mp member with here | there
      · exact here ▸ List.mem_cons_self
      · exact List.mem_cons_of_mem d (ih there)
    · exact List.mem_cons_of_mem d (ih member)

theorem lacks_append {t u : Text} (keeps : Keeps .outside t) (depth : Int) :
    Lacks depth (t ++ u) ↔ Lacks depth t ∧ Lacks depth u := by
  unfold Lacks
  rw [Place.unquoted_append, keeps.closes]
  exact List.forall_mem_append

theorem lacks_bracketed {opener closer : CodePoint} {t : Text} (keeps : Keeps .outside t)
    (opens : opener.val = 91 ∨ opener.val = 123) (closes : closer.val = 93 ∨ closer.val = 125) (depth : Int) :
    Lacks depth (opener :: t ++ [closer]) ↔ Lacks (depth + 1) t := by
  have after : Place.after ⟨.outside, depth⟩ opener = ⟨.outside, depth + 1⟩ := by
    rcases opens with value | value <;> simp [Place.after, value]
  have first : opener.val ≠ 73 ∧ opener.val ≠ 78 := by omega
  have last : closer.val ≠ 73 ∧ closer.val ≠ 78 := by omega
  have unquoted : Place.unquoted ⟨.outside, depth⟩ (opener :: t ++ [closer]) =
      opener :: (Place.unquoted ⟨.outside, depth + 1⟩ t ++ [closer]) := by
    rw [List.cons_append, Place.unquoted, if_pos rfl, after, Place.unquoted_append, keeps.closes]
    rfl
  unfold Lacks
  rw [unquoted, List.forall_mem_cons, List.forall_mem_append, List.forall_mem_singleton]
  exact ⟨fun all => all.2.1, fun inner => ⟨first, inner, last⟩⟩

structure Wordless (t : Text) : Prop where
  keeps : Keeps .outside t
  lacks : ∀ depth, Lacks depth t

theorem Wordless.append {t u : Text} (front : Wordless t) (back : Wordless u) : Wordless (t ++ u) where
  keeps := front.keeps.append back.keeps
  lacks := fun depth => (lacks_append front.keeps depth).mpr ⟨front.lacks depth, back.lacks depth⟩

theorem Wordless.bracketed {opener closer : CodePoint} {t : Text} (inner : Wordless t)
    (opens : opener.val = 91 ∨ opener.val = 123) (closes : closer.val = 93 ∨ closer.val = 125) :
    Wordless (opener :: t ++ [closer]) where
  keeps := inner.keeps.bracketed opens closes
  lacks := fun depth => (lacks_bracketed inner.keeps opens closes depth).mpr (inner.lacks (depth + 1))

theorem wordless_bare {t : Text} (bare : Bare t) (absent : ∀ c ∈ t, c.val ≠ 73 ∧ c.val ≠ 78) : Wordless t where
  keeps := bare.keeps (Or.inl rfl)
  lacks := fun _ c member => absent c (Place.mem_unquoted member)

theorem wordless_digits {t : Text} (all : AllDigits t) : Wordless t := by
  refine wordless_bare (bare_digits all) fun c member => ?_
  have digit := all c member
  simp only [isDigit, Bool.and_eq_true, decide_eq_true_eq] at digit
  omega

theorem wordless_blank {t : Text} (blank : Blank t) : Wordless t := by
  have spaces : ∀ c ∈ t, c.val = 32 ∨ c.val = 9 ∨ c.val = 10 ∨ c.val = 13 := by
    intro c member
    have space := blank c member
    simp only [isSpace, Bool.or_eq_true, beq_iff_eq] at space
    omega
  refine wordless_bare (fun c member => ⟨?_, ?_⟩) fun c member => ?_
  · have space := spaces c member
    omega
  · have space := spaces c member
    simp only [isMark, List.contains_eq_mem, List.mem_cons, List.not_mem_nil, or_false, decide_eq_false_iff_not]
    omega
  · have space := spaces c member
    omega

theorem wordless_one {c : CodePoint} (bare : Bare [c]) (absent : c.val ≠ 73 ∧ c.val ≠ 78) : Wordless [c] :=
  wordless_bare bare (List.forall_mem_singleton.mpr absent)

theorem IsWhole.wordless {whole : Text} (valid : IsWhole whole) : Wordless whole := by
  rcases valid with zero | ⟨all, -⟩
  · rw [zero]
    exact wordless_one (by decide) (by decide)
  · exact wordless_digits all

theorem Fraction.wordless {t : Text} (fraction : Fraction t) : Wordless t := by
  cases fraction with
  | none => exact wordless_digits fun c member => (List.not_mem_nil member).elim
  | places digits => exact (wordless_one (by decide) (by decide)).append (wordless_digits digits)

theorem Power.wordless {t : Text} (power : Power t) : Wordless t := by
  cases power with
  | none => exact wordless_digits fun c member => (List.not_mem_nil member).elim
  | @digits mark sign t marks signs digits =>
    have front : Wordless [mark] := by
      refine wordless_one ?_ (by omega)
      refine bare_nil.cons ⟨by omega, ?_⟩
      rcases marks with value | value <;> simp [isMark, value]
    have middle : Wordless sign := by
      rcases signs with rfl | rfl | rfl
      · exact wordless_digits fun c member => (List.not_mem_nil member).elim
      · exact wordless_one (by decide) (by decide)
      · exact wordless_one (by decide) (by decide)
    exact front.append (middle.append (wordless_digits digits))

theorem IsNumber.wordless {t whole fraction power : Text} {negative : Bool}
    (number : IsNumber t negative whole fraction power) : Wordless t := by
  have magnitude := (number.valid.wordless.append number.fraction.wordless).append number.power.wordless
  rw [number.shape]
  cases negative with
  | true => exact (wordless_one (by decide) (by decide)).append magnitude
  | false => exact magnitude

structure Inside (t : Text) : Prop where
  keeps : Keeps .inside t
  none : ∀ depth, Place.unquoted ⟨.inside, depth⟩ t = []

theorem Inside.append {t u : Text} (front : Inside t) (back : Inside u) : Inside (t ++ u) where
  keeps := front.keeps.append back.keeps
  none := by
    intro depth
    rw [Place.unquoted_append, front.keeps.closes, front.none, back.none]
    rfl

theorem inside_nil : Inside [] := ⟨keeps_nil .inside, fun _ => rfl⟩

theorem inside_one {c : CodePoint} (stays : ∀ depth, Place.after ⟨.inside, depth⟩ c = ⟨.inside, depth⟩) : Inside [c] :=
  ⟨keeps_one stays, fun _ => rfl⟩

theorem inside_escape (e : CodePoint) : Inside [CodePoint.ofChar '\\', e] := ⟨keeps_escape e, fun _ => rfl⟩

theorem inside_hex {c : CodePoint} (digit : c.hexValue?.isSome) : Inside [c] := by
  refine inside_one (after_plain ?_ (Or.inr rfl))
  simp only [isMark, List.contains_eq_mem, List.mem_cons, List.not_mem_nil, or_false, decide_eq_false_iff_not]
  intro mark
  have none : c.hexValue? = none := by
    unfold hexValue? isDigit
    rw [if_neg (by simp; omega), if_neg (by omega), if_neg (by omega)]
  rw [none] at digit
  cases digit

theorem Chars.inside {t : Text} (chars : Chars t) : Inside t := by
  induction chars with
  | nil => exact inside_nil
  | @plain c t notQuote notSlash _ _ ih =>
    have one : Inside [c] := inside_one fun depth => by simp [Place.after, notQuote, notSlash]
    exact one.append ih
  | escape _ _ ih => exact (inside_escape _).append ih
  | @unit a b c d t digits _ ih =>
    have each : ∀ x ∈ [a, b, c, d], Inside [x] := fun x member => inside_hex (digits x member)
    have first := (each a (by simp)).append (each b (by simp))
    have second := (each c (by simp)).append (each d (by simp))
    exact ((inside_escape _).append (first.append second)).append ih

theorem wordless_quotedChars {t : Text} (chars : Chars t) : Wordless (quotedChars t) where
  keeps := by
    refine chars.inside.keeps.enclosed 0 (Int.le_refl 0) (fun depth => ?_) (fun depth => ?_)
    · rw [Int.add_zero]
      rfl
    · rw [Int.add_zero]
      rfl
  lacks := by
    intro depth c member
    have quotes : Place.unquoted ⟨.outside, depth⟩ (quotedChars t) = [CodePoint.ofChar '"'] := by
      show CodePoint.ofChar '"' :: Place.unquoted ⟨.inside, depth⟩ (t ++ [CodePoint.ofChar '"']) = _
      rw [Place.unquoted_append, chars.inside.none, chars.inside.keeps.closes]
      rfl
    rw [quotes] at member
    rw [List.mem_singleton.mp member]
    decide

theorem Standard.wordless {phrase : Phrase} {t : Text} (standard : Standard phrase t) : Wordless t := by
  have comma : Wordless [CodePoint.ofChar ','] := wordless_one (by decide) (by decide)
  have colon : Wordless [CodePoint.ofChar ':'] := wordless_one (by decide) (by decide)
  induction standard with
  | word named => rcases named with rfl | rfl | rfl <;> exact wordless_bare (by decide) (by decide)
  | number number => exact number.wordless
  | string chars => exact wordless_quotedChars chars
  | emptyArray blank => exact (wordless_blank blank).bracketed (Or.inl rfl) (Or.inl rfl)
  | array _ inner => exact inner.bracketed (Or.inl rfl) (Or.inl rfl)
  | emptyObject blank => exact (wordless_blank blank).bracketed (Or.inr rfl) (Or.inr rfl)
  | object _ inner => exact inner.bracketed (Or.inr rfl) (Or.inr rfl)
  | document front _ back inner => exact ((wordless_blank front).append inner).append (wordless_blank back)
  | lastElement _ element => exact element
  | element _ _ element others => exact element.append (comma.append others)
  | named front chars back _ value =>
    exact (((wordless_blank front).append (wordless_quotedChars chars)).append (wordless_blank back)).append
      (colon.append value)
  | lastMember _ member => exact member
  | member _ _ member others => exact member.append (comma.append others)

theorem lacks_elements {xs : List Json} {depth : Int} (lacks : Lacks depth (writtenElements xs)) :
    ∀ x ∈ xs, Lacks depth (written x) := by
  induction xs with
  | nil =>
    intro x member
    cases member
  | cons x more ih =>
    match more with
    | [] => exact List.forall_mem_singleton.mpr lacks
    | y :: others =>
      obtain ⟨front, rest⟩ := (lacks_append ((written_keeps x).append keeps_comma) depth).mp lacks
      have first := ((lacks_append (written_keeps x) depth).mp front).1
      exact List.forall_mem_cons.mpr ⟨first, ih rest⟩

theorem lacks_members {ms : List (Text × Json)} {depth : Int} (lacks : Lacks depth (writtenMembers ms)) :
    ∀ m ∈ ms, Lacks depth (written m.2) := by
  induction ms with
  | nil =>
    intro m member
    cases member
  | cons m more ih =>
    have opened := (keeps_writtenString m.1).append ((show Bare ": " by decide).keeps (Or.inl rfl))
    match more with
    | [] => exact List.forall_mem_singleton.mpr ((lacks_append opened depth).mp lacks).2
    | n :: others =>
      have keeps := opened.append (written_keeps m.2)
      obtain ⟨front, rest⟩ := (lacks_append (keeps.append keeps_comma) depth).mp lacks
      have first := ((lacks_append opened depth).mp ((lacks_append keeps depth).mp front).1).2
      exact List.forall_mem_cons.mpr ⟨first, ih rest⟩

theorem finite_of_lacks {v : Json} {depth : Int} (lacks : Lacks depth (written v)) : AllFinite v := by
  induction v using nested generalizing depth with
  | null => exact .null
  | bool b => exact .bool b
  | int n => exact .int n
  | float x =>
    cases x with
    | nan => exact absurd rfl (lacks (CodePoint.ofChar 'N') List.mem_cons_self).2
    | infinity negative =>
      cases negative with
      | false => exact absurd rfl (lacks (CodePoint.ofChar 'I') List.mem_cons_self).1
      | true => exact absurd rfl (lacks (CodePoint.ofChar 'I') (List.mem_cons_of_mem _ List.mem_cons_self)).1
    | finite => exact .float rfl
  | str t => exact .str t
  | arr xs ih =>
    have keeps := keeps_writtenElements fun x (_ : x ∈ xs) => written_keeps x
    have inner := (lacks_bracketed keeps (Or.inl rfl) (Or.inl rfl) depth).mp lacks
    exact .arr fun x member => ih x member (lacks_elements inner x member)
  | obj ms ih =>
    have keeps := keeps_writtenMembers fun m (_ : m ∈ ms) => written_keeps m.2
    have inner := (lacks_bracketed keeps (Or.inr rfl) (Or.inr rfl) depth).mp lacks
    exact .obj fun m member => ih m member (lacks_members inner m member)
  | foreign f => exact .foreign f

-- What is written for a value is standard JSON just when every number in the value is finite.
theorem standard_written (v : Json) : Standard .document (written v) ↔ AllFinite v := by
  constructor
  · intro standard
    exact finite_of_lacks (standard.wordless.lacks 0)
  · intro finite
    have document := Standard.document blank_nil finite.standard blank_nil
    rwa [List.append_nil] at document

end UploadRelay.Json
