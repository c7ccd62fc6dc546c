import UploadRelay.Json.Reader
import UploadRelay.Json.Writer
import UploadRelay.Proofs.Number.Rounding
import UploadRelay.Proofs.Text.Numeral
-- Numbers in a document: whatever the writer writes for one, the reader takes back as the
-- same number and stops behind it.

namespace UploadRelay.Json

open Text CodePoint

def EndsValue (rest : Text) : Prop := ∀ c, rest.head? = some c → c.val = 44 ∨ c.val = 93 ∨ c.val = 125

theorem endsValue_nil : EndsValue [] := by
  intro c first
  cases first

theorem EndsValue.stopsDigits {rest : Text} (ends : EndsValue rest) : StopsDigits rest := by
  intro c first
  rcases ends c first with comma | bracket | brace <;> simp [isDigit, *]

theorem EndsValue.fraction_none {rest : Text} (ends : EndsValue rest) : fraction rest = ([], rest) := by
  cases rest with
  | nil => rfl
  | cons p rest =>
    have noPoint : p.val ≠ 46 := by
      rcases ends p rfl with comma | bracket | brace <;> omega
    cases rest with
    | nil => rfl
    | cons d rest => simp [fraction, noPoint]

theorem EndsValue.exponent_none {rest : Text} (ends : EndsValue rest) : Decimal.exponent? rest = none := by
  cases rest with
  | nil => rfl
  | cons mark rest =>
    have noMark : ¬ (mark.val = 101 ∨ mark.val = 69) := by
      rcases ends mark rfl with comma | bracket | brace <;> omega
    simp only [Decimal.exponent?, if_neg noMark]

def IsWhole (whole : Text) : Prop :=
  whole = [CodePoint.ofNat 48] ∨ AllDigits whole ∧ ∃ c rest, whole = c :: rest ∧ c.val ≠ 48

theorem isWhole_ofNat (n : Nat) : IsWhole (Text.ofNat n) := by
  by_cases zero : n = 0
  · left
    rw [zero, ofNat_zero]
  · right
    obtain ⟨c, rest, digits, -, nonzero⟩ := ofNat_head zero
    exact ⟨ofNat_allDigits n, c, rest, digits, nonzero⟩

theorem IsWhole.head {whole : Text} (valid : IsWhole whole) : ∃ c rest, whole = c :: rest ∧ c.isDigit = true := by
  rcases valid with zero | ⟨all, c, rest, digits, -⟩
  · exact ⟨_, [], zero, by decide⟩
  · refine ⟨c, rest, digits, all c ?_⟩
    rw [digits]
    exact List.mem_cons_self

theorem wholeDigits_whole {whole rest : Text} (valid : IsWhole whole) (stops : StopsDigits rest) :
    wholeDigits? (whole ++ rest) = some (whole, rest) := by
  rcases valid with zero | ⟨all, c, behind, digits, nonzero⟩
  · rw [zero]
    rfl
  · have first : c.isDigit = true := by
      apply all c
      rw [digits]
      exact List.mem_cons_self
    have scanned := span_digits all stops
    rw [digits, List.cons_append] at scanned ⊢
    rw [wholeDigits?, if_neg nonzero, if_pos first, scanned]

theorem fraction_places {places rest : Text} (all : AllDigits places) (nonempty : places ≠ []) (stops : StopsDigits rest) :
    fraction (CodePoint.ofChar '.' :: (places ++ rest)) = (places, rest) := by
  cases places with
  | nil => exact absurd rfl nonempty
  | cons d places =>
    have digit : d.isDigit = true := all d List.mem_cons_self
    have scanned := span_digits all stops
    rw [List.cons_append] at scanned ⊢
    rw [fraction, if_pos ⟨rfl, digit⟩, scanned]

theorem exponent_mark (negative : Bool) {digits rest : Text} (all : AllDigits digits) (nonempty : digits ≠ [])
    (stops : StopsDigits rest) :
    Decimal.exponent? ((if negative then "e-" else "e+" : Text) ++ (digits ++ rest)) =
      some (if negative then -(digitsValue digits : Int) else digitsValue digits, rest) := by
  have scanned := span_digits all stops
  have mark : (CodePoint.ofChar 'e').val = 101 := rfl
  have minus : (CodePoint.ofChar '-').val = 45 := rfl
  have plus : (CodePoint.ofChar '+').val = 43 := rfl
  cases digits with
  | nil => exact absurd rfl nonempty
  | cons d digits =>
    cases negative with
    | true =>
      show Decimal.exponent? (CodePoint.ofChar 'e' :: CodePoint.ofChar '-' :: ((d :: digits) ++ rest)) = _
      rw [List.cons_append] at scanned ⊢
      simp [Decimal.exponent?, mark, minus, Decimal.digits_eq, scanned]
    | false =>
      show Decimal.exponent? (CodePoint.ofChar 'e' :: CodePoint.ofChar '+' :: ((d :: digits) ++ rest)) = _
      rw [List.cons_append] at scanned ⊢
      simp [Decimal.exponent?, mark, plus, Decimal.digits_eq, scanned]

def signed (negative : Bool) (t : Text) : Text := if negative then CodePoint.ofChar '-' :: t else t

theorem minus_ne_digit {c : CodePoint} (digit : c.isDigit = true) : c.val ≠ 45 := by
  intro minus
  simp [isDigit, minus] at digit

def behindWhole (negative : Bool) (whole rest : Text) : Except Stop (Json × Text) :=
  let (places, rest) := fraction rest
  match Decimal.exponent? rest with
  | some (e, rest) =>
    .ok (.float (Double.ofDecimal negative (digitsValue (whole ++ places)) (e - (places.length : Int))), rest)
  | none =>
    if places.isEmpty then
      if digitLimit < whole.length then .error (.tooManyDigits whole.length)
      else .ok (.int (if negative then -(digitsValue whole : Int) else (digitsValue whole : Int)), rest)
    else .ok (.float (Double.ofDecimal negative (digitsValue (whole ++ places)) (-(places.length : Int))), rest)

theorem number_signed (negative : Bool) {whole rest : Text} (valid : IsWhole whole) (stops : StopsDigits rest) :
    number (signed negative (whole ++ rest)) = behindWhole negative whole rest := by
  have scanned := wholeDigits_whole valid stops
  obtain ⟨c, behind, digits, digit⟩ := valid.head
  cases negative with
  | true =>
    have minus : (CodePoint.ofChar '-').val = 45 := rfl
    cases power : Decimal.exponent? (fraction rest).2 with
    | none => simp only [signed, if_true, number, minus, scanned, Decimal.digits_eq, behindWhole, power]
    | some found => simp only [signed, if_true, number, minus, scanned, Decimal.digits_eq, behindWhole, power]
  | false =>
    have noMinus := minus_ne_digit digit
    rw [digits, List.cons_append] at scanned
    cases power : Decimal.exponent? (fraction rest).2 with
    | none =>
      simp only [signed, Bool.false_eq_true, if_false, number, digits, List.cons_append, noMinus, scanned,
        Decimal.digits_eq, behindWhole, power]
    | some found =>
      simp only [signed, Bool.false_eq_true, if_false, number, digits, List.cons_append, noMinus, scanned,
        Decimal.digits_eq, behindWhole, power]

theorem number_whole (negative : Bool) {whole rest : Text} (valid : IsWhole whole) (ends : EndsValue rest)
    (short : whole.length ≤ digitLimit) :
    number (signed negative (whole ++ rest)) =
      .ok (.int (if negative then -(digitsValue whole : Int) else (digitsValue whole : Int)), rest) := by
  rw [number_signed negative valid ends.stopsDigits]
  simp only [behindWhole, ends.fraction_none, ends.exponent_none, List.isEmpty_nil, if_true,
    if_neg (Nat.not_lt_of_le short)]

theorem stopsDigits_point (rest : Text) : StopsDigits (CodePoint.ofChar '.' :: rest) := by
  intro c first
  cases first
  decide

theorem stopsDigits_mark (negative : Bool) (rest : Text) :
    StopsDigits ((if negative then "e-" else "e+" : Text) ++ rest) := by
  intro c first
  cases negative <;> cases first <;> decide

theorem number_pointed (negative : Bool) {whole places rest : Text} (valid : IsWhole whole) (all : AllDigits places)
    (nonempty : places ≠ []) (ends : EndsValue rest) :
    number (signed negative (whole ++ CodePoint.ofChar '.' :: (places ++ rest))) =
      .ok (.float (Double.ofDecimal negative (digitsValue (whole ++ places)) (-(places.length : Int))), rest) := by
  rw [number_signed negative valid (stopsDigits_point _)]
  have notEmpty : places.isEmpty = false := by simpa using nonempty
  simp only [behindWhole, fraction_places all nonempty ends.stopsDigits, ends.exponent_none, notEmpty,
    Bool.false_eq_true, if_false]

theorem fraction_mark (negative : Bool) (rest : Text) :
    fraction ((if negative then "e-" else "e+" : Text) ++ rest) = ([], (if negative then "e-" else "e+" : Text) ++ rest) := by
  cases negative <;> rfl

theorem number_scientific (negative small : Bool) {whole places power rest : Text} (valid : IsWhole whole)
    (all : AllDigits places) (digits : AllDigits power) (nonempty : power ≠ []) (ends : EndsValue rest) :
    number (signed negative (whole ++ (if places = [] then [] else CodePoint.ofChar '.' :: places) ++
        ((if small then "e-" else "e+" : Text) ++ (power ++ rest)))) =
      .ok (.float (Double.ofDecimal negative (digitsValue (whole ++ places))
        ((if small then -(digitsValue power : Int) else digitsValue power) - (places.length : Int))), rest) := by
  have marked := exponent_mark small digits nonempty ends.stopsDigits
  rw [List.append_assoc]
  split
  · rename_i empty
    rw [List.nil_append, number_signed negative valid (stopsDigits_mark _ _)]
    simp only [behindWhole, fraction_mark, marked, empty]
  · rename_i someDigits
    rw [List.cons_append, number_signed negative valid (stopsDigits_point _)]
    simp only [behindWhole, fraction_places all someDigits (stopsDigits_mark _ _), marked]

theorem isWhole_take {d count : Nat} (nonzero : d ≠ 0) (some : 0 < count) : IsWhole ((Text.ofNat d).take count) := by
  obtain ⟨c, rest, digits, -, first⟩ := ofNat_head nonzero
  right
  refine ⟨fun x member => ofNat_allDigits d x (List.mem_of_mem_take member), c, rest.take (count - 1), ?_, first⟩
  rw [digits, List.take_cons some]

theorem isWhole_behindZeros {d : Nat} (nonzero : d ≠ 0) (count : Nat) :
    IsWhole (Text.ofNat d ++ List.replicate count (CodePoint.ofChar '0')) := by
  obtain ⟨c, rest, digits, -, first⟩ := ofNat_head nonzero
  right
  refine ⟨(ofNat_allDigits d).append (replicate_zero_allDigits count), c,
    rest ++ List.replicate count (CodePoint.ofChar '0'), ?_, first⟩
  rw [digits, List.cons_append]

structure Pointed (d : Nat) (e : Int) (t : Text) (whole places : Text) (zeros : Nat) : Prop where
  shape : t = whole ++ CodePoint.ofChar '.' :: places
  valid : IsWhole whole
  digits : AllDigits places
  nonempty : places ≠ []
  read : digitsValue (whole ++ places) = d * 10 ^ zeros
  scale : -(places.length : Int) = e - zeros

theorem positional_pointed {d : Nat} (nonzero : d ≠ 0) (e : Int) :
    ∃ whole places zeros, Pointed d e (Double.positional (Text.ofNat d) e) whole places zeros := by
  have all := ofNat_allDigits d
  have nonempty := ofNat_ne_nil d
  have read := digitsValue_ofNat d
  have some : 0 < (Text.ofNat d).length := List.length_pos_iff.mpr nonempty
  unfold Double.positional
  simp only
  split
  · -- Everything stands behind the point.
    rename_i behind
    refine ⟨[CodePoint.ofNat 48], List.replicate (-((Text.ofNat d).length + e)).toNat (CodePoint.ofChar '0') ++ Text.ofNat d,
      0, ⟨rfl, Or.inl rfl, (replicate_zero_allDigits _).append all, ?_, ?_, ?_⟩⟩
    · simp [nonempty]
    · have front := digitsValue_zeros ((-((Text.ofNat d).length + e)).toNat + 1) (Text.ofNat d)
      rw [read, List.replicate_succ] at front
      rw [Nat.pow_zero, Nat.mul_one]
      exact front
    · rw [List.length_append, List.length_replicate]
      omega
  · split
    · -- Everything stands in front of it.
      rename_i front
      refine ⟨_, [CodePoint.ofNat 48], e.toNat + 1, ⟨rfl, isWhole_behindZeros nonzero _, ?_, by simp, ?_, ?_⟩⟩
      · exact replicate_zero_allDigits 1
      · have zeros := digitsValue_behindZeros (e.toNat + 1) (Text.ofNat d)
        rw [read, List.replicate_succ', ← List.append_assoc] at zeros
        have power : ((Text.ofNat d).length + e - (Text.ofNat d).length).toNat = e.toNat := by omega
        rw [power]
        exact zeros
      · rw [List.length_singleton]
        omega
    · -- The point stands between two digits.
      rename_i behind front
      refine ⟨_, (Text.ofNat d).drop ((Text.ofNat d).length + e).toNat, 0,
        ⟨List.append_assoc _ _ _, isWhole_take nonzero (by omega), ?_, ?_, ?_, ?_⟩⟩
      · intro x member
        exact all x (List.mem_of_mem_drop member)
      · intro empty
        rw [List.drop_eq_nil_iff] at empty
        omega
      · rw [List.take_append_drop, read, Nat.pow_zero, Nat.mul_one]
      · rw [List.length_drop]
        omega

theorem number_positional (negative : Bool) {d : Nat} {e : Int} {rest : Text} (range : Double.InRange d e)
    (ends : EndsValue rest) :
    number (signed negative (Double.positional (Text.ofNat d) e ++ rest)) =
      .ok (.float (Double.ofDecimal negative d e), rest) := by
  obtain ⟨whole, places, zeros, pointed⟩ := positional_pointed range.nonzero e
  rw [pointed.shape, List.append_assoc, List.cons_append,
    number_pointed negative pointed.valid pointed.digits pointed.nonempty ends, pointed.read, pointed.scale,
    (Double.ofDecimal_zeros negative range zeros).2]

structure Scaled (d : Nat) (e : Int) (t : Text) (c : CodePoint) (places : Text) (small : Bool) (power : Nat) :
    Prop where
  digits : Text.ofNat d = c :: places
  valid : IsWhole [c]
  all : AllDigits places
  shape : t = [c] ++ (if places = [] then [] else CodePoint.ofChar '.' :: places) ++
    ((if small then "e-" else "e+" : Text) ++ padded 2 power)
  scale : (if small then -(power : Int) else power) - places.length = e

theorem scientific_scaled {d : Nat} (nonzero : d ≠ 0) (e : Int) :
    ∃ c places small power, Scaled d e (Double.scientific (Text.ofNat d) e) c places small power := by
  obtain ⟨c, places, digits, -, first⟩ := ofNat_head nonzero
  have all := ofNat_allDigits d
  rw [digits] at all
  have front : AllDigits [c] := by
    intro x member
    rw [List.mem_singleton.mp member]
    exact all c List.mem_cons_self
  have power : ((c :: places).length : Int) + e - 1 = places.length + e := by
    rw [List.length_cons]
    omega
  refine ⟨c, places, decide (places.length + e < 0), (places.length + e).natAbs,
    ⟨digits, Or.inr ⟨front, c, [], rfl, first⟩, fun x member => all x (List.mem_cons_of_mem c member), ?_, ?_⟩⟩
  · unfold Double.scientific
    rw [digits]
    simp only [power, decide_eq_true_eq]
    have mark : Text.ofString (if (places.length : Int) + e < 0 then "e-" else "e+") =
        (if places.length + e < 0 then "e-" else "e+" : Text) := by split <;> rfl
    rw [mark]
    cases places with
    | nil => rfl
    | cons x places => simp
  · simp only [decide_eq_true_eq]
    split <;> omega

theorem number_scientific_text (negative : Bool) {d : Nat} (nonzero : d ≠ 0) (e : Int) {rest : Text}
    (ends : EndsValue rest) :
    number (signed negative (Double.scientific (Text.ofNat d) e ++ rest)) =
      .ok (.float (Double.ofDecimal negative d e), rest) := by
  obtain ⟨c, places, small, power, scaled⟩ := scientific_scaled nonzero e
  have read := digitsValue_ofNat d
  rw [scaled.digits] at read
  have text : Double.scientific (Text.ofNat d) e ++ rest =
      [c] ++ (if places = [] then [] else CodePoint.ofChar '.' :: places) ++
        ((if small then "e-" else "e+" : Text) ++ (padded 2 power ++ rest)) := by
    rw [scaled.shape]
    simp only [List.append_assoc]
  rw [text,
    number_scientific negative small scaled.valid scaled.all (padded_allDigits 2 power) (padded_ne_nil 2 power) ends,
    digitsValue_padded, scaled.scale, List.singleton_append, read]

theorem ofFinite_range {m e : Nat} (canonical : Canonical m e) (nonzero : m ≠ 0) :
    Double.InRange (Shortest.ofFinite m e).digits (Shortest.ofFinite m e).exponent :=
  (Double.ofFinite_reads false canonical nonzero).1

theorem number_magnitude (negative : Bool) {m e : Nat} (canonical : Canonical m e) {rest : Text} (ends : EndsValue rest) :
    number (signed negative (Double.magnitudeText m e ++ rest)) =
      .ok (.float (.finite negative m e canonical), rest) := by
  unfold Double.magnitudeText
  split
  · rename_i zero
    subst zero
    have least : e = 0 := by
      rcases canonical.2.2 with zero | full
      · exact zero
      · omega
    subst least
    have valid : IsWhole [CodePoint.ofNat 48] := Or.inl rfl
    have places : AllDigits [CodePoint.ofNat 48] := replicate_zero_allDigits 1
    exact number_pointed negative valid places (List.cons_ne_nil _ _) ends
  · rename_i nonzero
    have reads := (Double.ofFinite_reads negative canonical nonzero).2
    have range := ofFinite_range canonical nonzero
    simp only
    split
    · rw [number_positional negative range ends, reads]
    · rw [number_scientific_text negative range.nonzero _ ends, reads]

theorem word_none (negative : Bool) {c : CodePoint} (digit : c.isDigit = true) (rest : Text) :
    word? (signed negative (c :: rest)) = none := by
  have other : ∀ x : Char, (CodePoint.ofChar x).isDigit = false → CodePoint.ofChar x ≠ c := by
    intro x letter same
    rw [same, digit] at letter
    cases letter
  have n := other 'n' (by decide)
  have t := other 't' (by decide)
  have f := other 'f' (by decide)
  have N := other 'N' (by decide)
  have I := other 'I' (by decide)
  have minus := other '-' (by decide)
  cases negative with
  | true =>
    have n' : CodePoint.ofChar 'n' ≠ CodePoint.ofChar '-' := by decide
    have t' : CodePoint.ofChar 't' ≠ CodePoint.ofChar '-' := by decide
    have f' : CodePoint.ofChar 'f' ≠ CodePoint.ofChar '-' := by decide
    have N' : CodePoint.ofChar 'N' ≠ CodePoint.ofChar '-' := by decide
    have I' : CodePoint.ofChar 'I' ≠ CodePoint.ofChar '-' := by decide
    simp [word?, words, signed, Text.ofString, Text.dropStart?, I, n', t', f', N', I']
  | false => simp [word?, words, signed, Text.ofString, Text.dropStart?, n, t, f, N, I, minus]

theorem scalar_number (negative : Bool) {t rest : Text} {v : Json} (first : ∃ c behind, t = c :: behind ∧ c.isDigit = true)
    (read : number (signed negative (t ++ rest)) = .ok (v, rest)) :
    scalar (signed negative (t ++ rest)) = .ok (v, rest) := by
  obtain ⟨c, behind, shape, digit⟩ := first
  rw [shape, List.cons_append] at read ⊢
  rw [scalar, word_none negative digit]
  exact read

theorem signed_append (negative : Bool) (t rest : Text) : signed negative t ++ rest = signed negative (t ++ rest) := by
  cases negative <;> rfl

theorem ofInt_signed (n : Int) : Text.ofInt n = signed (decide (n < 0)) (Text.ofNat n.natAbs) := by
  unfold Text.ofInt signed
  by_cases negative : n < 0
  · rw [if_pos negative, if_pos (by simpa using negative)]
  · rw [if_neg negative, if_neg (by simpa using negative)]

theorem scalar_int {n : Int} {rest : Text} (ends : EndsValue rest)
    (short : (Text.ofNat n.natAbs).length ≤ digitLimit) :
    scalar (Text.ofInt n ++ rest) = .ok (.int n, rest) := by
  have read := number_whole (decide (n < 0)) (isWhole_ofNat n.natAbs) ends short
  have value : (if decide (n < 0) = true then -((n.natAbs : Nat) : Int) else (n.natAbs : Nat)) = n := by
    simp only [decide_eq_true_eq]
    split <;> omega
  rw [digitsValue_ofNat, value] at read
  rw [ofInt_signed, signed_append]
  exact scalar_number _ (isWhole_ofNat _).head read

theorem magnitudeText_head {m e : Nat} (canonical : Canonical m e) :
    ∃ c behind, Double.magnitudeText m e = c :: behind ∧ c.isDigit = true := by
  unfold Double.magnitudeText
  split
  · exact ⟨CodePoint.ofChar '0', _, rfl, by decide⟩
  · rename_i nonzero
    have range := ofFinite_range canonical nonzero
    simp only
    split
    · obtain ⟨whole, places, zeros, pointed⟩ := positional_pointed range.nonzero _
      obtain ⟨c, behind, digits, digit⟩ := pointed.valid.head
      rw [pointed.shape, digits]
      exact ⟨c, _, List.cons_append, digit⟩
    · obtain ⟨c, places, small, power, scaled⟩ := scientific_scaled range.nonzero _
      obtain ⟨c', behind, digits, digit⟩ := scaled.valid.head
      cases digits
      rw [scaled.shape, List.append_assoc]
      exact ⟨c, _, rfl, digit⟩

theorem scalar_double (x : Double) {rest : Text} (ends : EndsValue rest) :
    scalar (writtenDouble x ++ rest) = .ok (.float x, rest) := by
  cases x with
  | nan => rfl
  | infinity negative => cases negative <;> rfl
  | finite negative m e canonical =>
    have text : writtenDouble (.finite negative m e canonical) = signed negative (Double.magnitudeText m e) := by
      cases negative <;> rfl
    rw [text, signed_append]
    exact scalar_number negative (magnitudeText_head canonical) (number_magnitude negative canonical ends)

theorem scalar_null (rest : Text) : scalar ("null" ++ rest) = .ok (.null, rest) := rfl

theorem scalar_bool (b : Bool) (rest : Text) : scalar (written (.bool b) ++ rest) = .ok (.bool b, rest) := by
  cases b <;> rfl

end UploadRelay.Json
