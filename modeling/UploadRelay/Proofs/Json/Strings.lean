import UploadRelay.Json.Reader
import UploadRelay.Json.Writer
-- Strings in a document: every code point is written on its own, and what the reader takes
-- back is the same text, but for a high surrogate with a low one right behind it. These two
-- are written like the code point that they name together and read back as that one.

namespace UploadRelay.Json

open CodePoint

def paired : Text → Text
  | high :: low :: rest =>
    if high.isHighSurrogate && low.isLowSurrogate then joined high low :: paired rest
    else high :: paired (low :: rest)
  | t => t

-- No high surrogate stands in front of a low one.
def Unpaired (t : Text) : Prop := paired t = t

theorem paired_cons_plain {c : CodePoint} (plain : c.isHighSurrogate = false) (t : Text) :
    paired (c :: t) = c :: paired t := by
  cases t with
  | nil => rfl
  | cons d t => simp [paired, plain]

theorem paired_of_plain {t : Text} (plain : ∀ c ∈ t, c.isHighSurrogate = false) : Unpaired t := by
  induction t with
  | nil => rfl
  | cons c t ih =>
    have rest : paired t = t := ih fun d member => plain d (List.mem_cons_of_mem c member)
    show paired (c :: t) = c :: t
    rw [paired_cons_plain (plain c List.mem_cons_self), rest]

theorem hexValue_digit {d : Nat} (small : d < 16) : (Text.hexDigit d).hexValue? = some d := by
  revert d; decide

theorem hex_four (n : Nat) : Text.hex 4 n =
    [Text.hexDigit (n / 4096 % 16), Text.hexDigit (n / 256 % 16), Text.hexDigit (n / 16 % 16),
      Text.hexDigit (n / 1 % 16)] := rfl

theorem escapedUnit_hex {n : Nat} (small : n < 0x10000) (u e : CodePoint) (after : Text) :
    escapedUnit u (Text.hex 4 n ++ e :: after) = .ok (CodePoint.ofNat n, e :: after) := by
  have value : ((n / 4096 % 16 * 16 + n / 256 % 16) * 16 + n / 16 % 16) * 16 + n % 16 = n := by omega
  have digit : ∀ k, (Text.hexDigit (k % 16)).hexValue? = some (k % 16) := fun k => hexValue_digit (Nat.mod_lt k (by decide))
  simp [hex_four, escapedUnit, hex4?, digit, value]

inductive Spelled : CodePoint → Text → Prop where
  | plain {c : CodePoint} (notQuote : c.val ≠ 34) (notSlash : c.val ≠ 92) (printable : 32 ≤ c.val)
      (ascii : c.val < 127) : Spelled c [c]
  | escape {c e : CodePoint} (named : simpleEscape? e = some c) (notUnit : e.val ≠ 117) (ascii : c.val < 128) :
      Spelled c [CodePoint.ofChar '\\', e]
  | unit {c : CodePoint} (small : c.val < 0x10000) : Spelled c (escapedUnitText c.val)
  | pair {c high low : CodePoint} (isHigh : high.isHighSurrogate = true) (isLow : low.isLowSurrogate = true)
      (names : joined high low = c) : Spelled c (escapedUnitText high.val ++ escapedUnitText low.val)

theorem Spelled.named {c e : CodePoint} {n : Nat} (value : c.val = n) (ascii : n < 128)
    (named : simpleEscape? e = some (CodePoint.ofNat n)) (notUnit : e.val ≠ 117) :
    Spelled c [CodePoint.ofChar '\\', e] := by
  have same : CodePoint.ofNat n = c := by rw [← value, ofNat_val]
  rw [same] at named
  exact .escape named notUnit (by omega)

theorem joined_halves {c : CodePoint} (large : ¬ c.val < 0x10000) :
    ∃ high low : CodePoint, high.val = 0xD800 + (c.val - 0x10000) / 0x400 ∧ low.val = 0xDC00 + (c.val - 0x10000) % 0x400 ∧
      high.isHighSurrogate = true ∧ low.isLowSurrogate = true ∧ joined high low = c := by
  have bound := c.isLt
  refine ⟨⟨0xD800 + (c.val - 0x10000) / 0x400, by omega⟩, ⟨0xDC00 + (c.val - 0x10000) % 0x400, by omega⟩, rfl, rfl, ?_, ?_, ?_⟩
  · simp only [isHighSurrogate, Bool.and_eq_true, decide_eq_true_eq]
    omega
  · simp only [isLowSurrogate, Bool.and_eq_true, decide_eq_true_eq]
    omega
  · have value : 0x10000 + (0xD800 + (c.val - 0x10000) / 0x400 - 0xD800) * 0x400 +
        (0xDC00 + (c.val - 0x10000) % 0x400 - 0xDC00) = c.val := by omega
    rw [joined, value, ofNat_val]

theorem writtenOne_spelled (c : CodePoint) : Spelled c (writtenOne c) := by
  unfold writtenOne
  by_cases quote : c.val = 34
  · rw [if_pos quote]
    exact Spelled.named quote (by decide) (e := CodePoint.ofChar '"') rfl (by decide)
  rw [if_neg quote]
  by_cases slash : c.val = 92
  · rw [if_pos slash]
    exact Spelled.named slash (by decide) (e := CodePoint.ofChar '\\') rfl (by decide)
  rw [if_neg slash]
  by_cases newline : c.val = 10
  · rw [if_pos newline]
    exact Spelled.named newline (by decide) (e := CodePoint.ofChar 'n') rfl (by decide)
  rw [if_neg newline]
  by_cases carriage : c.val = 13
  · rw [if_pos carriage]
    exact Spelled.named carriage (by decide) (e := CodePoint.ofChar 'r') rfl (by decide)
  rw [if_neg carriage]
  by_cases tab : c.val = 9
  · rw [if_pos tab]
    exact Spelled.named tab (by decide) (e := CodePoint.ofChar 't') rfl (by decide)
  rw [if_neg tab]
  by_cases back : c.val = 8
  · rw [if_pos back]
    exact Spelled.named back (by decide) (e := CodePoint.ofChar 'b') rfl (by decide)
  rw [if_neg back]
  by_cases feed : c.val = 12
  · rw [if_pos feed]
    exact Spelled.named feed (by decide) (e := CodePoint.ofChar 'f') rfl (by decide)
  rw [if_neg feed]
  split
  · rename_i printable
    exact .plain quote slash printable.1 (by omega)
  · split
    · rename_i small
      exact .unit small
    · rename_i large
      obtain ⟨high, low, highValue, lowValue, isHigh, isLow, names⟩ := joined_halves large
      simp only [← highValue, ← lowValue]
      exact .pair isHigh isLow names

-- What stands behind a code point of a string and does not make a pair with it: a character, a
-- named escape, or an escape of something that is no low surrogate.
inductive Onward : Text → Prop where
  | plain {d : CodePoint} (notSlash : d.val ≠ 92) (rest : Text) : Onward (d :: rest)
  | escape {d e : CodePoint} (notUnit : e.val ≠ 117) (rest : Text) : Onward (d :: e :: rest)
  | unit {d e unit : CodePoint} {rest after : Text} (reads : escapedUnit e rest = .ok (unit, after))
      (notLow : unit.isLowSurrogate = false) : Onward (d :: e :: rest)

theorem escapedUnitText_shape (n : Nat) (t : Text) :
    escapedUnitText n ++ t = CodePoint.ofChar '\\' :: CodePoint.ofChar 'u' :: (Text.hex 4 n ++ t) := rfl

theorem escapedCodePoint_alone {c : CodePoint} {behind : Text} (small : c.val < 0x10000)
    (onward : c.isHighSurrogate = true → Onward behind) (more : behind ≠ []) (u : CodePoint) :
    escapedCodePoint u (Text.hex 4 c.val ++ behind) = .ok (c, behind) := by
  obtain ⟨d, rest, shape⟩ := List.exists_cons_of_ne_nil more
  have unit := escapedUnit_hex small u d rest
  rw [ofNat_val, ← shape] at unit
  unfold escapedCodePoint
  simp only [unit, bind, Except.bind, pure, Except.pure]
  split
  · rename_i high
    split
    · -- Enough stands behind it for another escape.
      rename_i b v p q r s t after
      split
      · rename_i marked
        cases onward high with
        | plain notSlash rest => exact absurd marked.1 notSlash
        | escape notUnit rest => exact absurd marked.2 notUnit
        | unit reads notLow => simp [reads, notLow]
      · rfl
    · rfl
  · rfl

theorem high_small {c : CodePoint} (isHigh : c.isHighSurrogate = true) : c.val < 0x10000 := by
  simp only [isHighSurrogate, Bool.and_eq_true, decide_eq_true_eq] at isHigh
  omega

theorem low_small {c : CodePoint} (isLow : c.isLowSurrogate = true) : c.val < 0x10000 := by
  simp only [isLowSurrogate, Bool.and_eq_true, decide_eq_true_eq] at isLow
  omega

theorem high_not_low {c : CodePoint} (isHigh : c.isHighSurrogate = true) : c.isLowSurrogate = false := by
  simp only [isHighSurrogate, Bool.and_eq_true, decide_eq_true_eq] at isHigh
  simp only [isLowSurrogate, Bool.and_eq_false_iff, decide_eq_false_iff_not]
  omega

theorem escapedCodePoint_pair {high low : CodePoint} {behind : Text} (isHigh : high.isHighSurrogate = true)
    (isLow : low.isLowSurrogate = true) (more : behind ≠ []) (u : CodePoint) :
    escapedCodePoint u (Text.hex 4 high.val ++ (escapedUnitText low.val ++ behind)) = .ok (joined high low, behind) := by
  obtain ⟨e, after, shape⟩ := List.exists_cons_of_ne_nil more
  have second := escapedUnit_hex (low_small isLow) (CodePoint.ofChar 'u') e after
  have first := escapedUnit_hex (high_small isHigh) u (CodePoint.ofChar '\\')
    (CodePoint.ofChar 'u' :: (Text.hex 4 low.val ++ e :: after))
  rw [ofNat_val] at first second
  rw [hex_four low.val] at first second
  simp only [List.cons_append, List.nil_append] at first second
  have marked : (CodePoint.ofChar '\\').val = 92 ∧ (CodePoint.ofChar 'u').val = 117 := ⟨rfl, rfl⟩
  rw [shape, escapedUnitText_shape, hex_four low.val]
  simp only [List.cons_append, List.nil_append, escapedCodePoint, first, bind, Except.bind, pure, Except.pure, isHigh,
    if_true, if_pos marked, second, isLow]

def opened (t rest : Text) : Text := t.flatMap writtenOne ++ CodePoint.ofChar '"' :: rest

theorem opened_ne_nil (t rest : Text) : opened t rest ≠ [] := by
  simp [opened]

theorem opened_cons (c : CodePoint) (t rest : Text) : opened (c :: t) rest = writtenOne c ++ opened t rest := by
  simp [opened]

def BeginsPlain (t : Text) : Prop := ∀ d, t.head? = some d → d.isLowSurrogate = false

theorem opened_onward {t : Text} (plain : BeginsPlain t) (rest : Text) : Onward (opened t rest) := by
  cases t with
  | nil => exact .plain (by decide) rest
  | cons d t =>
    obtain ⟨e, after, more⟩ := List.exists_cons_of_ne_nil (opened_ne_nil t rest)
    have notLow := plain d rfl
    rw [opened_cons, more]
    generalize writtenOne d = written, writtenOne_spelled d = spelled
    cases spelled with
    | plain notQuote notSlash => exact .plain notSlash _
    | escape named notUnit => exact .escape notUnit _
    | unit small =>
      have reads := escapedUnit_hex small (CodePoint.ofChar 'u') e after
      rw [ofNat_val] at reads
      exact .unit reads notLow
    | @pair high low isHigh isLow =>
      have reads := escapedUnit_hex (high_small isHigh) (CodePoint.ofChar 'u') (CodePoint.ofChar '\\')
        (CodePoint.ofChar 'u' :: (Text.hex 4 low.val ++ e :: after))
      rw [ofNat_val] at reads
      rw [List.append_assoc]
      exact .unit reads (high_not_low isHigh)

theorem joined_plain {high low : CodePoint} (isHigh : high.isHighSurrogate = true) (isLow : low.isLowSurrogate = true) :
    (joined high low).isHighSurrogate = false ∧ (joined high low).isLowSurrogate = false := by
  simp only [isHighSurrogate, isLowSurrogate, Bool.and_eq_true, decide_eq_true_eq] at isHigh isLow
  have large : 0x10000 ≤ (joined high low).val := by
    rw [joined, CodePoint.ofNat, dif_pos (by omega)]
    show 0x10000 ≤ 0x10000 + (high.val - 0xD800) * 0x400 + (low.val - 0xDC00)
    omega
  simp only [isHighSurrogate, isLowSurrogate, Bool.and_eq_false_iff, decide_eq_false_iff_not]
  omega

theorem paired_cons_alone {c : CodePoint} {t : Text} (alone : c.isHighSurrogate = true → BeginsPlain t) :
    paired (c :: t) = c :: paired t := by
  cases t with
  | nil => rfl
  | cons d t =>
    have apart : (c.isHighSurrogate && d.isLowSurrogate) = false := by
      cases high : c.isHighSurrogate with
      | false => rfl
      | true => exact alone high d rfl
    rw [paired, if_neg (by simp [apart])]

theorem BeginsPlain.paired {t : Text} (plain : BeginsPlain t) : BeginsPlain (paired t) := by
  match t with
  | [] => exact plain
  | [_] => exact plain
  | high :: low :: rest =>
    rw [Json.paired]
    intro d first
    split at first
    · rename_i pair
      obtain ⟨isHigh, isLow⟩ := Bool.and_eq_true_iff.mp pair
      rw [← Option.some.inj first]
      exact (joined_plain isHigh isLow).2
    · cases first
      exact plain high rfl

theorem paired_unpaired (t : Text) : Unpaired (paired t) := by
  induction t using paired.induct with
  | case1 high low t pair ih =>
    obtain ⟨isHigh, isLow⟩ := Bool.and_eq_true_iff.mp pair
    rw [paired, if_pos pair]
    exact (paired_cons_plain (joined_plain isHigh isLow).1 _).trans (congrArg (joined high low :: ·) ih)
  | case2 high low t apart ih =>
    have alone : high.isHighSurrogate = true → BeginsPlain (low :: t) := by
      intro isHigh d first
      cases first
      simpa [isHigh] using apart
    rw [paired, if_neg apart]
    exact (paired_cons_alone fun isHigh => (alone isHigh).paired).trans (congrArg (high :: ·) ih)
  | case3 t short =>
    match t, short with
    | [], _ => rfl
    | [_], _ => rfl
    | high :: low :: rest, short => exact (short high low rest rfl).elim

theorem stringBody_escape {start behind : Text} {e unit : CodePoint} {fuel : Nat} {read after : Text}
    (isUnit : e.val = 117) (reads : escapedCodePoint e behind = .ok (unit, after)) :
    stringBody start (fuel + 1) read (CodePoint.ofChar '\\' :: e :: behind) = stringBody start fuel (unit :: read) after := by
  have slash : (CodePoint.ofChar '\\').val = 92 := rfl
  simp [stringBody, slash, isUnit, reads]

theorem stringBody_one {c : CodePoint} {t : Text} (alone : c.isHighSurrogate = true → BeginsPlain t)
    (start read rest : Text) (fuel : Nat) :
    stringBody start (fuel + 1) read (opened (c :: t) rest) = stringBody start fuel (c :: read) (opened t rest) := by
  have more := opened_ne_nil t rest
  rw [opened_cons]
  generalize written : writtenOne c = spelling
  cases written ▸ writtenOne_spelled c with
  | plain notQuote notSlash printable =>
    simp [stringBody, notQuote, notSlash, Nat.not_lt.mpr printable]
  | escape named notUnit =>
    have slash : (CodePoint.ofChar '\\').val = 92 := rfl
    simp [stringBody, slash, notUnit, named]
  | unit small =>
    exact stringBody_escape rfl (escapedCodePoint_alone small (fun high => opened_onward (alone high) rest) more _)
  | pair isHigh isLow names =>
    subst names
    rw [List.append_assoc]
    exact stringBody_escape rfl (escapedCodePoint_pair isHigh isLow more _)

theorem writtenOne_surrogate {c : CodePoint} (least : 0xD800 ≤ c.val) (top : c.val < 0xE000) :
    writtenOne c = escapedUnitText c.val := by
  unfold writtenOne
  iterate 7 rw [if_neg (by omega)]
  rw [if_neg (by omega), if_pos (by omega)]

theorem writtenOne_high {c : CodePoint} (isHigh : c.isHighSurrogate = true) : writtenOne c = escapedUnitText c.val := by
  simp only [isHighSurrogate, Bool.and_eq_true, decide_eq_true_eq] at isHigh
  exact writtenOne_surrogate isHigh.1 (by omega)

theorem writtenOne_low {c : CodePoint} (isLow : c.isLowSurrogate = true) : writtenOne c = escapedUnitText c.val := by
  simp only [isLowSurrogate, Bool.and_eq_true, decide_eq_true_eq] at isLow
  exact writtenOne_surrogate (by omega) isLow.2

theorem stringBody_two {high low : CodePoint} (isHigh : high.isHighSurrogate = true) (isLow : low.isLowSurrogate = true)
    (start read t rest : Text) (fuel : Nat) :
    stringBody start (fuel + 1) read (opened (high :: low :: t) rest) =
      stringBody start fuel (joined high low :: read) (opened t rest) := by
  rw [opened_cons, opened_cons, writtenOne_high isHigh, writtenOne_low isLow]
  exact stringBody_escape rfl (escapedCodePoint_pair isHigh isLow (opened_ne_nil t rest) _)

theorem stringBody_end (start read rest : Text) (fuel : Nat) :
    stringBody start (fuel + 1) read (opened [] rest) = .ok (read.reverse, rest) := by
  have quote : (CodePoint.ofChar '"').val = 34 := rfl
  simp [opened, stringBody, quote]

theorem stringBody_opened (t : Text) (start read rest : Text) {fuel : Nat} (enough : t.length < fuel) :
    stringBody start fuel read (opened t rest) = .ok (read.reverse ++ paired t, rest) := by
  induction t using paired.induct generalizing read fuel with
  | case1 high low t pair ih =>
    obtain ⟨isHigh, isLow⟩ := Bool.and_eq_true_iff.mp pair
    rw [List.length_cons, List.length_cons] at enough
    obtain ⟨fuel, rfl⟩ : ∃ n, fuel = n + 1 := ⟨fuel - 1, by omega⟩
    rw [stringBody_two isHigh isLow, ih _ (by omega), paired, if_pos pair, List.reverse_cons, List.append_assoc,
      List.singleton_append]
  | case2 high low t apart ih =>
    have alone : high.isHighSurrogate = true → BeginsPlain (low :: t) := by
      intro isHigh d first
      cases first
      simpa [isHigh] using apart
    rw [List.length_cons] at enough
    obtain ⟨fuel, rfl⟩ : ∃ n, fuel = n + 1 := ⟨fuel - 1, by omega⟩
    rw [stringBody_one alone, ih _ (by omega), paired, if_neg apart, List.reverse_cons, List.append_assoc,
      List.singleton_append]
  | case3 t short =>
    obtain ⟨fuel, rfl⟩ : ∃ n, fuel = n + 1 := ⟨fuel - 1, by omega⟩
    match t with
    | [] => simp [stringBody_end, paired]
    | [c] =>
      have alone : c.isHighSurrogate = true → BeginsPlain [] := by
        intro _ d first
        cases first
      obtain ⟨fuel, rfl⟩ : ∃ n, fuel = n + 1 := ⟨fuel - 1, by simp at enough; omega⟩
      simp [stringBody_one alone, stringBody_end, paired]
    | high :: low :: t => exact absurd rfl (short high low t)

theorem string_written (t rest : Text) {fuel : Nat} (enough : t.length < fuel) (quote : CodePoint) :
    string fuel quote (opened t rest) = .ok (paired t, rest) := stringBody_opened t _ [] rest enough

theorem writtenString_opened (t rest : Text) :
    writtenString t ++ rest = CodePoint.ofChar '"' :: opened t rest := by
  simp [writtenString, opened]

theorem joined_large {high low : CodePoint} (isHigh : high.isHighSurrogate = true) (isLow : low.isLowSurrogate = true) :
    0x10000 ≤ (joined high low).val := by
  simp only [isHighSurrogate, Bool.and_eq_true, decide_eq_true_eq] at isHigh
  simp only [isLowSurrogate, Bool.and_eq_true, decide_eq_true_eq] at isLow
  have inside : 0x10000 + (high.val - 0xD800) * 0x400 + (low.val - 0xDC00) < 0x110000 := by omega
  rw [joined, CodePoint.ofNat, dif_pos inside]
  show 0x10000 ≤ 0x10000 + (high.val - 0xD800) * 0x400 + (low.val - 0xDC00)
  omega

theorem paired_small {t name : Text} (small : ∀ c ∈ name, c.val < 0x10000) (same : paired t = name) : t = name := by
  induction t using paired.induct generalizing name with
  | case1 high low rest pair ih =>
    obtain ⟨isHigh, isLow⟩ := Bool.and_eq_true_iff.mp pair
    rw [paired, if_pos pair] at same
    have bound := small _ (same ▸ List.mem_cons_self)
    have large := joined_large isHigh isLow
    omega
  | case2 high low rest apart ih =>
    rw [paired, if_neg apart] at same
    subst same
    exact congrArg (high :: ·) (ih (fun c member => small c (List.mem_cons_of_mem high member)) rfl)
  | case3 t short =>
    match t with
    | [] => exact same
    | [c] => exact same
    | high :: low :: rest => exact absurd rfl (short high low rest)

theorem paired_of_small {t : Text} (small : ∀ c ∈ t, c.val < 0xD800) : Unpaired t := by
  apply paired_of_plain
  intro c member
  have bound := small c member
  simp only [isHighSurrogate, Bool.and_eq_false_iff, decide_eq_false_iff_not]
  omega

end UploadRelay.Json
