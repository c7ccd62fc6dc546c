import UploadRelay.Text.Encoding
-- UTF-8 undone: what is written for a code point is read back as that code point, whatever stands
-- behind it, so bytes that were written for a text decode to the text. They are also taken for UTF-8,
-- unless the text begins with a mark or a zero is among the first four of them. Text of ASCII
-- characters without NUL is one byte each.

namespace UploadRelay

open CodePoint

namespace Utf8

theorem toNat_byte {n : Nat} (small : n < 0x100) : (byte n).toNat = n := by
  simp [byte, Nat.mod_eq_of_lt small]

theorem byte_eq_iff {n : Nat} (small : n < 0x100) (b : UInt8) : byte n = b ↔ n = b.toNat := by
  rw [← UInt8.toNat_inj, toNat_byte small]

theorem isContinuation_tail (n : Nat) : isContinuation (byte (0x80 + n % 0x40)) = true := by
  have value : (byte (0x80 + n % 0x40)).toNat = 0x80 + n % 0x40 := toNat_byte (by omega)
  unfold isContinuation
  rw [value, Bool.and_eq_true, decide_eq_true_eq, decide_eq_true_eq]
  omega

theorem tail_byte (n : Nat) : tail (byte (0x80 + n % 0x40)) = n % 0x40 := by
  have value : (byte (0x80 + n % 0x40)).toNat = 0x80 + n % 0x40 := toNat_byte (by omega)
  unfold tail
  omega

variable {surrogates : Bool} {n : Nat}

theorem step_one {c : CodePoint} (ascii : c.val < 0x80) (rest : List UInt8) : step surrogates (byte c.val) rest = .good c rest := by
  have value : (byte c.val).toNat = c.val := toNat_byte (by omega)
  have same : CodePoint.ofByte (byte c.val) = c := CodePoint.ext_val value
  unfold step
  simp only [value, ascii, if_true, same]

theorem step_two (least : 0x80 ≤ n) (top : n < 0x800) (rest : List UInt8) :
    step surrogates (byte (0xC0 + n / 0x40)) (byte (0x80 + n % 0x40) :: rest) = .good (CodePoint.ofNat n) rest := by
  have lead : (byte (0xC0 + n / 0x40)).toNat = 0xC0 + n / 0x40 := toNat_byte (by omega)
  have number : (0xC0 + n / 0x40 - 0xC0) * 0x40 + n % 0x40 = n := by omega
  unfold step
  rw [lead]
  simp only [isContinuation_tail, tail_byte, number, if_true]
  rw [if_neg (by omega), if_neg (by omega), if_pos (by omega)]

theorem secondFits_byte {lead second : Nat} (small : lead < 0x100) (small' : second < 0x100) :
    secondFits surrogates (byte lead) (byte second) = true ↔ isContinuation (byte second) = true ∧
      (lead = 0xE0 → 0xA0 ≤ second) ∧ (lead = 0xED → surrogates = true ∨ second < 0xA0) ∧
      (lead = 0xF0 → 0x90 ≤ second) ∧ (lead = 0xF4 → second < 0x90) := by
  have first : ∀ b : UInt8, byte lead = b ↔ lead = b.toNat := byte_eq_iff small
  have e0 : (0xE0 : UInt8).toNat = 0xE0 := rfl
  have ed : (0xED : UInt8).toNat = 0xED := rfl
  have f0 : (0xF0 : UInt8).toNat = 0xF0 := rfl
  have f4 : (0xF4 : UInt8).toNat = 0xF4 := rfl
  unfold secondFits
  rw [Bool.and_eq_true, toNat_byte small']
  simp only [first, e0, ed, f0, f4]
  refine and_congr_right fun _ => ?_
  split
  · simp only [decide_eq_true_eq]
    omega
  · split
    · rename_i middle
      simp [middle]
    · split
      · simp only [decide_eq_true_eq]
        omega
      · split
        · simp only [decide_eq_true_eq]
          omega
        · simp only [true_iff]
          omega

theorem step_three (least : 0x800 ≤ n) (top : n < 0x10000) (admitted : surrogates = true ∨ ¬ (0xD800 ≤ n ∧ n < 0xE000))
    (rest : List UInt8) :
    step surrogates (byte (0xE0 + n / 0x1000)) (byte (0x80 + n / 0x40 % 0x40) :: byte (0x80 + n % 0x40) :: rest) =
      .good (CodePoint.ofNat n) rest := by
  have lead : (byte (0xE0 + n / 0x1000)).toNat = 0xE0 + n / 0x1000 := toNat_byte (by omega)
  have number : (0xE0 + n / 0x1000 - 0xE0) * 0x1000 + n / 0x40 % 0x40 * 0x40 + n % 0x40 = n := by omega
  have fits : secondFits surrogates (byte (0xE0 + n / 0x1000)) (byte (0x80 + n / 0x40 % 0x40)) = true := by
    rw [secondFits_byte (by omega) (by omega)]
    exact ⟨isContinuation_tail _, by omega, fun middle => admitted.imp_right fun plain => by omega, by omega, by omega⟩
  unfold step
  rw [lead]
  simp only [admitsSurrogate, isContinuation_tail, tail_byte, Bool.and_true, fits, number, Bool.not_true,
    Bool.false_eq_true, if_false]
  rw [if_neg (by omega), if_neg (by omega), if_neg (by omega), if_pos (by omega)]

theorem step_four (least : 0x10000 ≤ n) (top : n < 0x110000) (rest : List UInt8) :
    step surrogates (byte (0xF0 + n / 0x40000))
        (byte (0x80 + n / 0x1000 % 0x40) :: byte (0x80 + n / 0x40 % 0x40) :: byte (0x80 + n % 0x40) :: rest) =
      .good (CodePoint.ofNat n) rest := by
  have lead : (byte (0xF0 + n / 0x40000)).toNat = 0xF0 + n / 0x40000 := toNat_byte (by omega)
  have number : (0xF0 + n / 0x40000 - 0xF0) * 0x40000 + n / 0x1000 % 0x40 * 0x1000 + n / 0x40 % 0x40 * 0x40 + n % 0x40 = n := by
    omega
  have fits : secondFits false (byte (0xF0 + n / 0x40000)) (byte (0x80 + n / 0x1000 % 0x40)) = true := by
    rw [secondFits_byte (by omega) (by omega)]
    exact ⟨isContinuation_tail _, by omega, by omega, by omega, by omega⟩
  unfold step
  rw [lead]
  simp only [isContinuation_tail, tail_byte, fits, number, Bool.not_true, Bool.false_eq_true, if_false]
  rw [if_neg (by omega), if_neg (by omega), if_neg (by omega), if_neg (by omega), if_pos (by omega)]

theorem encodeOne_step (surrogates : Bool) (c : CodePoint) (admitted : surrogates = true ∨ c.isSurrogate = false) :
    ∃ lead behind, encodeOne c = lead :: behind ∧ ∀ rest, step surrogates lead (behind ++ rest) = .good c rest := by
  have bound := c.isLt
  have plain : surrogates = true ∨ ¬ (0xD800 ≤ c.val ∧ c.val < 0xE000) := by
    refine admitted.imp_right fun apart => ?_
    simp only [isSurrogate, Bool.and_eq_false_iff, decide_eq_false_iff_not] at apart
    omega
  have same := ofNat_val c
  unfold encodeOne
  by_cases one : c.val < 0x80
  · exact ⟨_, [], by rw [if_pos one], fun rest => step_one one rest⟩
  rw [if_neg one]
  by_cases two : c.val < 0x800
  · exact ⟨_, [_], by rw [if_pos two], fun rest => same ▸ step_two (by omega) two rest⟩
  rw [if_neg two]
  by_cases three : c.val < 0x10000
  · exact ⟨_, [_, _], by rw [if_pos three], fun rest => same ▸ step_three (by omega) three plain rest⟩
  · exact ⟨_, [_, _, _], by rw [if_neg three], fun rest => same ▸ step_four (by omega) bound rest⟩

theorem encode_cons {c : CodePoint} {lead : UInt8} {behind : List UInt8} (shape : encodeOne c = lead :: behind) (t : Text) :
    encode (c :: t) = lead :: (behind ++ encode t) := by
  rw [encode, List.flatMap_cons, shape]
  rfl

theorem strictLoop_encode {t : Text} (admitted : ∀ c ∈ t, surrogates = true ∨ c.isSurrogate = false) {fuel total : Nat}
    (enough : t.length ≤ fuel) (read : Text) :
    strictLoop surrogates fuel total read (encode t) = .ok (read.reverse ++ t) := by
  induction t generalizing fuel read with
  | nil => cases fuel <;> simp [encode, strictLoop]
  | cons c t ih =>
    obtain ⟨lead, behind, shape, steps⟩ := encodeOne_step surrogates c (admitted c List.mem_cons_self)
    obtain ⟨fuel, rfl⟩ : ∃ few, fuel = few + 1 := ⟨fuel - 1, by simp at enough; omega⟩
    have more := ih (fun d member => admitted d (List.mem_cons_of_mem c member)) (Nat.le_of_succ_le_succ enough) (c :: read)
    rw [encode_cons shape, strictLoop, steps]
    simpa using more

theorem length_le_encode (t : Text) : t.length ≤ (encode t).length := by
  induction t with
  | nil => exact Nat.le_refl 0
  | cons c t ih =>
    obtain ⟨lead, behind, shape, -⟩ := encodeOne_step true c (Or.inl rfl)
    rw [encode_cons shape, List.length_cons, List.length_cons, List.length_append]
    omega

-- Reading undoes writing, lone surrogates among the rest when they are admitted.
theorem decode_encode {t : Text} (admitted : ∀ c ∈ t, surrogates = true ∨ c.isSurrogate = false) :
    decode surrogates (encode t) = .ok t := strictLoop_encode admitted (length_le_encode t) []

theorem step_lead {lead : UInt8} {rest rest' : List UInt8} {c : CodePoint} (steps : step surrogates lead rest = .good c rest') :
    lead.toNat < 0xF5 := by
  refine Decidable.byContradiction fun high => ?_
  unfold step at steps
  simp only at steps
  rw [if_neg (by omega), if_neg (by omega), if_neg (by omega), if_neg (by omega), if_neg high] at steps
  cases steps

end Utf8

namespace Encoding

open Utf8

theorem isPrefixOf_apart {a b : UInt8} (apart : a ≠ b) (mark rest : List UInt8) : (a :: mark).isPrefixOf (b :: rest) = false := by
  rw [List.isPrefixOf, beq_eq_false_iff_ne.mpr apart, Bool.false_and]

theorem guess_zeroless {bytes : List UInt8} (unmarked : ∀ b ∈ bytes.head?, b.toNat < 0xF5)
    (bare : [0xEF, 0xBB, 0xBF].isPrefixOf bytes = false) (zeroless : (0 : UInt8) ∉ bytes.take 4) : guess bytes = .utf8 := by
  cases bytes with
  | nil => rfl
  | cons lead rest =>
    have low : lead.toNat < 0xF5 := unmarked lead rfl
    have zero : (0 : UInt8) ≠ lead := fun same => zeroless (same ▸ List.mem_cons_self)
    have high : ∀ m : UInt8, 0xF5 ≤ m.toNat → m ≠ lead := by
      rintro m large rfl
      omega
    unfold guess
    rw [isPrefixOf_apart zero, isPrefixOf_apart (high 0xFF (by decide)), isPrefixOf_apart (high 0xFE (by decide)),
      isPrefixOf_apart (high 0xFF (by decide)), bare]
    simp only [Bool.or_false, Bool.false_eq_true, if_false]
    split
    · rename_i a b _ _ _ shape
      cases shape
      have second : b ≠ 0 := fun same => zeroless (same ▸ List.mem_cons_of_mem _ List.mem_cons_self)
      rw [if_neg (Ne.symm zero), if_neg second]
    · rename_i a b shape
      cases shape
      have second : b ≠ 0 := fun same => zeroless (same ▸ List.mem_cons_of_mem _ List.mem_cons_self)
      rw [if_neg (Ne.symm zero), if_neg second]
    · rfl

theorem mark_encode {t : Text} (unmarked : ∀ c ∈ t.head?, c.val ≠ 0xFEFF) : [0xEF, 0xBB, 0xBF].isPrefixOf (encode t) = false := by
  cases t with
  | nil => rfl
  | cons c t =>
    obtain ⟨lead, behind, shape, steps⟩ := encodeOne_step true c (Or.inl rfl)
    cases marked : [0xEF, 0xBB, 0xBF].isPrefixOf (encode (c :: t)) with
    | false => rfl
    | true =>
      obtain ⟨rest, whole⟩ := List.isPrefixOf_iff_prefix.mp marked
      rw [encode_cons shape] at whole
      obtain ⟨rfl, back⟩ := List.cons.inj whole
      have read := steps (encode t)
      rw [← back] at read
      have mark : step true 0xEF ([0xBB, 0xBF] ++ rest) = .good (CodePoint.ofNat 0xFEFF) rest := rfl
      have same := (Utf8.Step.good.inj (mark.symm.trans read)).1
      exact absurd (same ▸ rfl) (unmarked c rfl)

theorem head_encode (t : Text) : ∀ b ∈ (encode t).head?, b.toNat < 0xF5 := by
  intro b first
  cases t with
  | nil => cases first
  | cons c t =>
    obtain ⟨lead, behind, shape, steps⟩ := encodeOne_step true c (Or.inl rfl)
    rw [encode_cons shape] at first
    cases first
    exact step_lead (steps [])

theorem guess_encode {t : Text} (unmarked : ∀ c ∈ t.head?, c.val ≠ 0xFEFF)
    (zeroless : (0 : UInt8) ∉ (encode t).take 4) : guess (encode t) = .utf8 :=
  guess_zeroless (head_encode t) (mark_encode unmarked) zeroless

theorem decodeGuessed_encode {t : Text} (unmarked : ∀ c ∈ t.head?, c.val ≠ 0xFEFF)
    (zeroless : (0 : UInt8) ∉ (encode t).take 4) : decodeGuessed (encode t) = .ok t := by
  have read : Utf8.decode true (encode t) = .ok t := decode_encode fun _ _ => Or.inl rfl
  rw [decodeGuessed, guess_encode unmarked zeroless]
  show readUtf8 true (encode t) = .ok t
  rw [readUtf8, read]
  rfl

end Encoding

namespace Text

def Simple (t : Text) : Prop := ∀ c ∈ t, 0 < c.val ∧ c.val < 0x80

instance (t : Text) : Decidable (Simple t) := inferInstanceAs (Decidable (∀ c ∈ t, 0 < c.val ∧ c.val < 0x80))

end Text

open Text

theorem Utf8.encode_simple {t : Text} (simple : Simple t) : Utf8.encode t = t.map fun c => Utf8.byte c.val := by
  induction t with
  | nil => rfl
  | cons c t ih =>
    have one : Utf8.encodeOne c = [Utf8.byte c.val] := if_pos (simple c List.mem_cons_self).2
    rw [Utf8.encode_cons one, ih fun d member => simple d (List.mem_cons_of_mem c member), List.map_cons]
    rfl

theorem Utf8.encode_low {t : Text} (simple : Simple t) : ∀ b ∈ Utf8.encode t, 0 < b.toNat ∧ b.toNat < 0x80 := by
  intro b member
  rw [Utf8.encode_simple simple] at member
  obtain ⟨c, inside, rfl⟩ := List.mem_map.mp member
  have small := simple c inside
  rw [Utf8.toNat_byte (by omega)]
  exact small

theorem Encoding.decodeGuessed_simple {t : Text} (simple : Simple t) :
    Encoding.decodeGuessed (Utf8.encode t) = .ok t := by
  refine decodeGuessed_encode (fun c first => ?_) fun zero => ?_
  · have small := simple c (List.mem_of_mem_head? first)
    omega
  · exact absurd (Utf8.encode_low simple 0 (List.mem_of_mem_take zero)).1 (by decide)

end UploadRelay
