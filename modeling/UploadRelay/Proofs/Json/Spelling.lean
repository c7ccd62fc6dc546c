import UploadRelay.Proofs.Json.RoundTrip
import UploadRelay.Proofs.Text.Utf8
-- How documents are spelled: in ASCII, and quotes, backslashes and brackets only in strings and
-- around what stands in them.

namespace UploadRelay.Json

open CodePoint Text

def isMark (c : CodePoint) : Bool := [34, 91, 92, 93, 123, 125].contains c.val

def Bare (t : Text) : Prop := ∀ c ∈ t, (0 < c.val ∧ c.val < 0x80) ∧ isMark c = false

instance (t : Text) : Decidable (Bare t) :=
  inferInstanceAs (Decidable (∀ c ∈ t, (0 < c.val ∧ c.val < 0x80) ∧ isMark c = false))

theorem bare_nil : Bare [] := by
  intro c member
  cases member

theorem Bare.cons {c : CodePoint} {t : Text} (first : (0 < c.val ∧ c.val < 0x80) ∧ isMark c = false) (rest : Bare t) :
    Bare (c :: t) := List.forall_mem_cons.mpr ⟨first, rest⟩

theorem Bare.simple {t : Text} (bare : Bare t) : Simple t := fun c member => (bare c member).1

def Visible (t : Text) : Prop := ∀ c ∈ t, 32 ≤ c.val ∧ c.val < 127

instance (t : Text) : Decidable (Visible t) := inferInstanceAs (Decidable (∀ c ∈ t, 32 ≤ c.val ∧ c.val < 127))

theorem visible_nil : Visible [] := by
  intro c member
  cases member

theorem Visible.append {s t : Text} (front : Visible s) (back : Visible t) : Visible (s ++ t) :=
  List.forall_mem_append.mpr ⟨front, back⟩

theorem Visible.cons {c : CodePoint} {t : Text} (first : 32 ≤ c.val ∧ c.val < 127) (rest : Visible t) : Visible (c :: t) :=
  List.forall_mem_cons.mpr ⟨first, rest⟩

theorem Visible.simple {t : Text} (visible : Visible t) : Simple t := by
  intro c member
  have bounds := visible c member
  omega

def numberSigns : Text := "0123456789abcdef+-.NIinty"

def NumberText (t : Text) : Prop := ∀ c ∈ t, c ∈ numberSigns

instance (t : Text) : Decidable (NumberText t) := inferInstanceAs (Decidable (∀ c ∈ t, c ∈ numberSigns))

theorem NumberText.append {s t : Text} (front : NumberText s) (back : NumberText t) : NumberText (s ++ t) :=
  List.forall_mem_append.mpr ⟨front, back⟩

theorem NumberText.cons {c : CodePoint} {t : Text} (first : c ∈ numberSigns) (rest : NumberText t) : NumberText (c :: t) :=
  List.forall_mem_cons.mpr ⟨first, rest⟩

theorem NumberText.bare {t : Text} (number : NumberText t) : Bare t := by
  have signs : Bare numberSigns := by decide
  exact fun c member => signs c (number c member)

theorem NumberText.visible {t : Text} (number : NumberText t) : Visible t := by
  have signs : Visible numberSigns := by decide
  exact fun c member => signs c (number c member)

theorem numberSigns_digit {c : CodePoint} (digit : c.isDigit = true) : c ∈ numberSigns := by
  simp only [isDigit, Bool.and_eq_true, decide_eq_true_eq] at digit
  have each : ∀ n < 10, CodePoint.ofNat (48 + n) ∈ numberSigns := by decide
  have same : CodePoint.ofNat (48 + (c.val - 48)) = c := by
    rw [Nat.add_sub_cancel' digit.1, ofNat_val]
  exact same ▸ each (c.val - 48) (by omega)

theorem numberText_digits {t : Text} (all : AllDigits t) : NumberText t := fun c member => numberSigns_digit (all c member)

theorem bare_digits {t : Text} (all : AllDigits t) : Bare t := (numberText_digits all).bare

theorem numberText_signed (negative : Bool) {t : Text} (number : NumberText t) : NumberText (signed negative t) := by
  cases negative with
  | true => exact number.cons (by decide)
  | false => exact number

theorem IsWhole.numberText {whole : Text} (valid : IsWhole whole) : NumberText whole := by
  rcases valid with zero | ⟨all, -⟩
  · rw [zero]
    decide
  · exact numberText_digits all

theorem numberText_magnitude {m e : Nat} (canonical : Canonical m e) : NumberText (Double.magnitudeText m e) := by
  unfold Double.magnitudeText
  split
  · decide
  · rename_i nonzero
    have range := ofFinite_range canonical nonzero
    simp only
    split
    · obtain ⟨whole, places, zeros, pointed⟩ := positional_pointed range.nonzero (Shortest.ofFinite m e).exponent
      rw [pointed.shape]
      exact pointed.valid.numberText.append ((numberText_digits pointed.digits).cons (by decide))
    · obtain ⟨c, places, small, power, scaled⟩ := scientific_scaled range.nonzero (Shortest.ofFinite m e).exponent
      have mark : NumberText (if small then "e-" else "e+" : Text) := by cases small <;> decide
      have tail : NumberText (if places = [] then [] else CodePoint.ofChar '.' :: places) := by
        split
        · exact numberText_digits fun _ member => by cases member
        · exact (numberText_digits scaled.all).cons (by decide)
      rw [scaled.shape]
      exact (scaled.valid.numberText.append tail).append (mark.append (numberText_digits (padded_allDigits 2 power)))

theorem numberText_ofInt (n : Int) : NumberText (Text.ofInt n) := by
  rw [ofInt_signed]
  exact numberText_signed _ (isWhole_ofNat _).numberText

theorem bare_ofInt (n : Int) : Bare (Text.ofInt n) := (numberText_ofInt n).bare

theorem numberText_writtenDouble (x : Double) : NumberText (writtenDouble x) := by
  cases x with
  | nan => decide
  | infinity negative => cases negative <;> decide
  | finite negative m e canonical =>
    rw [writtenDouble_finite]
    exact numberText_signed negative (numberText_magnitude canonical)

theorem bare_writtenDouble (x : Double) : Bare (writtenDouble x) := (numberText_writtenDouble x).bare

theorem numberText_hex (width n : Nat) : NumberText (Text.hex width n) := by
  have digit : ∀ d < 16, Text.hexDigit d ∈ numberSigns := by decide
  induction width with
  | zero => exact numberText_digits fun _ member => by cases member
  | succ width ih => exact ih.cons (digit _ (Nat.mod_lt _ (by decide)))

theorem bare_hex (width n : Nat) : Bare (Text.hex width n) := (numberText_hex width n).bare

theorem visible_unit (n : Nat) : Visible (escapedUnitText n) :=
  (show Visible "\\u" by decide).append (numberText_hex 4 n).visible

theorem visible_escape {c e : CodePoint} (named : simpleEscape? e = some c) : 32 ≤ e.val ∧ e.val < 127 := by
  unfold simpleEscape? at named
  split at named <;> first | omega | cases named

theorem visible_writtenOne (c : CodePoint) : Visible (writtenOne c) := by
  generalize written : writtenOne c = spelling
  cases written ▸ writtenOne_spelled c with
  | plain notQuote notSlash printable ascii => exact visible_nil.cons ⟨printable, ascii⟩
  | escape named => exact (visible_nil.cons (visible_escape named)).cons (by decide)
  | unit => exact visible_unit _
  | pair => exact (visible_unit _).append (visible_unit _)

theorem visible_writtenString (t : Text) : Visible (writtenString t) := by
  have inside : Visible (t.flatMap writtenOne) := by
    intro c member
    obtain ⟨d, -, there⟩ := List.mem_flatMap.mp member
    exact visible_writtenOne d c there
  exact (inside.cons (by decide)).append (by decide)

theorem visible_writtenElements {xs : List Json} (each : ∀ x ∈ xs, Visible (written x)) : Visible (writtenElements xs) := by
  induction xs with
  | nil => exact visible_nil
  | cons x more ih =>
    have first := each x List.mem_cons_self
    have rest := ih fun y member => each y (List.mem_cons_of_mem x member)
    match more with
    | [] => exact first
    | y :: others => exact (first.append (by decide)).append rest

theorem visible_writtenMembers {ms : List (Text × Json)} (each : ∀ m ∈ ms, Visible (written m.2)) :
    Visible (writtenMembers ms) := by
  induction ms with
  | nil => exact visible_nil
  | cons m more ih =>
    have first := each m List.mem_cons_self
    have rest := ih fun n member => each n (List.mem_cons_of_mem m member)
    have opened := (visible_writtenString m.1).append (show Visible ": " by decide)
    match more with
    | [] => exact opened.append first
    | n :: others => exact ((opened.append first).append (by decide)).append rest

theorem written_visible (v : Json) : Visible (written v) := by
  induction v using nested with
  | null => decide
  | bool b => cases b <;> decide
  | int n =>
    rw [written]
    exact (numberText_ofInt n).visible
  | float x =>
    rw [written]
    exact (numberText_writtenDouble x).visible
  | str t => exact visible_writtenString t
  | arr xs ih =>
    rw [written]
    exact ((show Visible "[" by decide).append (visible_writtenElements ih)).append (by decide)
  | obj ms ih =>
    rw [written]
    exact ((show Visible "\x7b" by decide).append (visible_writtenMembers ih)).append (by decide)
  | foreign f => exact visible_writtenString f.shown

theorem written_simple (v : Json) : Simple (written v) := (written_visible v).simple

theorem readBytes_written {v : Json} (fits : Fits nestingLimit v) : readBytes (writtenBytes v) = .ok (reread v) := by
  rw [readBytes, writtenBytes, Encoding.decodeGuessed_simple (written_simple v)]
  exact readDecoded_written fits

end UploadRelay.Json
