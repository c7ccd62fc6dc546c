import Mathlib.Data.Nat.Bits
import UploadRelay.Json.Display
import UploadRelay.Proofs.Json.Likeness
import UploadRelay.Proofs.Json.Spelling
-- Values as messages show them. What is quoted names no surrogate, since none can be printed, so a
-- decoded value that is shown reads back as it was written.

namespace UploadRelay

open CodePoint

namespace Text

theorem insideRuns_run {front : List Nat} {run n : Nat} (least : front.sum ≤ n) (top : n < front.sum + run)
    (inside : Bool) (back : List Nat) :
    insideRuns inside (front ++ run :: back) n = (inside ^^ front.length.bodd) := by
  induction front generalizing inside n with
  | nil =>
    simp only [List.sum_nil, Nat.zero_add] at top
    simp [insideRuns, top]
  | cons first front ih =>
    rw [List.sum_cons] at least top
    rw [List.cons_append, insideRuns, if_neg (by omega), ih (by omega) (by omega), List.length_cons, Nat.bodd_succ]
    cases inside <;> simp

theorem printableRuns_gap : ∃ front back, printableRuns = front ++ 8452 :: back ∧ front.length.bodd = false ∧
    front.sum ≤ 0xD800 ∧ 0xE000 ≤ front.sum + 8452 :=
  ⟨printableRuns.take 636, printableRuns.drop 637, by decide +kernel, by decide +kernel, by decide +kernel, by decide +kernel⟩

theorem isPrintable_plain {c : CodePoint} (printable : c.isPrintable = true) : c.isSurrogate = false := by
  refine Bool.eq_false_iff.mpr fun surrogate => ?_
  simp only [isSurrogate, Bool.and_eq_true, decide_eq_true_eq] at surrogate
  obtain ⟨front, back, runs, even, least, top⟩ := printableRuns_gap
  have outside : insideRuns false printableRuns c.val = false := by
    rw [runs, insideRuns_run (by omega) (by omega), even]
    rfl
  rw [isPrintable, if_neg (by omega), outside] at printable
  cases printable

end Text

theorem NoSurrogate.append {s t : Text} (front : NoSurrogate s) (back : NoSurrogate t) : NoSurrogate (s ++ t) :=
  List.forall_mem_append.mpr ⟨front, back⟩

theorem NoSurrogate.cons {c : CodePoint} {t : Text} (first : c.isSurrogate = false) (rest : NoSurrogate t) :
    NoSurrogate (c :: t) := List.forall_mem_cons.mpr ⟨first, rest⟩

instance (t : Text) : Decidable (NoSurrogate t) := inferInstanceAs (Decidable (∀ c ∈ t, c.isSurrogate = false))

theorem plain_ascii {c : CodePoint} (ascii : c.val < 0x80) : c.isSurrogate = false := by
  simp only [isSurrogate, Bool.and_eq_false_iff, decide_eq_false_iff_not]
  omega

theorem Text.Simple.noSurrogate {t : Text} (simple : Text.Simple t) : NoSurrogate t :=
  fun c member => plain_ascii (simple c member).2

theorem noSurrogate_numbered (c : CodePoint) : NoSurrogate (Text.numbered c) := by
  unfold Text.numbered
  split
  · exact (by decide : NoSurrogate "\\x").append (Json.bare_hex 2 _).simple.noSurrogate
  · split
    · exact (by decide : NoSurrogate "\\u").append (Json.bare_hex 4 _).simple.noSurrogate
    · exact (by decide : NoSurrogate "\\U").append (Json.bare_hex 8 _).simple.noSurrogate

theorem noSurrogate_quotedOne {mark : CodePoint} (ascii : mark.val < 0x80) (c : CodePoint) :
    NoSurrogate (Text.quotedOne mark c) := by
  unfold Text.quotedOne
  split
  · rename_i escaped
    have low : c.val < 0x80 := by
      rcases escaped with same | slash
      · exact same ▸ ascii
      · omega
    exact .cons (by decide) (.cons (plain_ascii low) (by decide))
  · split
    · decide
    · split
      · decide
      · split
        · decide
        · split
          · rename_i printable
            exact .cons (Text.isPrintable_plain printable) (by decide)
          · exact noSurrogate_numbered c

theorem noSurrogate_quoted (t : Text) : NoSurrogate (Text.quoted t) := by
  have mark : (Text.quoteMark t).val < 0x80 := by
    unfold Text.quoteMark
    split <;> decide
  have inside : NoSurrogate (t.flatMap (Text.quotedOne (Text.quoteMark t))) := by
    intro d member
    obtain ⟨c, -, there⟩ := List.mem_flatMap.mp member
    exact noSurrogate_quotedOne mark c d there
  exact (inside.cons (plain_ascii mark)).append (.cons (plain_ascii mark) (by decide))

namespace Json

theorem bare_text (x : Double) : Bare x.text := by
  cases x with
  | nan => decide
  | infinity negative => cases negative <;> decide
  | finite negative m e canonical => exact bare_writtenDouble (.finite negative m e canonical)

theorem noSurrogate_quotedElements {xs : List Json} (each : ∀ x ∈ xs, NoSurrogate x.quoted) :
    NoSurrogate (quotedElements xs) := by
  induction xs with
  | nil => decide
  | cons x more ih =>
    obtain ⟨first, rest⟩ := List.forall_mem_cons.mp each
    match more with
    | [] => exact first
    | y :: others => exact (first.append (by decide)).append (ih rest)

theorem noSurrogate_quotedMembers {ms : List (Text × Json)} (each : ∀ m ∈ ms, NoSurrogate m.2.quoted) :
    NoSurrogate (quotedMembers ms) := by
  induction ms with
  | nil => decide
  | cons m more ih =>
    obtain ⟨first, rest⟩ := List.forall_mem_cons.mp each
    have opened := ((noSurrogate_quoted m.1).append (by decide : NoSurrogate ": ")).append first
    match more with
    | [] => exact opened
    | n :: others => exact (opened.append (by decide)).append (ih rest)

theorem Decoded.noSurrogate {v : Json} (decoded : Decoded v) : NoSurrogate v.quoted := by
  induction decoded with
  | null => decide
  | bool b => cases b <;> decide
  | int n =>
    rw [quoted]
    exact (bare_ofInt n).simple.noSurrogate
  | float x =>
    rw [quoted]
    exact (bare_text x).simple.noSurrogate
  | str t =>
    rw [quoted]
    exact noSurrogate_quoted t
  | arr all ih =>
    rw [quoted]
    exact ((by decide : NoSurrogate "[").append (noSurrogate_quotedElements ih)).append (by decide)
  | obj distinct all ih =>
    rw [quoted]
    exact ((by decide : NoSurrogate "\x7b").append (noSurrogate_quotedMembers ih)).append (by decide)

structure Stable (v : Json) : Prop where
  decoded : Decoded v
  unpaired : Texts Unpaired v

theorem Stable.reread {v : Json} (stable : Stable v) : v.reread = v := reread_decoded stable.decoded stable.unpaired

theorem stable_of_reread {v : Json} (same : v.reread = v) : Stable v := ⟨same ▸ reread_decodes v, same ▸ reread_unpaired v⟩

theorem Stable.readBytes {v : Json} (stable : Stable v) (fits : Fits nestingLimit v) : readBytes (writtenBytes v) = .ok v :=
  (readBytes_written fits).trans (congrArg Except.ok stable.reread)

theorem Stable.str {t : Text} (unpaired : Unpaired t) : Stable (.str t) := ⟨.str t, .str unpaired⟩

theorem stable_null : Stable .null := ⟨.null, .null⟩

theorem stable_int (n : Int) : Stable (.int n) := ⟨.int n, .int n⟩

theorem Stable.obj {ms : Members} (distinct : Members.Distinct ms) (each : ∀ m ∈ ms, Unpaired m.1 ∧ Stable m.2) : Stable (.obj ms) where
  decoded := .obj distinct fun m member => (each m member).2.decoded
  unpaired := .obj (fun m member => (each m member).1) fun m member => (each m member).2.unpaired

theorem Stable.members {ms : Members} (stable : Stable (.obj ms)) :
    Members.Distinct ms ∧ ∀ m ∈ ms, Unpaired m.1 ∧ Stable m.2 := by
  obtain ⟨decoded, unpaired⟩ := stable
  cases decoded with
  | obj distinct decoded =>
    cases unpaired with
    | obj names texts => exact ⟨distinct, fun m member => ⟨names m member, decoded m member, texts m member⟩⟩

theorem Stable.member {ms : Members} (stable : Stable (.obj ms)) {name : Text} {v : Json}
    (found : Members.get? ms name = some v) : Stable v := (stable.members.2 _ (Members.get?_mem found)).2

theorem Stable.getD {ms : Members} (stable : Stable (.obj ms)) (name : Text) {fallback : Json} (usual : Stable fallback) :
    Stable (Members.getD ms name fallback) := by
  unfold Members.getD
  cases found : Members.get? ms name with
  | none => exact usual
  | some v => exact stable.member found

theorem Stable.shown {v : Json} (stable : Stable v) : Unpaired v.shown := by
  obtain ⟨decoded, unpaired⟩ := stable
  cases unpaired with
  | str holds => exact holds
  | foreign => cases decoded
  | _ => exact NoSurrogate.unpaired decoded.noSurrogate

end Json

end UploadRelay
