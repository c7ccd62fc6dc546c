import UploadRelay.Text.CodePoint
-- Blank code points (white space of every script) and the trimming of texts.

namespace UploadRelay

namespace CodePoint

def isBlank (c : CodePoint) : Bool :=
  decide (9 ≤ c.val ∧ c.val ≤ 13) || decide (28 ≤ c.val ∧ c.val ≤ 32) ||
  c.val == 0x85 || c.val == 0xA0 || c.val == 0x1680 ||
  decide (0x2000 ≤ c.val ∧ c.val ≤ 0x200A) ||
  c.val == 0x2028 || c.val == 0x2029 || c.val == 0x202F || c.val == 0x205F || c.val == 0x3000

def isAsciiBlank (c : CodePoint) : Bool := decide (9 ≤ c.val ∧ c.val ≤ 13) || c.val == 32

end CodePoint

namespace Text

def trimStartBy (blank : CodePoint → Bool) (t : Text) : Text := t.dropWhile blank
def trimEndBy (blank : CodePoint → Bool) (t : Text) : Text := (t.reverse.dropWhile blank).reverse
def trimBy (blank : CodePoint → Bool) (t : Text) : Text := trimEndBy blank (trimStartBy blank t)

def trim (t : Text) : Text := trimBy CodePoint.isBlank t
def trimStart (t : Text) : Text := trimStartBy CodePoint.isBlank t
def trimEnd (t : Text) : Text := trimEndBy CodePoint.isBlank t

def AllBlank (t : Text) : Prop := ∀ c ∈ t, c.isBlank = true

structure Trimmed (t : Text) : Prop where
  first : ∀ c, t.head? = some c → c.isBlank = false
  last : ∀ c, t.getLast? = some c → c.isBlank = false

theorem Trimmed.reverse {t : Text} (trimmed : Trimmed t) : Trimmed t.reverse where
  first := fun c found => trimmed.last c (List.head?_reverse.symm.trans found)
  last := fun c found => trimmed.first c (List.getLast?_reverse.symm.trans found)

theorem AllBlank.reverse {t : Text} (blank : AllBlank t) : AllBlank t.reverse :=
  fun c member => blank c (List.mem_reverse.mp member)

theorem trimStart_front {before : Text} (blank : AllBlank before) (t : Text) : trimStart (before ++ t) = trimStart t :=
  List.dropWhile_append_of_pos blank

theorem trimStart_solid {t : Text} (first : ∀ c, t.head? = some c → c.isBlank = false) : trimStart t = t := by
  cases t with
  | nil => rfl
  | cons c rest => exact List.dropWhile_cons_of_neg (Bool.not_eq_true _ ▸ first c rfl)

theorem trimStart_head {t : Text} {c : CodePoint} (found : (trimStart t).head? = some c) : c.isBlank = false := by
  have stops := List.head?_dropWhile_not CodePoint.isBlank t
  rw [show t.dropWhile CodePoint.isBlank = trimStart t from rfl, found] at stops
  simpa using stops

theorem trimStart_split (t : Text) : ∃ before, AllBlank before ∧ t = before ++ trimStart t :=
  ⟨t.takeWhile CodePoint.isBlank, fun c member => List.all_eq_true.mp List.all_takeWhile c member, List.takeWhile_append_dropWhile.symm⟩

theorem trimEnd_reverse (t : Text) : trimEnd t = (trimStart t.reverse).reverse := rfl

theorem trimEnd_split (t : Text) : ∃ after, AllBlank after ∧ t = trimEnd t ++ after := by
  obtain ⟨before, blank, split⟩ := trimStart_split t.reverse
  refine ⟨before.reverse, blank.reverse, ?_⟩
  rw [trimEnd_reverse, ← List.reverse_append, ← split, List.reverse_reverse]

theorem trim_split (t : Text) : ∃ before after, AllBlank before ∧ AllBlank after ∧ t = before ++ trim t ++ after := by
  obtain ⟨before, front, split⟩ := trimStart_split t
  obtain ⟨after, back, rest⟩ := trimEnd_split (trimStart t)
  refine ⟨before, after, front, back, ?_⟩
  rw [List.append_assoc]
  exact split.trans (congrArg (before ++ ·) rest)

theorem trim_trimmed (t : Text) : Trimmed (trim t) where
  first := by
    intro c found
    obtain ⟨after, -, split⟩ := trimEnd_split (trimStart t)
    have whole : (trimStart t).head? = some c := by
      rw [split, List.head?_append]
      exact congrArg (Option.or · _) found
    exact trimStart_head whole
  last := by
    intro c found
    have same : (trim t).getLast? = (trimStart (trimStart t).reverse).head? := List.getLast?_reverse
    exact trimStart_head (same.symm.trans found)

theorem trim_between {before t after : Text} (front : AllBlank before) (back : AllBlank after) (trimmed : Trimmed t) :
    trim (before ++ t ++ after) = t := by
  show trimEnd (trimStart (before ++ t ++ after)) = t
  rw [List.append_assoc, trimStart_front front]
  cases t with
  | nil =>
    have gone : trimStart after = [] := by
      have all := trimStart_front back []
      rwa [List.append_nil] at all
    rw [List.nil_append, gone]
    rfl
  | cons c rest =>
    rw [trimStart_solid fun d found => trimmed.first d (by simpa using found), trimEnd_reverse, List.reverse_append,
      trimStart_front back.reverse, trimStart_solid trimmed.reverse.first, List.reverse_reverse]

theorem trim_eq_iff {u t : Text} :
    trim u = t ↔ Trimmed t ∧ ∃ before after, AllBlank before ∧ AllBlank after ∧ u = before ++ t ++ after := by
  constructor
  · rintro rfl
    exact ⟨trim_trimmed u, trim_split u⟩
  · rintro ⟨trimmed, before, after, front, back, rfl⟩
    exact trim_between front back trimmed

end Text

end UploadRelay
