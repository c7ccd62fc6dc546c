import UploadRelay.Files.Path
-- Paths and their texts: a path in normal form reads back from its text.

namespace UploadRelay

namespace Text

theorem splitOn_separator (separator : CodePoint) (t : Text) :
    splitOn separator (separator :: t) = [] :: splitOn separator t := by
  simp [splitOn]

theorem splitOn_cons {separator c : CodePoint} (apart : c ≠ separator) {t first : Text} {rest : List Text}
    (split : splitOn separator t = first :: rest) : splitOn separator (c :: t) = (c :: first) :: rest := by
  unfold splitOn at split ⊢
  rw [List.foldr_cons, split]
  simp [apart]

theorem splitOn_piece {separator : CodePoint} {piece : Text} (whole : separator ∉ piece) {t first : Text}
    {rest : List Text} (split : splitOn separator t = first :: rest) :
    splitOn separator (piece ++ t) = (piece ++ first) :: rest := by
  induction piece with
  | nil => exact split
  | cons c piece ih =>
    have apart : c ≠ separator := by
      intro same
      exact whole (same ▸ List.mem_cons_self)
    have tail := ih fun member => whole (List.mem_cons_of_mem c member)
    exact splitOn_cons apart tail

theorem splitOn_joined (separator : CodePoint) {pieces : List Text} (some : pieces ≠ [])
    (whole : ∀ piece ∈ pieces, separator ∉ piece) : splitOn separator (joined [separator] pieces) = pieces := by
  induction pieces with
  | nil => exact absurd rfl some
  | cons piece more ih =>
    have first := whole piece List.mem_cons_self
    match more with
    | [] =>
      have split := splitOn_piece first (show splitOn separator [] = [[]] from rfl)
      rwa [List.append_nil] at split
    | next :: others =>
      have rest := ih (List.cons_ne_nil _ _) fun p member => whole p (List.mem_cons_of_mem piece member)
      rw [joined, List.append_assoc, List.singleton_append]
      have behind := splitOn_separator separator (joined [separator] (next :: others))
      rw [rest] at behind
      have split := splitOn_piece first behind
      rwa [List.append_nil] at split

theorem splitOn_ne_nil (separator : CodePoint) (t : Text) : splitOn separator t ≠ [] := by
  cases t with
  | nil => exact List.cons_ne_nil _ _
  | cons c t =>
    unfold splitOn
    rw [List.foldr_cons]
    split
    · exact List.cons_ne_nil _ _
    · split <;> exact List.cons_ne_nil _ _

theorem not_mem_splitOn {separator : CodePoint} {t piece : Text} (member : piece ∈ splitOn separator t) :
    separator ∉ piece := by
  induction t generalizing piece with
  | nil =>
    rw [List.mem_singleton.mp member]
    exact List.not_mem_nil
  | cons c t ih =>
    by_cases same : c = separator
    · subst same
      rw [splitOn_separator] at member
      rcases List.mem_cons.mp member with here | there
      · rw [here]
        exact List.not_mem_nil
      · exact ih there
    · cases split : splitOn separator t with
      | nil => exact absurd split (splitOn_ne_nil separator t)
      | cons first rest =>
        rw [splitOn_cons same split] at member
        rcases List.mem_cons.mp member with here | there
        · rw [here]
          intro inside
          rcases List.mem_cons.mp inside with front | behind
          · exact same front.symm
          · exact ih (split ▸ List.mem_cons_self) behind
        · exact ih (split ▸ List.mem_cons_of_mem first there)

end Text

namespace Path

def GoodName (name : Text) : Prop := isName name = true ∧ CodePoint.ofChar '/' ∉ name

structure Normal (p : Path) : Prop where
  slashes : p.slashes ≤ 2
  names : ∀ name ∈ p.names, GoodName name

theorem leadingSlashes_bound (t : Text) : leadingSlashes t ≤ 2 := by
  unfold leadingSlashes
  split <;> omega

theorem normal_ofText (t : Text) : Normal (ofText t) := by
  refine ⟨leadingSlashes_bound t, ?_⟩
  intro name member
  obtain ⟨piece, good⟩ := List.mem_filter.mp member
  exact ⟨good, Text.not_mem_splitOn piece⟩

theorem Normal.child {p : Path} (normal : Normal p) {name : Text} (good : GoodName name) : Normal (p.child name) := by
  refine ⟨normal.slashes, ?_⟩
  intro n member
  rcases List.mem_append.mp member with old | new
  · exact normal.names n old
  · rw [List.mem_singleton.mp new]
    exact good

theorem Normal.parent {p : Path} (normal : Normal p) : Normal p.parent :=
  ⟨normal.slashes, fun name member => normal.names name (List.dropLast_subset _ member)⟩

theorem Normal.walk {p : Path} (normal : Normal p) {names : List Text} (good : ∀ name ∈ names, GoodName name) :
    Normal (p.walk names) := by
  induction names generalizing p with
  | nil => exact normal
  | cons name rest ih =>
    obtain ⟨first, others⟩ := List.forall_mem_cons.mp good
    refine ih ?_ others
    unfold step
    split
    · exact normal.parent
    · exact normal.child first

theorem Normal.absolute {p : Path} (normal : Normal p) (directory : Text) : Normal (p.absolute directory) := by
  refine Normal.walk ?_ normal.names
  unfold origin
  split
  · exact Normal.walk ⟨leadingSlashes_bound directory, by simp⟩ (normal_ofText directory).names
  · exact ⟨normal.slashes, by simp⟩

theorem walk_straight {p : Path} (straight : up ∉ p.names) (names : List Text) : up ∉ (p.walk names).names := by
  induction names generalizing p with
  | nil => exact straight
  | cons name rest ih =>
    refine ih (p := p.step name) ?_
    by_cases isUp : name = up
    · rw [isUp, step_up]
      exact fun member => straight (List.dropLast_subset _ member)
    · rw [step_child p isUp]
      intro member
      rcases List.mem_append.mp member with old | new
      · exact straight old
      · exact isUp (List.mem_singleton.mp new).symm

theorem absolute_straight (directory : Text) (p : Path) : up ∉ (p.absolute directory).names := by
  refine walk_straight ?_ p.names
  unfold origin
  split
  · exact walk_straight List.not_mem_nil _
  · exact List.not_mem_nil

theorem slashes_walk (p : Path) (names : List Text) : (p.walk names).slashes = p.slashes := by
  induction names generalizing p with
  | nil => rfl
  | cons name rest ih =>
    refine (ih (p.step name)).trans ?_
    unfold step
    split <;> rfl

theorem slashes_absolute (directory : Text) (p : Path) :
    (p.absolute directory).slashes = if p.slashes = 0 then leadingSlashes directory else p.slashes := by
  rw [absolute, slashes_walk, origin]
  split
  · exact slashes_walk _ _
  · rfl

theorem absolute_child (directory : Text) (p : Path) {name : Text} (down : name ≠ up) :
    (p.child name).absolute directory = (p.absolute directory).child name := by
  show walk _ (p.names ++ [name]) = _
  rw [walk_append]
  exact step_child _ down

theorem GoodName.begins {name : Text} (good : GoodName name) : ∃ c rest, name = c :: rest ∧ c ≠ CodePoint.ofChar '/' := by
  cases name with
  | nil => exact absurd good.1 (by decide)
  | cons c rest =>
    refine ⟨c, rest, rfl, ?_⟩
    intro same
    exact good.2 (same ▸ List.mem_cons_self)

theorem joined_begins {names : List Text} (some : names ≠ []) (good : ∀ name ∈ names, GoodName name) :
    ∃ c rest, Text.joined "/" names = c :: rest ∧ c ≠ CodePoint.ofChar '/' := by
  match names with
  | name :: more =>
    obtain ⟨c, rest, shape, apart⟩ := (good name List.mem_cons_self).begins
    match more with
    | [] => exact ⟨c, rest, shape, apart⟩
    | next :: others =>
      refine ⟨c, rest ++ "/" ++ Text.joined "/" (next :: others), ?_, apart⟩
      rw [Text.joined, shape]
      rfl

theorem takeWhile_slashes (count : Nat) {t : Text} {c : CodePoint} {rest : Text} (shape : t = c :: rest)
    (apart : c ≠ CodePoint.ofChar '/') :
    ((List.replicate count (CodePoint.ofChar '/') ++ t).takeWhile fun c => c == CodePoint.ofChar '/').length = count := by
  rw [List.takeWhile_append_of_pos (by simp), shape]
  simp [apart]

theorem splitOn_slashes (count : Nat) (t : Text) :
    Text.splitOn (CodePoint.ofChar '/') (List.replicate count (CodePoint.ofChar '/') ++ t) =
      List.replicate count [] ++ Text.splitOn (CodePoint.ofChar '/') t := by
  induction count with
  | zero => rfl
  | succ count ih => rw [List.replicate_succ, List.cons_append, Text.splitOn_separator, ih, List.replicate_succ,
      List.cons_append]

theorem ofText_text {p : Path} (normal : Normal p) (some : p.names ≠ []) : ofText p.text = p := by
  obtain ⟨c, rest, shape, apart⟩ := joined_begins some normal.names
  have body : p.text = List.replicate p.slashes (CodePoint.ofChar '/') ++ Text.joined "/" p.names := by
    simp [text, shape]
  have split := Text.splitOn_joined (CodePoint.ofChar '/') some fun name member => (normal.names name member).2
  have slashes : leadingSlashes p.text = p.slashes := by
    have bound := normal.slashes
    rw [body, leadingSlashes, takeWhile_slashes p.slashes shape apart]
    generalize p.slashes = count at bound
    match count, bound with
    | 0, _ => rfl
    | 1, _ => rfl
    | 2, _ => rfl
  have names : (Text.splitOn '/' p.text).filter isName = p.names := by
    have separator : ("/" : Text) = [CodePoint.ofChar '/'] := rfl
    have kept : p.names.filter isName = p.names := List.filter_eq_self.mpr fun name member => (normal.names name member).1
    rw [body, splitOn_slashes, separator, split, List.filter_append, kept]
    simp [isName]
  rw [ofText, slashes, names]

end Path

end UploadRelay
