import UploadRelay.Proofs.Files.Path
import UploadRelay.Service.PathTemplate
-- Templates without anything special in them: each is read, has no fields, and its own text is a
-- path of it.

namespace UploadRelay

namespace Text

theorem mem_splitOn {separator : CodePoint} {t piece : Text} (member : piece ∈ splitOn separator t) : ∀ c ∈ piece, c ∈ t := by
  induction t generalizing piece with
  | nil =>
    rw [List.mem_singleton.mp member]
    exact fun c inside => (List.not_mem_nil inside).elim
  | cons d t ih =>
    intro c inside
    by_cases same : d = separator
    · subst same
      rw [splitOn_separator] at member
      rcases List.mem_cons.mp member with rfl | behind
      · cases inside
      · exact List.mem_cons_of_mem _ (ih behind c inside)
    · cases split : splitOn separator t with
      | nil => exact absurd split (splitOn_ne_nil separator t)
      | cons first rest =>
        rw [splitOn_cons same split] at member
        rcases List.mem_cons.mp member with rfl | behind
        · rcases List.mem_cons.mp inside with rfl | there
          · exact List.mem_cons_self
          · exact List.mem_cons_of_mem _ (ih (split ▸ List.mem_cons_self) c there)
        · exact List.mem_cons_of_mem _ (ih (split ▸ List.mem_cons_of_mem _ behind) c inside)

end Text

namespace Service.PathTemplate

def isPlain (c : CodePoint) : Bool := !(c.isBlank || c.isSurrogate || [0, 39, 92, 123].contains c.val)

def Plain (t : Text) : Prop := ∀ c ∈ t, isPlain c = true

instance (t : Text) : Decidable (Plain t) := inferInstanceAs (Decidable (∀ c ∈ t, isPlain c = true))

theorem Plain.rest {c : CodePoint} {t : Text} (plain : Plain (c :: t)) : Plain t :=
  fun d member => plain d (List.mem_cons_of_mem c member)

theorem isPlain_value {c : CodePoint} (plain : isPlain c = true) :
    c.isBlank = false ∧ c.isSurrogate = false ∧ c.val ≠ 0 ∧ c.val ≠ 39 ∧ c.val ≠ 92 ∧ c.val ≠ 123 := by
  simpa [isPlain, and_assoc] using plain

def verbatim (t : Text) : PathPart :=
  match t with
  | [] => []
  | c :: rest => [.literal (c :: rest)]

def verbatimRaw (t : Text) : List Raw :=
  match t with
  | [] => []
  | c :: rest => [.literal (c :: rest)]

theorem rawLoop_plain {t : Text} (plain : Plain t) {fuel : Nat} (enough : t.length ≤ fuel) : rawLoop fuel t = verbatimRaw t := by
  induction t generalizing fuel with
  | nil => cases fuel <;> rfl
  | cons c rest ih =>
    cases fuel with
    | zero => simp at enough
    | succ fuel =>
      have here := (isPlain_value (plain c List.mem_cons_self)).2.2.2.2.2
      have noField : written? (c :: rest) = none := by
        unfold written?
        simp [here]
      have behind : rawLoop fuel rest = verbatimRaw rest := ih plain.rest (Nat.le_of_succ_le_succ enough)
      rw [rawLoop, noField]
      simp only
      rw [behind]
      cases rest <;> rfl

theorem raw_plain {t : Text} (plain : Plain t) : raw t = verbatimRaw t := rawLoop_plain plain (Nat.le_refl _)

theorem piecesOf_plain (used : List Text) {t : Text} (plain : Plain t) : piecesOf used (raw t) = .ok (verbatim t) := by
  rw [raw_plain plain]
  cases t <;> rfl

theorem partFields_verbatim (t : Text) : partFields (verbatim t) = [] := by
  cases t <;> rfl

theorem literalText_verbatim (t : Text) : literalText (verbatim t) = t := by
  cases t with
  | nil => rfl
  | cons c rest => exact List.append_nil _

theorem partsOf_plain (used : List Text) {ts : List Text} (plain : ∀ t ∈ ts, Plain t) :
    partsOf used ts = .ok (ts.map verbatim) := by
  induction ts generalizing used with
  | nil => rfl
  | cons t rest ih =>
    have behind := ih ((partFields (verbatim t)).map PathField.name ++ used) fun u member => plain u (List.mem_cons_of_mem t member)
    rw [partsOf, piecesOf_plain used (plain t List.mem_cons_self)]
    simp only [bind, Except.bind, behind]
    rfl

theorem checkParts_verbatim (template : Text) (ts : List Text) : checkParts template (ts.map verbatim) = .ok () := by
  induction ts with
  | nil => rfl
  | cons t rest ih =>
    have none : takingRest? (verbatim t) = none := by
      rw [takingRest?, partFields_verbatim]
      rfl
    rw [List.map_cons, checkParts, none]
    exact ih

theorem fields_verbatim (ts : List Text) : fields (ts.map verbatim) = [] := by
  induction ts with
  | nil => rfl
  | cons t rest ih =>
    rw [fields, List.map_cons, List.flatMap_cons, partFields_verbatim]
    exact ih

theorem fitsPart_verbatim {t : Text} (plain : Plain t) : fitsPart (verbatim t) t = true := by
  have decodes := Text.Escape.decode?_plain t fun c member => (isPlain_value (plain c member)).2.2.2.2.1
  rw [fitsPart, partFields_verbatim, literalText_verbatim, decodes]
  simp

theorem isBroken_verbatim {t : Text} (plain : Plain t) : isBroken (verbatim t) = false := by
  have decodes := Text.Escape.decode?_plain t fun c member => (isPlain_value (plain c member)).2.2.2.2.1
  have quoteless : t.any (fun c => c.val == 39 || c.val == 0 || c.isSurrogate) = false := by
    rw [List.any_eq_false]
    intro c member
    obtain ⟨-, noSurrogate, noZero, noQuote, -, -⟩ := isPlain_value (plain c member)
    simp [noSurrogate, noZero, noQuote]
  rw [isBroken, partFields_verbatim, literalText_verbatim, decodes, quoteless]
  rfl

theorem fitsAll_verbatim {ts : List Text} (plain : ∀ t ∈ ts, Plain t) : fitsAll (ts.map verbatim) ts = true := by
  induction ts with
  | nil => rfl
  | cons t rest ih =>
    rw [List.map_cons, fitsAll, fitsPart_verbatim (plain t List.mem_cons_self)]
    exact ih fun u member => plain u (List.mem_cons_of_mem t member)

theorem partTexts_plain {t : Text} (plain : Plain t) : ∀ piece ∈ partTexts t, Plain piece := by
  intro piece member c inside
  exact plain c (List.dropWhile_sublist _ |>.subset (Text.mem_splitOn member c inside))

theorem read_plain {t : Text} (plain : Plain t) (rooted : Text.startsWith t "/" = true) (single : hasDoubleSlash t = false) :
    read t = .ok ((partTexts t).map verbatim) := by
  have noBlank : hasBlank t = false := by
    have blankless : t.any CodePoint.isBlank = false := by
      rw [List.any_eq_false]
      intro c member
      simp [(isPlain_value (plain c member)).1]
    rw [hasBlank, raw_plain plain]
    cases t with
    | nil => rfl
    | cons c rest => simpa [verbatimRaw] using blankless
  unfold read
  rw [rooted, single, noBlank]
  simp only [bind, Except.bind, partsOf_plain [] (partTexts_plain plain), checkParts_verbatim]
  rfl

theorem isBroken_plain {ts : List Text} (plain : ∀ t ∈ ts, Plain t) : (ts.map verbatim).any isBroken = false := by
  rw [List.any_map, List.any_eq_false]
  intro t member
  simp [isBroken_verbatim (plain t member)]

end Service.PathTemplate

end UploadRelay
