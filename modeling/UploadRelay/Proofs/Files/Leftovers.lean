import UploadRelay.Proofs.Backend.Sending
-- What requests leave behind in a tree. Beside what stood there at first there are only directories on given ways,
-- and files where some may be left.

namespace UploadRelay

open Backend

structure Tree.MadeAt (way : Path → Prop) (t : Tree) (p : Path) : Prop where
  directory : t.node? p = some .directory
  short : Tree.nameTooLong p.name = false
  onWay : way p

-- A tree that has grown out of another one, by directories on ways and with files left at some paths.
structure Tree.Grown (base : Tree) (way left : Path → Prop) (t : Tree) : Prop where
  kept : ∀ p, base.node? p ≠ none → t.node? p = base.node? p
  extra : ∀ p, base.node? p = none →
    t.node? p = none ∨ t.MadeAt way p ∨ left p ∧ ∃ content, t.node? p = some (.file content)

namespace Tree

variable {way left : Path → Prop} {base t t' : Tree} {path : Path}

theorem grown_refl (way left : Path → Prop) (t : Tree) : t.Grown way left t :=
  ⟨fun _ _ => rfl, fun _ absent => Or.inl absent⟩

theorem Grown.absent (grown : base.Grown way left t) (absent : t.node? path = none) : base.node? path = none := by
  cases there : base.node? path with
  | none => rfl
  | some node =>
    have kept := grown.kept path (by simp [there])
    rw [absent, there] at kept
    cases kept

theorem Grown.widen {left' : Path → Prop} (grown : base.Grown way left t) (wider : ∀ p, left p → left' p) :
    base.Grown way left' t where
  kept := grown.kept
  extra := by
    intro p absent
    rcases grown.extra p absent with none | made | ⟨may, there⟩
    · exact Or.inl none
    · exact Or.inr (Or.inl made)
    · exact Or.inr (Or.inr ⟨wider p may, there⟩)

def orAt (left : Path → Prop) (path : Path) : Path → Prop := fun p => left p ∨ p.place = path.place

theorem Grown.reachDirectory (grown : base.Grown way left t) {path : Path} {directory : Text}
    (towards : ∀ p, Towards path directory p → way p) : base.Grown way left (t.reachDirectory path directory).2 where
  kept := by
    intro p there
    rcases t.reachDirectory_reaching path directory p with kept | new
    · exact kept.trans (grown.kept p there)
    · exact absurd ((grown.kept p there).symm.trans new.absent) there
  extra := by
    intro p none
    rcases t.reachDirectory_reaching path directory p with kept | new
    · rw [kept]
      rcases grown.extra p none with still | made | file
      · exact Or.inl still
      · exact Or.inr (Or.inl ⟨kept.trans made.directory, made.short, made.onWay⟩)
      · exact Or.inr (Or.inr file)
    · exact Or.inr (Or.inl ⟨new.made, new.short, towards p new.way⟩)

theorem Grown.touched (grown : base.Grown way (orAt left path) t) (fresh : base.node? path = none)
    (elsewhere : ∀ p : Path, p.place ≠ path.place → t'.node? p = t.node? p)
    (here : t'.node? path = none ∨ ∃ content, t'.node? path = some (.file content)) :
    base.Grown way (orAt left path) t' where
  kept := by
    intro p there
    have apart : p.place ≠ path.place := fun same => there ((node?_of_place same base).trans fresh)
    rw [elsewhere p apart]
    exact grown.kept p there
  extra := by
    intro p none
    by_cases same : p.place = path.place
    · rw [node?_of_place same]
      rcases here with gone | file
      · exact Or.inl gone
      · exact Or.inr (Or.inr ⟨Or.inr same, file⟩)
    · rw [elsewhere p same]
      rcases grown.extra p none with still | made | file
      · exact Or.inl still
      · exact Or.inr (Or.inl ⟨(elsewhere p same).trans made.directory, made.short, made.onWay⟩)
      · exact Or.inr (Or.inr file)

theorem Grown.settle (grown : base.Grown way (orAt left path) t) (gone : (∀ p : Path, p.place = path.place → left p) ∨ t.file? path = none) :
    base.Grown way left t where
  kept := grown.kept
  extra := by
    intro p none
    rcases grown.extra p none with still | made | ⟨may, content, there⟩
    · exact Or.inl still
    · exact Or.inr (Or.inl made)
    · rcases may with may | same
      · exact Or.inr (Or.inr ⟨may, content, there⟩)
      · rcases gone with may | absent
        · exact Or.inr (Or.inr ⟨may p same, content, there⟩)
        · rw [← file?_of_place same, file?, there] at absent
          cases absent

def drop (path : Path) (t : Tree) : Tree :=
  match t.file? path with
  | some _ => t.erase path
  | none => t

theorem drop_other {p : Path} (apart : p.place ≠ path.place) (t : Tree) : (drop path t).node? p = t.node? p := by
  unfold drop
  split
  · exact node?_erase_other apart t
  · rfl

theorem file?_named {content : List UInt8} (there : t.file? path = some content) :
    path.names ≠ [] ∧ t.node? path = some (.file content) := by
  unfold file? at there
  split at there
  · rename_i content' found
    cases there
    refine ⟨fun none => ?_, found⟩
    rw [node?, none] at found
    cases found
  · cases there

theorem drop_same {p : Path} (same : p.place = path.place) (t : Tree) :
    (∃ content, t.node? p = some (.file content)) ∧ (drop path t).node? p = none ∨
      (∀ content, t.node? p ≠ some (.file content)) ∧ drop path t = t := by
  rw [node?_of_place same, node?_of_place same]
  unfold drop
  cases there : t.file? path with
  | some content =>
    obtain ⟨named, found⟩ := file?_named there
    refine Or.inl ⟨⟨content, found⟩, ?_⟩
    rw [node?_named named]
    exact find_filter_same path.place t.entries
  | none =>
    refine Or.inr ⟨fun content found => ?_, rfl⟩
    rw [file?, found] at there
    cases there

theorem Grown.drop (grown : base.Grown way left t) (path : Path) :
    (Tree.drop path base).Grown way left (Tree.drop path t) where
  kept := by
    intro p there
    by_cases same : p.place = path.place
    · rcases drop_same same base with ⟨-, gone⟩ | ⟨noFile, stays⟩
      · exact absurd gone there
      · rw [stays] at there ⊢
        have kept := grown.kept p there
        rcases drop_same same t with ⟨⟨content, file⟩, -⟩ | ⟨-, still⟩
        · exact absurd (kept.symm.trans file) (noFile content)
        · rw [still]
          exact kept
    · rw [drop_other same] at there
      rw [drop_other same, drop_other same]
      exact grown.kept p there
  extra := by
    intro p none
    by_cases same : p.place = path.place
    · rcases drop_same same t with ⟨-, gone⟩ | ⟨noFile, still⟩
      · exact Or.inl gone
      · rw [still]
        rcases drop_same same base with ⟨⟨content, file⟩, -⟩ | ⟨-, stays⟩
        · have there : base.node? p ≠ Option.none := by simp [file]
          exact absurd ((grown.kept p there).trans file) (noFile content)
        · rw [stays] at none
          exact grown.extra p none
    · rw [drop_other same] at none
      rw [drop_other same]
      rcases grown.extra p none with still | made | file
      · exact Or.inl still
      · exact Or.inr (Or.inl ⟨(drop_other same t).trans made.directory, made.short, made.onWay⟩)
      · exact Or.inr (Or.inr file)

theorem Grown.treeAfter (grown : base.Grown way left t) (turn : Turn) (body : List UInt8) :
    (Backend.treeAfter turn body base).Grown way left (Backend.treeAfter turn body t) := by
  unfold Backend.treeAfter
  split
  · unfold removeFile
    cases postedPath? body with
    | none => exact grown
    | some path => exact grown.drop path
  · exact grown

theorem Grown.cleared (grown : base.Grown way left t) (turns : List Turn) (posts : List Post) :
    (Backend.cleared turns posts base).Grown way left (Backend.cleared turns posts t) := by
  induction posts generalizing turns base t with
  | nil => rwa [cleared_nil, cleared_nil]
  | cons post posts ih =>
    cases turns with
    | nil => exact grown
    | cons turn turns => exact ih (grown.treeAfter turn post.body) turns

end Tree

theorem Backend.treeAfter_absent {path : Path} {t : Tree} (absent : t.node? path = none) (turn : Turn)
    (body : List UInt8) : (treeAfter turn body t).node? path = none := by
  unfold treeAfter
  split
  · unfold removeFile
    cases postedPath? body with
    | none => exact absent
    | some other =>
      show (Tree.drop other t).node? path = none
      by_cases same : path.place = other.place
      · rcases Tree.drop_same same t with ⟨⟨content, file⟩, -⟩ | ⟨-, still⟩
        · rw [absent] at file
          cases file
        · rw [still]
          exact absent
      · rw [Tree.drop_other same]
        exact absent
  · exact absent

theorem Backend.cleared_absent {path : Path} {t : Tree} (absent : t.node? path = none) (turns : List Turn)
    (posts : List Post) : (cleared turns posts t).node? path = none := by
  induction posts generalizing turns t with
  | nil => rwa [cleared_nil]
  | cons post posts ih =>
    cases turns with
    | nil => exact absent
    | cons turn turns => exact ih (treeAfter_absent absent turn post.body) turns

end UploadRelay
