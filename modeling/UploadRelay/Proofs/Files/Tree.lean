import UploadRelay.Scratch
-- What the operations on a tree do to its places: making directories adds some that were missing
-- and does nothing to regular files, putting and deleting a file does nothing to the others.

namespace UploadRelay.Tree

theorem node?_named {path : Path} (named : path.names ≠ []) (t : Tree) : t.node? path = find path.place t.entries := by
  simp [node?, named]

-- Paths to one place find the same there.
theorem node?_of_place {p q : Path} (same : p.place = q.place) (t : Tree) : t.node? p = t.node? q := by
  rw [node?, node?, same, Path.names_of_place same]

theorem node?_put_same {path : Path} (named : path.names ≠ []) (t : Tree) (node : Node) :
    (t.put path node).node? path = some node := by
  rw [node?_named named]
  exact find_putEntry_same path.place node t.entries

theorem node?_put_other {path other : Path} (apart : other.place ≠ path.place) (t : Tree) (node : Node) :
    (t.put path node).node? other = t.node? other := by
  simp only [node?, put, find_putEntry_other node t.entries apart]

theorem node?_erase_other {path other : Path} (apart : other.place ≠ path.place) (t : Tree) :
    (t.erase path).node? other = t.node? other := by
  simp only [node?, erase, find_filter_other t.entries apart]

theorem find_filter_same (path : Path) (entries : List (Path × Node)) :
    find path (entries.filter fun e => e.1 ≠ path) = none := by
  induction entries with
  | nil => rfl
  | cons e rest ih =>
    by_cases same : e.1 = path
    · simpa [List.filter_cons, same] using ih
    · simpa [List.filter_cons, same, find] using ih

theorem file?_of_node {t t' : Tree} {path : Path} (same : t'.node? path = t.node? path) : t'.file? path = t.file? path := by
  rw [file?, file?, same]

theorem file?_of_place {p q : Path} (same : p.place = q.place) (t : Tree) : t.file? p = t.file? q := by
  rw [file?, file?, node?_of_place same]

theorem file?_erase_same (t : Tree) (path : Path) : (t.erase path).file? path = none := by
  unfold file? node?
  split
  · rename_i content found
    split at found
    · cases found
    · rw [erase, find_filter_same] at found
      cases found
  · rfl

theorem file?_put_same {path : Path} (named : path.names ≠ []) (t : Tree) (content : List UInt8) :
    (t.put path (.file content)).file? path = some content := by
  rw [file?, node?_put_same named]

theorem file?_put_other {path other : Path} (apart : other.place ≠ path.place) (t : Tree) (node : Node) :
    (t.put path node).file? other = t.file? other := file?_of_node (node?_put_other apart t node)

theorem file?_erase_other {path other : Path} (apart : other.place ≠ path.place) (t : Tree) :
    (t.erase path).file? other = t.file? other := file?_of_node (node?_erase_other apart t)

theorem file?_none_of_node {t : Tree} {path : Path} (absent : t.node? path = none) : t.file? path = none := by
  rw [file?, absent]

def OnWay (here : Path) (names : List Text) (p : Path) : Prop :=
  ∃ front name, name ≠ Path.up ∧ front ++ [name] <+: names ∧ p.place = (here.walk (front ++ [name])).place

theorem onWay_nil {here p : Path} : ¬ OnWay here [] p := by
  rintro ⟨front, name, _, first, _⟩
  exact absurd (List.prefix_nil.mp first) (by simp)

theorem onWay_first (here : Path) {name : Text} (down : name ≠ Path.up) (rest : List Text) :
    OnWay here (name :: rest) (here.step name) :=
  ⟨[], name, down, List.cons_prefix_cons.mpr ⟨rfl, List.nil_prefix⟩, rfl⟩

theorem OnWay.cons {here p : Path} {name : Text} {rest : List Text} (way : OnWay (here.step name) rest p) :
    OnWay here (name :: rest) p := by
  obtain ⟨front, last, down, first, same⟩ := way
  exact ⟨name :: front, last, down, List.cons_prefix_cons.mpr ⟨rfl, first⟩, same⟩

theorem OnWay.of_place {here p q : Path} {names : List Text} (way : OnWay here names p) (same : q.place = p.place) :
    OnWay here names q := by
  obtain ⟨front, last, down, first, place⟩ := way
  exact ⟨front, last, down, first, same.trans place⟩

-- Either the place is that of the first step, or it lies on the way from there.
theorem onWay_cons_iff {here p : Path} {name : Text} {rest : List Text} :
    OnWay here (name :: rest) p ↔
      (name ≠ Path.up ∧ p.place = (here.step name).place) ∨ OnWay (here.step name) rest p := by
  constructor
  · rintro ⟨front, last, down, first, same⟩
    cases front with
    | nil =>
      obtain ⟨rfl, -⟩ := List.cons_prefix_cons.mp first
      exact Or.inl ⟨down, same⟩
    | cons step front =>
      obtain ⟨rfl, below⟩ := List.cons_prefix_cons.mp first
      exact Or.inr ⟨front, last, down, below, same⟩
  · rintro (⟨down, same⟩ | way)
    · exact (onWay_first here down rest).of_place same
    · exact way.cons

structure NewDirectory (t t' : Tree) (here : Path) (names : List Text) (p : Path) : Prop where
  absent : t.node? p = none
  made : t'.node? p = some .directory
  way : OnWay here names p
  short : nameTooLong p.name = false

theorem NewDirectory.cons {t t' : Tree} {here p : Path} {name : Text} {rest : List Text}
    (new : NewDirectory t t' (here.step name) rest p) : NewDirectory t t' here (name :: rest) p :=
  ⟨new.absent, new.made, new.way.cons, new.short⟩

-- The first step of making directories: a fault that leaves the tree, or a directory behind which it goes on, as it
-- was there or is new.
inductive FirstStep (t : Tree) (told here : Path) (name : Text) (rest : List Text) : Except Fault Unit × Tree → Prop where
  | failed (fault : Fault) : FirstStep t told here name rest (.error fault, t)
  | up (isUp : name = Path.up) :
      FirstStep t told here name rest (t.makeDirectories (told.child name) (here.step name) rest)
  | found (down : name ≠ Path.up) (there : t.node? (here.step name) = some .directory) :
      FirstStep t told here name rest (t.makeDirectories (told.child name) (here.step name) rest)
  | new (down : name ≠ Path.up) (absent : t.node? (here.step name) = none) (short : nameTooLong name = false) :
      FirstStep t told here name rest
        ((t.put (here.step name) .directory).makeDirectories (told.child name) (here.step name) rest)

theorem makeDirectories_first (t : Tree) (told here : Path) (name : Text) (rest : List Text) :
    FirstStep t told here name rest (t.makeDirectories told here (name :: rest)) := by
  unfold makeDirectories
  cases refused : unwritablePath? (told.child name) with
  | some fault =>
    simp only [refused]
    exact .failed fault
  | none =>
    simp only [refused]
    by_cases isUp : name = Path.up
    · rw [if_pos isUp]
      exact .up isUp
    · rw [if_neg isUp]
      cases found : t.node? (here.step name) with
      | some node =>
        cases node with
        | directory => exact .found isUp found
        | file content => cases rest <;> exact .failed _
      | none =>
        cases long : nameTooLong name with
        | true => exact .failed _
        | false => exact .new isUp found long

theorem name_of_step {here p : Path} {name : Text} (down : name ≠ Path.up) (same : p.place = (here.step name).place) :
    p.name = name := by
  rw [Path.name, Path.names_of_place same, Path.step_child here down]
  exact here.child_name name

theorem step_named (here : Path) {name : Text} (down : name ≠ Path.up) : (here.step name).names ≠ [] := by
  rw [Path.step_child here down]
  exact here.child_named name

-- Making directories leaves every place as it is, but for new directories on the way.
theorem makeDirectories_node (t : Tree) (told here : Path) (names : List Text) (p : Path) :
    (t.makeDirectories told here names).2.node? p = t.node? p ∨
      NewDirectory t (t.makeDirectories told here names).2 here names p := by
  induction names generalizing t told here with
  | nil => exact Or.inl rfl
  | cons name rest ih =>
    have first := t.makeDirectories_first told here name rest
    generalize t.makeDirectories told here (name :: rest) = made at first
    cases first with
    | failed fault => exact Or.inl rfl
    | up | found => exact (ih t _ _).imp_right NewDirectory.cons
    | new down absent short =>
      have later := ih (t.put (here.step name) .directory) (told.child name) (here.step name)
      by_cases same : p.place = (here.step name).place
      · have stands : (t.put (here.step name) .directory).node? p = some .directory :=
          (node?_of_place same _).trans (node?_put_same (step_named here down) t .directory)
        refine Or.inr ⟨(node?_of_place same t).trans absent, ?_, (onWay_first here down rest).of_place same,
          (name_of_step down same).symm ▸ short⟩
        rcases later with kept | more
        · exact kept.trans stands
        · cases stands.symm.trans more.absent
      · have before := node?_put_other same t .directory
        rcases later with kept | more
        · exact Or.inl (kept.trans before)
        · exact Or.inr (NewDirectory.cons ⟨before.symm.trans more.absent, more.made, more.way, more.short⟩)

theorem makeDirectories_files (t : Tree) (told here : Path) (names : List Text) (p : Path) :
    (t.makeDirectories told here names).2.file? p = t.file? p := by
  rcases t.makeDirectories_node told here names p with kept | new
  · exact file?_of_node kept
  · rw [file?, new.made, file?_none_of_node new.absent]

theorem makeDirectories_keeps {t : Tree} {p : Path} (there : t.node? p = some .directory) (told here : Path)
    (names : List Text) : (t.makeDirectories told here names).2.node? p = some .directory := by
  rcases t.makeDirectories_node told here names p with kept | new
  · exact kept.trans there
  · exact new.made

theorem makeDirectories_leads {t t' : Tree} {told here : Path} {names : List Text}
    (made : t.makeDirectories told here names = (.ok (), t')) {p : Path} (way : OnWay here names p) :
    t'.node? p = some .directory := by
  induction names generalizing t told here with
  | nil =>
    exact absurd way onWay_nil
  | cons name rest ih =>
    have split := onWay_cons_iff.mp way
    have first := t.makeDirectories_first told here name rest
    rw [made] at first
    generalize outcome : ((.ok (), t') : Except Fault Unit × Tree) = ran at first
    cases first with
    | failed fault => cases outcome
    | up isUp =>
      rcases split with ⟨down, -⟩ | further
      · exact absurd isUp down
      · exact ih outcome.symm further
    | found down there =>
      rcases split with ⟨-, here'⟩ | further
      · have kept := makeDirectories_keeps ((node?_of_place here' t).trans there) (told.child name) (here.step name) rest
        rwa [← outcome] at kept
      · exact ih outcome.symm further
    | new down absent short =>
      rcases split with ⟨-, here'⟩ | further
      · have stands := (node?_of_place here' _).trans (node?_put_same (step_named here down) t .directory)
        have kept := makeDirectories_keeps stands (told.child name) (here.step name) rest
        rwa [← outcome] at kept
      · exact ih outcome.symm further

theorem ensureDirectory_ok_iff {t t' : Tree} {path : Path} {directory : Text} :
    t.ensureDirectory path directory = .ok t' ↔ t.reachDirectory path directory = (.ok (), t') := by
  unfold ensureDirectory
  generalize t.reachDirectory path directory = reached
  obtain ⟨outcome, t''⟩ := reached
  cases outcome <;> simp

theorem reachDirectory_files (t : Tree) (path : Path) (directory : Text) (p : Path) :
    (t.reachDirectory path directory).2.file? p = t.file? p := t.makeDirectories_files _ _ _ p

def Towards (path : Path) (directory : Text) (p : Path) : Prop := OnWay (path.origin directory) path.names p

-- A place is as it was, or it is a directory that was missing on the way to another one.
def Reaching (path : Path) (directory : Text) (t t' : Tree) (p : Path) : Prop :=
  t'.node? p = t.node? p ∨ NewDirectory t t' (path.origin directory) path.names p

theorem reachDirectory_reaching (t : Tree) (path : Path) (directory : Text) (p : Path) :
    Reaching path directory t (t.reachDirectory path directory).2 p := t.makeDirectories_node _ _ _ p

theorem ensureDirectory_leads {t t' : Tree} {path : Path} {directory : Text} (made : t.ensureDirectory path directory = .ok t')
    {p : Path} (way : Towards path directory p) : t'.node? p = some .directory :=
  makeDirectories_leads (ensureDirectory_ok_iff.mp made) way

-- Nothing is in the way of making these directories one below the other: their paths can be told, and where they
-- stand is a directory already, or nothing and they have a short name.
def ClearWay (t : Tree) (told here : Path) (names : List Text) : Prop :=
  (∀ front, front ≠ [] → front <+: names → unwritablePath? ⟨told.slashes, told.names ++ front⟩ = none) ∧
    ∀ p, OnWay here names p → t.node? p = some .directory ∨ t.node? p = none ∧ nameTooLong p.name = false

theorem clearWay_nil (t : Tree) (told here : Path) : ClearWay t told here [] :=
  ⟨fun _ some first => absurd (List.prefix_nil.mp first) some, fun _ way => absurd way onWay_nil⟩

theorem clearWay_cons_iff {t : Tree} {told here : Path} {name : Text} {rest : List Text} :
    ClearWay t told here (name :: rest) ↔ unwritablePath? (told.child name) = none ∧
      (name ≠ Path.up →
        t.node? (here.step name) = some .directory ∨ t.node? (here.step name) = none ∧ nameTooLong name = false) ∧
      ClearWay t (told.child name) (here.step name) rest := by
  constructor
  · rintro ⟨writable, places⟩
    refine ⟨writable [name] (List.cons_ne_nil name []) (List.cons_prefix_cons.mpr ⟨rfl, List.nil_prefix⟩), ?_, ?_,
      fun p way => places p way.cons⟩
    · intro down
      have place := places _ (onWay_first here down rest)
      rwa [name_of_step down rfl] at place
    · intro front _ first
      have further := writable (name :: front) (List.cons_ne_nil name front) (List.cons_prefix_cons.mpr ⟨rfl, first⟩)
      simpa [Path.child] using further
  · rintro ⟨here', place, onward, places⟩
    refine ⟨fun front some first => ?_, fun p way => ?_⟩
    · obtain ⟨next, front, rfl⟩ := List.exists_cons_of_ne_nil some
      obtain ⟨rfl, below⟩ := List.cons_prefix_cons.mp first
      by_cases last : front = []
      · rw [last]
        exact here'
      · simpa [Path.child] using onward front last below
    · rcases onWay_cons_iff.mp way with ⟨down, same⟩ | way
      · rw [node?_of_place same, name_of_step down same]
        exact place down
      · exact places p way

-- A directory that is made on the way to others leaves their way clear.
theorem ClearWay.put {t : Tree} {told here path : Path} {names : List Text} (clear : ClearWay t told here names)
    (some : path.names ≠ []) : ClearWay (t.put path .directory) told here names := by
  refine ⟨clear.1, fun p way => ?_⟩
  by_cases same : p.place = path.place
  · exact Or.inl ((node?_of_place same _).trans (node?_put_same some t .directory))
  · rw [node?_put_other same]
    exact clear.2 p way

theorem makeDirectories_clear {t : Tree} {told here : Path} {names : List Text} (clear : ClearWay t told here names) :
    ∃ t', t.makeDirectories told here names = (.ok (), t') := by
  induction names generalizing t told here with
  | nil => exact ⟨t, rfl⟩
  | cons name rest ih =>
    obtain ⟨writable, place, onward⟩ := clearWay_cons_iff.mp clear
    unfold makeDirectories
    simp only [writable]
    by_cases isUp : name = Path.up
    · rw [if_pos isUp]
      exact ih onward
    · rw [if_neg isUp]
      rcases place isUp with directory | ⟨absent, short⟩
      · simp only [directory]
        exact ih onward
      · simp only [absent, short, Bool.false_eq_true, if_false]
        exact ih (onward.put (step_named here isUp))

theorem remove_cases (t : Tree) (path : Path) :
    t.remove path = .ok (t.erase path) ∨ (∃ fault, t.remove path = .error fault) ∧ t.file? path = none := by
  unfold remove file?
  cases t.node? path with
  | none => exact Or.inr ⟨⟨_, rfl⟩, rfl⟩
  | some node =>
    cases node with
    | directory => exact Or.inr ⟨⟨_, rfl⟩, rfl⟩
    | file content => exact Or.inl rfl

end UploadRelay.Tree
