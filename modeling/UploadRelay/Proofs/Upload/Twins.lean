import UploadRelay.Proofs.Site.Twins
import UploadRelay.Proofs.Upload.Ways
import UploadRelay.Upload.Save
-- Saving the file of an upload from two sites that are alike: it goes to the same path or fails with the same
-- fault. In place of nothing, one of the trees may already have directories that saving would make.

namespace UploadRelay

variable {N : Type}

-- The same stands at a path, or nothing where the other tree has a directory of a name that can be given.
def Tree.AlikeAt (t₁ t₂ : Tree) (p : Path) : Prop :=
  t₂.node? p = t₁.node? p ∨
    t₁.node? p = none ∧ t₂.node? p = some .directory ∧ Tree.nameTooLong p.name = false

-- Trees in which a new scratch file finds the same: on the ways to the directories of users, and at the names that
-- can be drawn.
structure Store.Alike (store : Store) (directory : Text) (draw : Nat → Text) (t₁ t₂ : Tree) : Prop where
  ways : ∀ p, store.Way directory p → t₁.AlikeAt t₂ p
  drawn : ∀ user name n, ¬ store.Way directory ((store.home directory user).child (Scratch.fileName (draw n) name)) →
    (t₁.node? ((store.home directory user).child (Scratch.fileName (draw n) name)) = none ↔
      t₂.node? ((store.home directory user).child (Scratch.fileName (draw n) name)) = none)

namespace Store.Alike

variable {store : Store} {directory : Text} {draw : Nat → Text} {t₁ t₂ : Tree}

theorem refl (store : Store) (directory : Text) (draw : Nat → Text) (t : Tree) : store.Alike directory draw t t :=
  ⟨fun _ _ => Or.inl rfl, fun _ _ _ _ => Iff.rfl⟩

theorem grow {t₁' t₂' : Tree} (alike : store.Alike directory draw t₁ t₂) {p : Path} (way : store.Way directory p)
    (here₁ : t₁'.node? p = some .directory) (here₂ : t₂'.node? p = some .directory)
    (elsewhere₁ : ∀ q : Path, q.place ≠ p.place → t₁'.node? q = t₁.node? q)
    (elsewhere₂ : ∀ q : Path, q.place ≠ p.place → t₂'.node? q = t₂.node? q) : store.Alike directory draw t₁' t₂' where
  ways := by
    intro q onWay
    by_cases same : q.place = p.place
    · exact Or.inl (by rw [Tree.node?_of_place same, Tree.node?_of_place same, here₁, here₂])
    · unfold Tree.AlikeAt
      rw [elsewhere₁ q same, elsewhere₂ q same]
      exact alike.ways q onWay
  drawn := by
    intro user name n off
    have apart : ((store.home directory user).child (Scratch.fileName (draw n) name)).place ≠ p.place :=
      fun same => off (way.of_place same)
    rw [elsewhere₁ _ apart, elsewhere₂ _ apart]
    exact alike.drawn user name n off

theorem makeDirectories (alike : store.Alike directory draw t₁ t₂) (told : Path) {here : Path} {names : List Text}
    (ways : ∀ p, Tree.OnWay here names p → store.Way directory p) :
    (t₁.makeDirectories told here names).1 = (t₂.makeDirectories told here names).1 ∧
      store.Alike directory draw (t₁.makeDirectories told here names).2 (t₂.makeDirectories told here names).2 := by
  induction names generalizing t₁ t₂ told here with
  | nil => exact ⟨rfl, alike⟩
  | cons name rest ih =>
    have onward : ∀ p, Tree.OnWay (here.step name) rest p → store.Way directory p := fun p way => ways p way.cons
    unfold Tree.makeDirectories
    cases refused : Tree.unwritablePath? (told.child name) with
    | some fault =>
      simp only [refused]
      exact ⟨trivial, alike⟩
    | none =>
      simp only [refused]
      by_cases isUp : name = Path.up
      · simp only [if_pos isUp]
        exact ih alike _ onward
      · simp only [if_neg isUp]
        have way := ways _ (Tree.onWay_first here isUp rest)
        have named := Tree.step_named here isUp
        rcases alike.ways (here.step name) way with same | ⟨missing, there, fits⟩
        · cases found : t₁.node? (here.step name) with
          | none =>
            simp only [same, found]
            by_cases long : Tree.nameTooLong name = true
            · simp only [long, if_true]
              exact ⟨trivial, alike⟩
            · simp only [long]
              exact ih (alike.grow way (Tree.node?_put_same named t₁ _) (Tree.node?_put_same named t₂ _)
                (fun _ apart => Tree.node?_put_other apart t₁ _) fun _ apart => Tree.node?_put_other apart t₂ _) _ onward
          | some node =>
            simp only [same, found]
            cases node with
            | directory => exact ih alike _ onward
            | file content =>
              cases rest with
              | nil => exact ⟨rfl, alike⟩
              | cons next rest => exact ⟨rfl, alike⟩
        · -- The second tree has the directory that the first one still has to make.
          have short : Tree.nameTooLong name = false := by
            rwa [Path.step_child here isUp, here.child_name] at fits
          simp only [missing, there, short]
          exact ih (alike.grow way (Tree.node?_put_same named t₁ _) there
            (fun _ apart => Tree.node?_put_other apart t₁ _) fun _ _ => rfl) _ onward

theorem reachDirectory (alike : store.Alike directory draw t₁ t₂) (user : UserId) :
    (t₁.reachDirectory (store.userDirectory user) directory).1 = (t₂.reachDirectory (store.userDirectory user) directory).1 ∧
      store.Alike directory draw (t₁.reachDirectory (store.userDirectory user) directory).2
        (t₂.reachDirectory (store.userDirectory user) directory).2 :=
  alike.makeDirectories _ fun _ towards => ⟨user, towards⟩

theorem freePath (alike : store.Alike directory draw t₁ t₂) {before₁ before₂ : Tree} {user : UserId}
    (made₁ : before₁.ensureDirectory (store.userDirectory user) directory = .ok t₁)
    (made₂ : before₂.ensureDirectory (store.userDirectory user) directory = .ok t₂) (name : Text) (fuel drawn : Nat) :
    Scratch.freePath t₁ (store.home directory user) name draw fuel drawn =
      Scratch.freePath t₂ (store.home directory user) name draw fuel drawn := by
  -- A place on a way is taken in both trees.
  have there : ∀ n, t₁.node? ((store.home directory user).child (Scratch.fileName (draw n) name)) = none ↔
      t₂.node? ((store.home directory user).child (Scratch.fileName (draw n) name)) = none := by
    intro n
    by_cases way : store.Way directory ((store.home directory user).child (Scratch.fileName (draw n) name))
    · rw [way.taken rfl made₁, way.taken rfl made₂]
    · exact alike.drawn user name n way
  induction fuel generalizing drawn with
  | zero => rfl
  | succ fuel ih =>
    unfold Scratch.freePath
    cases refused : Tree.unwritablePath? ((store.home directory user).child (Scratch.fileName (draw drawn) name)) with
    | some fault => simp only [refused]
    | none =>
      cases here : t₁.node? ((store.home directory user).child (Scratch.fileName (draw drawn) name)) with
      | none => simp only [refused, here, (there drawn).mp here]
      | some node =>
        cases other : t₂.node? ((store.home directory user).child (Scratch.fileName (draw drawn) name)) with
        | none =>
          rw [(there drawn).mpr other] at here
          cases here
        | some _ =>
          simp only [refused, here, other]
          exact ih (drawn + 1)

end Store.Alike

open Work

variable {ties : Ties} {store : Store}

namespace Scratch

theorem create_agrees (trees : ∀ {directory draw t₁ t₂}, ties.tree directory draw t₁ t₂ → store.Alike directory draw t₁ t₂)
    (user : UserId) (name : Text) :
    Agree (N := N) (Twins ties) (Twins ties.loose) (create store user name) (create store user name) := by
  unfold create
  refine agree_site_bind fun s₁ s₂ twins => ?_
  have same : s₁.trouble.create = s₂.trouble.create ∧ s₁.draw = s₂.draw ∧ s₁.drawn = s₂.drawn ∧
      s₁.directory = s₂.directory := by
    cases twins with
    | intro _ _ _ _ _ _ _ _ _ _ troubles _ _ =>
      cases troubles
      exact ⟨rfl, rfl, rfl, rfl⟩
  have alike : store.Alike s₂.directory s₂.draw s₁.tree s₂.tree := by
    cases twins
    exact trees ‹_›
  rw [same.1, same.2.1, same.2.2.1, same.2.2.2]
  have made := alike.reachDirectory user
  dsimp only
  generalize first : s₁.tree.reachDirectory (store.userDirectory user) s₂.directory = reached₁ at made
  generalize second : s₂.tree.reachDirectory (store.userDirectory user) s₂.directory = reached₂ at made
  obtain ⟨outcome, t₁⟩ := reached₁
  obtain ⟨_, t₂⟩ := reached₂
  obtain ⟨rfl, alike⟩ := made
  cases s₂.trouble.create with
  | some fault => exact (agree_throw fault).widen Twins.loosen
  | none =>
    refine (agree_ofExcept _).bind Twins.loosen fun _ => ?_
    refine ((agree_writes _ _).narrow Twins.loosen).andThen fun _ => ?_
    cases outcome with
    | error fault => exact agree_throw fault
    | ok _ =>
      refine (agree_ofExcept _).andThen fun _ => ?_
      dsimp only
      rw [alike.freePath (Tree.ensureDirectory_ok_iff.mpr first) (Tree.ensureDirectory_ok_iff.mpr second) name]
      refine (agree_ofExcept _).andThen fun ⟨path, drawn⟩ => ?_
      refine Agree.andThen (agree_update fun twins => ?_) fun _ =>
        (agree_log (by decide) _ _ _ _ _ _).andThen fun _ => agree_pure _
      cases twins
      exact .intro _ _ _ _ _ _ _ _ trivial ‹_› ‹_› ‹_› ‹_›

end Scratch

namespace Upload

theorem formOf_agrees (r : Http.Request) : Agree (N := N) (Twins ties) (Twins ties) (formOf r) (formOf r) := by
  refine agree_site_bind fun s₁ s₂ twins => ?_
  have same : s₁.form = s₂.form ∧ s₁.trouble.copy = s₂.trouble.copy ∧ s₁.copies = s₂.copies := by
    cases twins with
    | intro _ _ _ _ _ _ _ _ _ _ troubles _ _ =>
      cases troubles
      exact ⟨rfl, rfl, rfl⟩
  rw [same.1, same.2.1, same.2.2]
  cases s₂.form with
  | some form => exact agree_pure form
  | none =>
    refine Agree.andThen (agree_update fun twins => ?_) fun _ => ?_
    · cases twins
      exact .intro _ _ _ _ _ _ _ _ ‹_› ‹_› ‹_› ‹_› ‹_›
    · cases (readForm s₂.trouble.copy s₂.copies r).ending with
      | complete => exact agree_pure _
      | unreadable why => exact (agree_log (by decide) _ _ _ _ _ _).andThen fun _ => agree_pure _
      | fault fault => exact agree_throw fault

theorem failIf_agrees (fault : Option Fault) :
    Agree (N := N) (Twins ties) (Twins ties) (failIf fault) (failIf fault) := by
  cases fault with
  | none => exact agree_pure ()
  | some fault => exact agree_throw fault

theorem copy_agrees (bytes : List UInt8) (f : ScratchFile) :
    Agree (N := N) (Twins ties.loose) (Twins ties.loose) (copy bytes f) (copy bytes f) := by
  refine agree_site_bind fun s₁ s₂ twins => ?_
  have same : s₁.trouble.copy = s₂.trouble.copy ∧ s₁.copies = s₂.copies := by
    cases twins with
    | intro _ _ _ _ _ _ _ _ _ _ troubles _ _ =>
      cases troubles
      exact ⟨rfl, rfl⟩
  rw [same.1, same.2]
  refine Agree.andThen (agree_update fun twins => ?_) fun _ => ?_
  · cases twins
    exact .intro _ _ _ _ _ _ _ _ trivial ‹_› ‹_› ‹_› ‹_›
  · cases s₂.trouble.copy s₂.copies with
    | none => exact agree_ofExcept _
    | some broken => exact (agree_writes _ _).andThen fun _ => agree_throw _

theorem fill_agrees (bytes : List UInt8) (f : ScratchFile) :
    Agree (N := N) (Twins ties.loose) (Twins ties.loose) (fill bytes f) (fill bytes f) := by
  refine agree_site_bind fun s₁ s₂ twins => ?_
  have same : s₁.trouble.seek = s₂.trouble.seek ∧ s₁.trouble.close = s₂.trouble.close := by
    cases twins with
    | intro _ _ _ _ _ _ _ _ _ _ troubles _ _ =>
      cases troubles
      exact ⟨rfl, rfl⟩
  rw [same.1, same.2]
  refine (failIf_agrees _).andThen fun _ => (copy_agrees bytes f).andThen fun written => ?_
  refine (failIf_agrees _).andThen fun _ => ?_
  exact ((agree_writes _ _).andThen fun _ => agree_pure _).andThen fun _ => agree_pure _

theorem save_agrees (trees : ∀ {directory draw t₁ t₂}, ties.tree directory draw t₁ t₂ → store.Alike directory draw t₁ t₂) (user : UserId)
    {logger₁ logger₂ : Log.Logger} (other₁ : logger₁.name ≠ Log.accessLogger) (other₂ : logger₂.name ≠ Log.accessLogger)
    (r : Http.Request) :
    Agree (N := N) (Twins ties) (Twins ties.loose) (save store user logger₁ r) (save store user logger₂ r) := by
  refine (formOf_agrees r).bind Twins.loosen fun form => ?_
  cases form.file? fileField with
  | none => exact (agree_throw _).widen Twins.loosen
  | some part =>
    refine (Scratch.create_agrees trees user part.fileName).andThen fun f => ?_
    refine (agree_noted (log_noted other₁ _ _ _) (log_noted other₂ _ _ _) (ends_update _) (ends_update _)).andThen fun _ => ?_
    refine (fill_agrees part.content f).attempt.andThen fun outcome => ?_
    cases outcome with
    | error fault => exact (agree_writes _ _).andThen fun _ => agree_throw fault
    | ok written =>
      exact (agree_noted (log_noted other₁ _ _ _) (log_noted other₂ _ _ _) (ends_update _) (ends_update _)).andThen
        fun _ => agree_pure f.path

end Upload

end UploadRelay
