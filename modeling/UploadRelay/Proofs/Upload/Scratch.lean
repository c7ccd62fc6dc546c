import UploadRelay.Proofs.Files.Tree
import UploadRelay.Proofs.Site.Effects
-- Scratch files: where a new one stands, and what making, filling and deleting it does to the
-- files of the tree.

namespace UploadRelay

open Work

variable {N : Type}

structure Local (s s' : Site N) : Prop where
  posts : s'.posts = s.posts
  turns : s'.turns = s.turns
  trouble : s'.trouble = s.trouble
  draw : s'.draw = s.draw
  directory : s'.directory = s.directory
  cache : s'.cache = s.cache
  clock : s'.clock = s.clock
  requestId : s'.requestId = s.requestId

theorem local_frame : IsFrame (Local (N := N)) where
  refl := fun _ => ⟨rfl, rfl, rfl, rfl, rfl, rfl, rfl, rfl⟩
  trans := fun first second =>
    ⟨second.posts.trans first.posts, second.turns.trans first.turns, second.trouble.trans first.trouble,
      second.draw.trans first.draw, second.directory.trans first.directory, second.cache.trans first.cache, second.clock.trans first.clock,
      second.requestId.trans first.requestId⟩

theorem Local.ofCalm {s s' : Site N} (calm : Calm s s') : Local s s' := by
  cases calm
  exact ⟨rfl, rfl, rfl, rfl, rfl, rfl, rfl, rfl⟩

structure OnlyFile (path : Path) (s s' : Site N) : Prop where
  aside : Local s s'
  form : s'.form = s.form
  elsewhere : ∀ p : Path, p.place ≠ path.place → s'.tree.file? p = s.tree.file? p

theorem onlyFile_frame (path : Path) : IsFrame (OnlyFile (N := N) path) where
  refl := fun s => ⟨local_frame.refl s, rfl, fun _ _ => rfl⟩
  trans := fun first second =>
    ⟨local_frame.trans first.aside second.aside, second.form.trans first.form, fun p apart =>
      (second.elsewhere p apart).trans (first.elsewhere p apart)⟩

theorem OnlyFile.ofCalm {path : Path} {s s' : Site N} (calm : Calm s s') : OnlyFile path s s' := by
  refine ⟨.ofCalm calm, ?_, ?_⟩
  · cases calm
    rfl
  · intro p _
    cases calm
    rfl

namespace Scratch

structure Drawn (t : Tree) (directory : Path) (name : Text) (draw : Nat → Text) (path : Path) : Prop where
  fresh : t.node? path = none
  writable : Tree.unwritablePath? path = none
  place : ∃ n, path = directory.child (fileName (draw n) name)

theorem freePath_drawn {t : Tree} {directory : Path} {name : Text} {draw : Nat → Text} {fuel drawn next : Nat}
    {path : Path} (found : freePath t directory name draw fuel drawn = .ok (path, next)) :
    Drawn t directory name draw path := by
  induction fuel generalizing drawn with
  | zero => cases found
  | succ fuel ih =>
    unfold freePath at found
    cases refused : Tree.unwritablePath? (directory.child (fileName (draw drawn) name)) with
    | some fault =>
      simp only [refused] at found
      cases found
    | none =>
      cases taken : t.node? (directory.child (fileName (draw drawn) name)) with
      | some node =>
        simp only [refused, taken] at found
        exact ih found
      | none =>
        simp only [refused, taken] at found
        split at found
        · cases found
        · cases found
          exact ⟨taken, refused, drawn, rfl⟩

theorem Drawn.named {t : Tree} {directory : Path} {name : Text} {draw : Nat → Text} {path : Path}
    (drawn : Drawn t directory name draw path) : path.names ≠ [] := by
  obtain ⟨n, rfl⟩ := drawn.place
  exact Path.child_named _ _

structure Created (store : Store) (user : UserId) (name : Text) (s s' : Site N) (f : ScratchFile) : Prop where
  only : OnlyFile f.path s s'
  fresh : s.tree.file? f.path = none
  named : f.path.names ≠ []
  writable : Tree.unwritablePath? f.path = none
  checked : checkName name = .ok ()
  place : ∃ n, f.path = (store.home s.directory user).child (fileName (s.draw n) name)
  empty : f.pieces = []
  isOpen : f.isOpen = true

structure FilesKept (s s' : Site N) : Prop where
  aside : Local s s'
  form : s'.form = s.form
  files : ∀ p, s'.tree.file? p = s.tree.file? p

-- Everything that making a scratch file can come to. The directories are made one after the other, and what was
-- made of them stays when the file cannot be made.
inductive Creates (store : Store) (user : UserId) (name : Text) (s : Site N) : Except Fault ScratchFile × Site N → Prop where
  | troubled {fault : Fault} (fails : s.trouble.create = some fault) : Creates store user name s (.error fault, s)
  | refused {fault : Fault} (untroubled : s.trouble.create = none) (checked : checkName name = .error fault) :
      Creates store user name s (.error fault, s)
  | homeless {fault : Fault} {t : Tree} (untroubled : s.trouble.create = none) (checked : checkName name = .ok ())
      (home : s.tree.reachDirectory (store.userDirectory user) s.directory = (.error fault, t)) :
      Creates store user name s (.error fault, { s with tree := t })
  | unnamed {fault : Fault} {t : Tree} (untroubled : s.trouble.create = none) (checked : checkName name = .ok ())
      (home : s.tree.ensureDirectory (store.userDirectory user) s.directory = .ok t)
      (unnamed : freePath t (store.home s.directory user) name s.draw drawLimit s.drawn = .error fault) :
      Creates store user name s (.error fault, { s with tree := t })
  | created {t : Tree} {path : Path} {drawn : Nat} (untroubled : s.trouble.create = none) (checked : checkName name = .ok ())
      (home : s.tree.ensureDirectory (store.userDirectory user) s.directory = .ok t)
      (named : freePath t (store.home s.directory user) name s.draw drawLimit s.drawn = .ok (path, drawn))
      (records : List Log.Entry) :
      Creates store user name s (.ok ⟨path, [], true⟩, { s with tree := t.put path (.file []), drawn, records })

theorem create_creates (store : Store) (user : UserId) (name : Text) (s : Site N) :
    Creates store user name s (create store user name s) := by
  unfold create
  simp only [bind_run, site_run]
  cases fails : s.trouble.create with
  | some fault => exact .troubled fails
  | none =>
    simp only [bind_run, ofExcept_run]
    cases checked : checkName name with
    | error fault => exact .refused fails checked
    | ok _ =>
      simp only [setTree, update_run]
      cases home : s.tree.reachDirectory (store.userDirectory user) s.directory with
      | mk made t =>
        cases made with
        | error fault => exact .homeless fails checked home
        | ok _ =>
          have ensured := Tree.ensureDirectory_ok_iff.mpr home
          cases named : freePath t (store.home s.directory user) name s.draw drawLimit s.drawn with
          | error fault => exact .unnamed fails checked ensured named
          | ok found => exact .created fails checked ensured named _

theorem create_run (store : Store) (user : UserId) (name : Text) (s : Site N) :
    match create store user name s with
    | (.ok f, s') => Created store user name s s' f
    | (.error _, s') => FilesKept s s' := by
  have files : ∀ p, (s.tree.reachDirectory (store.userDirectory user) s.directory).2.file? p = s.tree.file? p :=
    s.tree.reachDirectory_files _ _
  generalize ran : create store user name s = outcome
  cases ran ▸ create_creates store user name s with
  | troubled | refused => exact ⟨local_frame.refl s, rfl, fun _ => rfl⟩
  | homeless _ _ home =>
    rw [home] at files
    exact ⟨⟨rfl, rfl, rfl, rfl, rfl, rfl, rfl, rfl⟩, rfl, files⟩
  | unnamed _ _ home =>
    rw [Tree.ensureDirectory_ok_iff.mp home] at files
    exact ⟨⟨rfl, rfl, rfl, rfl, rfl, rfl, rfl, rfl⟩, rfl, files⟩
  | @created t path drawn _ checked home named =>
    rw [Tree.ensureDirectory_ok_iff.mp home] at files
    have new := freePath_drawn named
    refine ⟨⟨⟨rfl, rfl, rfl, rfl, rfl, rfl, rfl, rfl⟩, rfl, ?_⟩, ?_, new.named, new.writable, checked, new.place, rfl, rfl⟩
    · intro p apart
      exact (Tree.file?_put_other apart t _).trans (files p)
    · exact (files path).symm.trans (Tree.file?_none_of_node new.fresh)

theorem flush_only (f : ScratchFile) : Leaves (OnlyFile (N := N) f.path) (flush f) := fun s =>
  ⟨⟨rfl, rfl, rfl, rfl, rfl, rfl, rfl, rfl⟩, rfl, fun _ apart => Tree.file?_put_other apart s.tree _⟩

theorem discard_tree (path : Path) (s : Site N) :
    (discard path s).2.tree = match s.tree.remove path with
      | .ok t => t
      | .error _ => s.tree := rfl

theorem discard_only (path : Path) : Leaves (OnlyFile (N := N) path) (discard path) := by
  intro s
  refine ⟨⟨rfl, rfl, rfl, rfl, rfl, rfl, rfl, rfl⟩, rfl, ?_⟩
  intro p apart
  rw [discard_tree]
  rcases s.tree.remove_cases path with removed | ⟨⟨fault, refused⟩, -⟩
  · rw [removed]
    exact Tree.file?_erase_other apart s.tree
  · rw [refused]

theorem discard_gone (path : Path) (s : Site N) : (discard path s).2.tree.file? path = none := by
  rw [discard_tree]
  rcases s.tree.remove_cases path with removed | ⟨⟨fault, refused⟩, absent⟩
  · rw [removed]
    exact Tree.file?_erase_same s.tree path
  · rw [refused]
    exact absent

end Scratch

end UploadRelay
