import UploadRelay.Proofs.Files.Leftovers
import UploadRelay.Proofs.Upload.Save
-- What saving an upload leaves behind: directories on the ways to those of users, and one file off these ways where
-- nothing stood at first, unless saving fails.

namespace UploadRelay

open Work

variable {N : Type} {way left : Path → Prop} {base : Tree}

def KeepsGrown (way left : Path → Prop) (base : Tree) (s s' : Site N) : Prop :=
  base.Grown way left s.tree → base.Grown way left s'.tree

theorem keepsGrown_frame : IsFrame (KeepsGrown (N := N) way left base) where
  refl := fun _ grown => grown
  trans := fun first second grown => second (first grown)

namespace Scratch

theorem flush_grows (f : ScratchFile) (fresh : base.node? f.path = none) (named : f.path.names ≠ []) :
    Leaves (KeepsGrown (N := N) way (Tree.orAt left f.path) base) (flush f) := fun s grown =>
  grown.touched fresh (fun _ apart => Tree.node?_put_other apart s.tree _)
    (Or.inr ⟨f.content, Tree.node?_put_same named s.tree _⟩)

theorem remove_grows {path : Path} {t t' : Tree} (fresh : base.node? path = none) (removed : t.remove path = .ok t')
    (grown : base.Grown way (Tree.orAt left path) t) : base.Grown way (Tree.orAt left path) t' := by
  unfold Tree.remove at removed
  split at removed
  · rename_i content there
    cases removed
    refine grown.touched fresh (fun _ apart => Tree.node?_erase_other apart t) (Or.inl ?_)
    have named : path.names ≠ [] := by
      intro none
      rw [Tree.node?, none] at there
      cases there
    rw [Tree.node?_named named]
    exact Tree.find_filter_same path.place t.entries
  · cases removed
  · cases removed

theorem discard_grows (path : Path) (fresh : base.node? path = none) :
    Leaves (KeepsGrown (N := N) way (Tree.orAt left path) base) (discard path) := by
  intro s grown
  rw [discard_tree]
  cases removed : s.tree.remove path with
  | ok t => exact remove_grows fresh removed grown
  | error fault => exact grown

theorem create_grows (store : Store) (user : UserId) (name : Text) {s : Site N}
    (grown : base.Grown (store.Way s.directory) left s.tree) :
    match create store user name s with
    | (.ok f, s') => base.Grown (store.Way s.directory) (Tree.orAt left f.path) s'.tree ∧ base.node? f.path = none ∧
        ¬ store.Way s.directory f.path
    | (.error _, s') => base.Grown (store.Way s.directory) left s'.tree := by
  have made : base.Grown (store.Way s.directory) left (s.tree.reachDirectory (store.userDirectory user) s.directory).2 :=
    grown.reachDirectory fun p towards => ⟨user, towards⟩
  generalize ran : create store user name s = outcome
  cases ran ▸ create_creates store user name s with
  | troubled | refused => exact grown
  | homeless _ _ home =>
    rw [home] at made
    exact made
  | unnamed _ _ home =>
    rw [Tree.ensureDirectory_ok_iff.mp home] at made
    exact made
  | @created t path drawn _ _ home named =>
    rw [Tree.ensureDirectory_ok_iff.mp home] at made
    have new := freePath_drawn named
    obtain ⟨n, place⟩ := new.place
    have off : ¬ store.Way s.directory path := by
      intro way
      cases new.fresh.symm.trans (way.taken place home)
    have fresh := made.absent new.fresh
    refine ⟨?_, fresh, off⟩
    exact (made.widen fun _ may => Or.inl may).touched fresh
      (fun _ apart => Tree.node?_put_other apart t _) (Or.inr ⟨[], Tree.node?_put_same new.named t _⟩)

end Scratch

namespace Upload

theorem copy_grows (bytes : List UInt8) (f : ScratchFile) (fresh : base.node? f.path = none) (named : f.path.names ≠ []) :
    Leaves (KeepsGrown (N := N) way (Tree.orAt left f.path) base) (copy bytes f) := by
  refine leaves_site_bind fun s => ?_
  refine bind_at keepsGrown_frame (fun grown => grown) fun _ s' _ => ?_
  cases s.trouble.copy s.copies with
  | none => exact fun grown => grown
  | some broken =>
    exact Leaves.bind keepsGrown_frame (Scratch.flush_grows { f with pieces := broken.1 :: f.pieces } fresh named)
      (fun _ => leaves_throw keepsGrown_frame _) s'

theorem failIf_grows (fault : Option Fault) : Leaves (KeepsGrown (N := N) way left base) (failIf fault) := by
  cases fault with
  | none => exact leaves_pure keepsGrown_frame ()
  | some fault => exact leaves_throw keepsGrown_frame fault

theorem fill_grows (bytes : List UInt8) {f : ScratchFile} (opened : f.isOpen = true) (fresh : base.node? f.path = none)
    (named : f.path.names ≠ []) :
    Leaves (KeepsGrown (N := N) way (Tree.orAt left f.path) base) (fill bytes f) := by
  have frame : IsFrame (KeepsGrown (N := N) way (Tree.orAt left f.path) base) := keepsGrown_frame
  refine leaves_site_bind fun s => ?_
  refine bind_at frame (failIf_grows _ s) fun _ s₁ _ => ?_
  refine bind_at frame (copy_grows bytes f fresh named s₁) fun written s₂ copied => ?_
  have path : written.path = f.path := ((copy_run bytes opened s₁).2 written (by rw [copied])).1
  refine bind_at frame (failIf_grows _ s₂) fun _ s₃ _ => ?_
  have flushes : Leaves (KeepsGrown (N := N) way (Tree.orAt left written.path) base) (Scratch.flush written) :=
    Scratch.flush_grows written (path ▸ fresh) (path ▸ named)
  rw [path] at flushes
  exact Leaves.bind frame (Leaves.bind frame flushes fun _ => leaves_pure frame _) (fun _ => leaves_pure frame _) s₃

theorem fillOrDiscard_grows (user : UserId) (logger : Log.Logger) (part : FilePart) {f : ScratchFile} (opened : f.isOpen = true)
    (fresh : base.node? f.path = none) (named : f.path.names ≠ []) :
    Leaves (KeepsGrown (N := N) way (Tree.orAt left f.path) base) (fillOrDiscard user logger part f) := by
  have frame : IsFrame (KeepsGrown (N := N) way (Tree.orAt left f.path) base) := keepsGrown_frame
  have logs : ∀ message extra, Leaves (KeepsGrown (N := N) way (Tree.orAt left f.path) base)
      (Work.logTo logger .info message extra) := fun _ _ _ grown => grown
  refine Leaves.bind frame (logs _ _) fun _ =>
    Leaves.bind frame (fill_grows part.content opened fresh named).attempt fun outcome => ?_
  cases outcome with
  | error fault => exact Leaves.bind frame (Scratch.discard_grows f.path fresh) fun _ => leaves_throw frame fault
  | ok written => exact Leaves.bind frame (logs _ _) fun _ => leaves_pure frame _

theorem save_grows (store : Store) (user : UserId) (logger : Log.Logger) (r : Http.Request) {s : Site N}
    (grown : base.Grown (store.Way s.directory) left s.tree) :
    match save store user logger r s with
    | (.ok path, s') => base.Grown (store.Way s.directory) (Tree.orAt left path) s'.tree ∧ base.node? path = none ∧
        ¬ store.Way s.directory path
    | (.error _, s') => base.Grown (store.Way s.directory) left s'.tree := by
  obtain ⟨aside, tree, -⟩ := formOf_run r s
  generalize ran : save store user logger r s = outcome
  cases ran ▸ save_saves store user logger r s with
  | unread reads | missing reads =>
    rw [reads] at tree
    show base.Grown _ left _
    exact tree ▸ grown
  | @refused form part fault s₁ s₂ reads found creates =>
    rw [reads] at aside tree
    have creating := Scratch.create_grows store user part.fileName (s := s₁) (aside.directory ▸ tree ▸ grown)
    rw [creates, aside.directory] at creating
    exact creating
  | @made form part f s₁ s₂ reads found creates =>
    rw [reads] at aside tree
    have created := Scratch.create_run store user part.fileName s₁
    have creating := Scratch.create_grows store user part.fileName (s := s₁) (aside.directory ▸ tree ▸ grown)
    rw [creates] at created creating
    rw [aside.directory] at creating
    obtain ⟨grown', fresh, off⟩ := creating
    have finished := fillOrDiscard_run user logger part created.isOpen created.empty created.named s₂
    have after := fillOrDiscard_grows user logger part created.isOpen fresh created.named s₂ grown'
    generalize fillOrDiscard user logger part f s₂ = ran at finished after
    obtain ⟨outcome, s₃⟩ := ran
    obtain ⟨-, ending⟩ := finished
    cases outcome with
    | error fault => exact after.settle (Or.inr ending)
    | ok path =>
      obtain ⟨rfl, -⟩ := ending
      exact ⟨after, fresh, off⟩

end Upload

end UploadRelay
