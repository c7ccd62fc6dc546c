import UploadRelay.Proofs.Json.Strings
import UploadRelay.Proofs.Upload.Scratch
import UploadRelay.Proofs.Upload.Ways
import UploadRelay.Upload.Save
-- Saving the file of an upload: a new file with exactly the bytes of the file part, or none.

namespace UploadRelay.Upload

open Work

variable {N : Type}

theorem copyPieces_all {fuel : Nat} {bytes : List UInt8} {f : ScratchFile} (opened : f.isOpen = true)
    (enough : bytes.length ≤ fuel * pieceBytes) :
    ∃ f', copyPieces fuel bytes f = .ok f' ∧ f'.path = f.path ∧ f'.content = f.content ++ bytes ∧ f'.isOpen = true := by
  induction fuel generalizing bytes f with
  | zero =>
    have none : bytes = [] := List.length_eq_zero_iff.mp (by omega)
    exact ⟨f, rfl, rfl, by rw [none, List.append_nil], opened⟩
  | succ fuel ih =>
    unfold copyPieces
    split
    · rename_i empty
      refine ⟨f, rfl, rfl, ?_, opened⟩
      rw [List.isEmpty_iff.mp empty, List.append_nil]
    · rename_i more
      have rest : (bytes.drop pieceBytes).length ≤ fuel * pieceBytes := by
        rw [List.length_drop]
        simp only [pieceBytes] at enough ⊢
        omega
      obtain ⟨f', copied, path, content, stillOpen⟩ :=
        ih (f := { f with pieces := bytes.take pieceBytes :: f.pieces }) opened rest
      rw [ScratchFile.write, if_pos opened]
      refine ⟨f', copied, path, ?_, stillOpen⟩
      rw [content]
      simp [ScratchFile.content]

theorem copyAll_all (bytes : List UInt8) {f : ScratchFile} (opened : f.isOpen = true) :
    ∃ f', copyAll bytes f = .ok f' ∧ f'.path = f.path ∧ f'.content = f.content ++ bytes ∧ f'.isOpen = true := by
  apply copyPieces_all opened
  simp only [pieceBytes]
  omega

-- What filling a scratch file ends with: all of the bytes are in the tree, or a fault and
-- nothing but that file touched.
theorem copy_run (bytes : List UInt8) {f : ScratchFile} (opened : f.isOpen = true) (s : Site N) :
    OnlyFile f.path s (copy bytes f s).2 ∧
      ∀ f', (copy bytes f s).1 = .ok f' → f'.path = f.path ∧ f'.content = f.content ++ bytes := by
  unfold copy
  simp only [bind_run, site_run, update_run]
  cases s.trouble.copy s.copies with
  | none =>
    obtain ⟨f', copied, path, content, -⟩ := copyAll_all bytes opened
    refine ⟨⟨⟨rfl, rfl, rfl, rfl, rfl, rfl, rfl, rfl⟩, rfl, fun _ _ => rfl⟩, ?_⟩
    intro g outcome
    have same : f' = g := Except.ok.inj (copied.symm.trans outcome)
    rw [← same]
    exact ⟨path, content⟩
  | some broken =>
    obtain ⟨written, fault⟩ := broken
    refine ⟨⟨⟨rfl, rfl, rfl, rfl, rfl, rfl, rfl, rfl⟩, rfl, fun _ apart => Tree.file?_put_other apart s.tree _⟩, ?_⟩
    intro g outcome
    cases outcome

theorem failIf_run (fault : Option Fault) (s : Site N) : (failIf fault s).2 = s := by
  cases fault <;> rfl

theorem fill_run (bytes : List UInt8) {f : ScratchFile} (opened : f.isOpen = true) (empty : f.pieces = [])
    (named : f.path.names ≠ []) (s : Site N) :
    OnlyFile f.path s (fill bytes f s).2 ∧
      ∀ count, (fill bytes f s).1 = .ok count → (fill bytes f s).2.tree.file? f.path = some bytes := by
  have frame := onlyFile_frame (N := N) f.path
  have copied := copy_run bytes opened s
  have none : f.content = [] := by simp [ScratchFile.content, empty]
  unfold fill
  simp only [bind_run, site_run]
  cases s.trouble.seek with
  | some fault => exact ⟨frame.refl s, fun _ outcome => by cases outcome⟩
  | none =>
    simp only [failIf, pure_run]
    generalize copy bytes f s = ran at copied
    obtain ⟨outcome, s'⟩ := ran
    cases outcome with
    | error fault => exact ⟨copied.1, fun _ outcome => by cases outcome⟩
    | ok f' =>
      obtain ⟨path, content⟩ := copied.2 f' rfl
      cases s.trouble.close with
      | some fault => exact ⟨copied.1, fun _ outcome => by cases outcome⟩
      | none =>
        have closing := Scratch.flush_only (N := N) f' s'
        rw [path] at closing
        refine ⟨frame.trans copied.1 closing, ?_⟩
        intro count _
        show (s'.tree.put f'.path (.file f'.content)).file? f.path = some bytes
        rw [path, content, none, List.nil_append]
        exact Tree.file?_put_same named s'.tree bytes

theorem formOf_run (r : Http.Request) (s : Site N) :
    Local s (formOf r s).2 ∧ (formOf r s).2.tree = s.tree ∧
      ∀ form, (formOf r s).1 = .ok form → (formOf r s).2.form = some form := by
  cases known : s.form with
  | some form =>
    simp only [formOf, bind_run, site_run, known, pure_run]
    refine ⟨local_frame.refl s, trivial, ?_⟩
    intro form same
    exact congrArg some (Except.ok.inj same)
  | none =>
    simp only [formOf, bind_run, site_run, known, update_run]
    cases (readForm s.trouble.copy s.copies r).ending with
    | complete =>
      refine ⟨⟨rfl, rfl, rfl, rfl, rfl, rfl, rfl, rfl⟩, rfl, ?_⟩
      intro form same
      cases same
      rfl
    | unreadable why =>
      refine ⟨⟨rfl, rfl, rfl, rfl, rfl, rfl, rfl, rfl⟩, rfl, ?_⟩
      intro form same
      cases same
      rfl
    | fault fault =>
      refine ⟨⟨rfl, rfl, rfl, rfl, rfl, rfl, rfl, rfl⟩, rfl, ?_⟩
      intro form same
      cases same

theorem formOf_outcome {s : Site N} (unread : s.form = none) (r : Http.Request) :
    (formOf r s).1 = match (readForm s.trouble.copy s.copies r).ending with
      | .fault fault => .error fault
      | _ => .ok (readForm s.trouble.copy s.copies r).form := by
  simp only [formOf, bind_run, site_run, unread, update_run]
  cases (readForm s.trouble.copy s.copies r).ending <;> rfl

theorem formOf_known {s : Site N} {form : Form} (known : s.form = some form) (r : Http.Request) :
    formOf r s = (.ok form, s) := by
  simp only [formOf, bind_run, site_run, known, pure_run]

theorem formOf_fresh {s : Site N} (unread : s.form = none) {r : Http.Request} {form : Form} {copies : Nat}
    (reads : readForm s.trouble.copy s.copies r = ⟨form, .complete, copies⟩) :
    formOf r s = (.ok form, { s with form := some form, copies := copies }) := by
  simp only [formOf, bind_run, site_run, unread, update_run, reads, pure_run]

-- A saved upload: the bytes of the file part stand at a path where no file was.
structure Saved (store : Store) (user : UserId) (part : FilePart) (s s' : Site N) (path : Path) : Prop where
  aside : Local s s'
  fresh : s.tree.file? path = none
  stored : s'.tree.file? path = some part.content
  elsewhere : ∀ p : Path, p.place ≠ path.place → s'.tree.file? p = s.tree.file? p
  writable : Tree.unwritablePath? path = none
  checked : Scratch.checkName part.fileName = .ok ()
  place : ∃ n, path = (store.home s.directory user).child (Scratch.fileName (s.draw n) part.fileName)

def fillOrDiscard (user : UserId) (logger : Log.Logger) (part : FilePart) (f : ScratchFile) : Work N Path := do
  Work.logTo logger .info ("processing uploaded file " ++ part.fileName) [("user_id", user.json)]
  match ← Work.attempt (fill part.content f) with
  | .error fault =>
    Scratch.discard f.path
    throw fault
  | .ok written =>
    Work.logTo logger .info ("saved uploaded file " ++ f.path.text ++ " (" ++ Text.ofNat written ++
      " bytes written)") [("user_id", user.json)]
    return f.path

theorem fillOrDiscard_run (user : UserId) (logger : Log.Logger) (part : FilePart) {f : ScratchFile}
    (opened : f.isOpen = true) (empty : f.pieces = []) (named : f.path.names ≠ []) (s : Site N) :
    OnlyFile f.path s (fillOrDiscard user logger part f s).2 ∧
      match (fillOrDiscard user logger part f s).1 with
      | .ok path => path = f.path ∧ (fillOrDiscard user logger part f s).2.tree.file? f.path = some part.content
      | .error _ => (fillOrDiscard user logger part f s).2.tree.file? f.path = none := by
  have frame := onlyFile_frame (N := N) f.path
  obtain ⟨s₁, begun, calm⟩ := logTo_run logger .info ("processing uploaded file " ++ part.fileName)
    [("user_id", user.json)] s
  have filled := fill_run part.content opened empty named s₁
  simp only [fillOrDiscard, bind_run, begun, attempt_run]
  generalize fill part.content f s₁ = ran at filled
  obtain ⟨outcome, s₂⟩ := ran
  have sofar := frame.trans (.ofCalm calm) filled.1
  cases outcome with
  | error fault =>
    exact ⟨frame.trans sofar (Scratch.discard_only f.path s₂), Scratch.discard_gone f.path s₂⟩
  | ok written =>
    obtain ⟨s₃, ended, quiet⟩ := logTo_run logger .info ("saved uploaded file " ++ f.path.text ++ " (" ++
      Text.ofNat written ++ " bytes written)") [("user_id", user.json)] s₂
    have stored := filled.2 written rfl
    simp only [bind_run, ended]
    refine ⟨frame.trans sofar (.ofCalm quiet), rfl, ?_⟩
    cases quiet
    exact stored

-- The ways that saving goes: no form is read, the form has no file, no scratch file is made, or one is made and filled.
inductive Saves (store : Store) (user : UserId) (logger : Log.Logger) (r : Http.Request) (s : Site N) :
    Except Fault Path × Site N → Prop where
  | unread {fault : Fault} {s₁ : Site N} (reads : formOf r s = (.error fault, s₁)) :
      Saves store user logger r s (.error fault, s₁)
  | missing {form : Form} {s₁ : Site N} (reads : formOf r s = (.ok form, s₁)) (absent : form.file? fileField = none) :
      Saves store user logger r s (.error missingFile, s₁)
  | refused {form : Form} {part : FilePart} {fault : Fault} {s₁ s₂ : Site N} (reads : formOf r s = (.ok form, s₁))
      (found : form.file? fileField = some part)
      (creates : Scratch.create store user part.fileName s₁ = (.error fault, s₂)) :
      Saves store user logger r s (.error fault, s₂)
  | made {form : Form} {part : FilePart} {f : ScratchFile} {s₁ s₂ : Site N} (reads : formOf r s = (.ok form, s₁))
      (found : form.file? fileField = some part) (creates : Scratch.create store user part.fileName s₁ = (.ok f, s₂)) :
      Saves store user logger r s (fillOrDiscard user logger part f s₂)

theorem save_saves (store : Store) (user : UserId) (logger : Log.Logger) (r : Http.Request) (s : Site N) :
    Saves store user logger r s (save store user logger r s) := by
  unfold save
  rw [bind_run]
  cases reads : formOf r s with
  | mk outcome s₁ =>
    cases outcome with
    | error fault => exact .unread reads
    | ok form =>
      cases found : form.file? fileField with
      | none =>
        simp only [found]
        exact .missing reads found
      | some part =>
        simp only [found]
        rw [bind_run]
        cases creates : Scratch.create store user part.fileName s₁ with
        | mk outcome s₂ =>
          cases outcome with
          | error fault => exact .refused reads found creates
          | ok f => exact .made reads found creates

theorem save_run (store : Store) (user : UserId) (logger : Log.Logger) (r : Http.Request) (s : Site N) :
    match save store user logger r s with
    | (.ok path, s') => ∃ form part, (formOf r s).1 = .ok form ∧ s'.form = some form ∧
        form.file? fileField = some part ∧ Saved store user part s s' path
    | (.error _, s') => Local s s' ∧ ∀ p, s'.tree.file? p = s.tree.file? p := by
  obtain ⟨aside, tree, known⟩ := formOf_run r s
  generalize ran : save store user logger r s = outcome
  cases ran ▸ save_saves store user logger r s with
  | unread reads | missing reads =>
    rw [reads] at aside tree
    exact ⟨aside, fun p => congrArg (Tree.file? · p) tree⟩
  | @refused form part fault s₁ s₂ reads found creates =>
    rw [reads] at aside tree
    have creating := Scratch.create_run store user part.fileName s₁
    rw [creates] at creating
    exact ⟨local_frame.trans aside creating.aside,
      fun p => (creating.files p).trans (congrArg (Tree.file? · p) tree)⟩
  | @made form part f s₁ s₂ reads found creates =>
    rw [reads] at aside tree known
    have creating := Scratch.create_run store user part.fileName s₁
    rw [creates] at creating
    have finishing := fillOrDiscard_run user logger part creating.isOpen creating.empty creating.named s₂
    generalize fillOrDiscard user logger part f s₂ = ran at finishing
    obtain ⟨outcome, s₃⟩ := ran
    obtain ⟨only, ending⟩ := finishing
    have aside' := local_frame.trans aside (local_frame.trans creating.only.aside only.aside)
    have files : ∀ p, s₁.tree.file? p = s.tree.file? p := fun p => congrArg (Tree.file? · p) tree
    have elsewhere : ∀ p : Path, p.place ≠ f.path.place → s₃.tree.file? p = s.tree.file? p := fun p apart =>
      (only.elsewhere p apart).trans ((creating.only.elsewhere p apart).trans (files p))
    have fresh : s.tree.file? f.path = none := (files f.path).symm.trans creating.fresh
    cases outcome with
    | error fault =>
      refine ⟨aside', ?_⟩
      intro p
      by_cases same : p.place = f.path.place
      · rw [Tree.file?_of_place same, Tree.file?_of_place same, fresh]
        exact ending
      · exact elsewhere p same
    | ok path =>
      obtain ⟨same, stored⟩ := ending
      subst same
      have form' : s₃.form = some form := only.form.trans (creating.only.form.trans (known form rfl))
      refine ⟨form, part, congrArg Prod.fst reads, form', found,
        ⟨aside', fresh, stored, elsewhere, creating.writable, creating.checked, ?_⟩⟩
      rw [← aside.draw, ← aside.directory]
      exact creating.place

theorem fileName_good {beginning name : Text} (whole : CodePoint.ofChar '/' ∉ beginning)
    (checked : Scratch.checkName name = .ok ()) : Path.GoodName (Scratch.fileName beginning name) := by
  have nameWhole : CodePoint.ofChar '/' ∉ name := by
    intro member
    unfold Scratch.checkName at checked
    rw [if_pos (List.contains_iff_mem.mpr member)] at checked
    cases checked
  have underscore : CodePoint.ofChar '_' ∈ Scratch.fileName beginning name := by
    simp [Scratch.fileName, Text.ofString]
  refine ⟨?_, ?_⟩
  · have some : Scratch.fileName beginning name ≠ [] := List.ne_nil_of_mem underscore
    have dot : Scratch.fileName beginning name ≠ [CodePoint.ofChar '.'] := by
      intro same
      rw [same] at underscore
      exact absurd (List.mem_singleton.mp underscore) (by decide)
    simp [Path.isName, some, dot]
  · intro member
    rcases List.mem_append.mp member with front | back
    · rcases List.mem_append.mp front with drawn | mark
      · exact whole drawn
      · exact absurd (List.mem_singleton.mp mark) (by decide)
    · exact nameWhole back

theorem Saved.named {store : Store} {user : UserId} {part : FilePart} {s s' : Site N} {path : Path}
    (saved : Saved store user part s s' path) : path.names ≠ [] := by
  obtain ⟨n, rfl⟩ := saved.place
  exact Path.child_named _ _

theorem Saved.normal {store : Store} {user : UserId} {part : FilePart} {s s' : Site N} {path : Path}
    (saved : Saved store user part s s' path) (root : store.root.Normal)
    (draws : ∀ n, CodePoint.ofChar '/' ∉ s.draw n) : path.Normal := by
  obtain ⟨n, rfl⟩ := saved.place
  exact (Store.home_normal root s.directory user).child (fileName_good (draws n) saved.checked)

theorem Saved.unpaired {store : Store} {user : UserId} {part : FilePart} {s s' : Site N} {path : Path}
    (saved : Saved store user part s s' path) : Json.Unpaired path.text := by
  apply Json.paired_of_plain
  intro c member
  have writable := saved.writable
  unfold Tree.unwritablePath? Fault.unwritableRun? at writable
  cases found : path.text.findIdx? Tree.hasNoForm with
  | some start =>
    rw [found] at writable
    cases writable
  | none =>
    have form := List.findIdx?_eq_none_iff.mp found c member
    simp only [Tree.hasNoForm, Tree.isRawByte, CodePoint.isSurrogate, Bool.and_eq_false_iff, Bool.not_eq_false',
      Bool.and_eq_true, decide_eq_true_eq, decide_eq_false_iff_not] at form
    simp only [CodePoint.isHighSurrogate, Bool.and_eq_false_iff, decide_eq_false_iff_not]
    omega

end UploadRelay.Upload
