import UploadRelay.Proofs.Rpc.Key
import UploadRelay.Proofs.Upload.Save
-- Where scratch files stand: each one new, under one name directly in the directory of its user, told from the top on
-- and without ways up, and nothing else in the tree touched but for missing directories on the way there. Over any
-- course of making and deleting them no two that are held share a place, and no two users a directory.

namespace UploadRelay

open Work

variable {N : Type}

namespace Store

theorem home_name (store : Store) (directory : Text) (user : UserId) : (store.home directory user).name = user.text := by
  rw [home_child]
  exact Path.child_name _ _

-- Different users have different directories, also as texts, and whatever the working directories were.
theorem home_text_injective {store : Store} (root : store.root.Normal) {directory directory' : Text} {user user' : UserId}
    (same : (store.home directory user).text = (store.home directory' user').text) : user = user' := by
  have back := Path.ofText_text (home_normal root directory user) (store.home_named directory user)
  have back' := Path.ofText_text (home_normal root directory' user') (store.home_named directory' user')
  have homes : store.home directory user = store.home directory' user' := by rw [← back, ← back', same]
  have names := congrArg Path.name homes
  rw [home_name, home_name] at names
  exact UserId.text_injective names

end Store

namespace Scratch

-- A path directly in the directory of a user, which is where the root leads from the working directory. It begins at
-- the top, as that directory does, has no ways up, and is read back from its text, so that no part of its name is
-- taken for another directory.
structure Placed (store : Store) (directory : Text) (user : UserId) (path : Path) : Prop where
  parent : path.parent = store.home directory user
  rooted : Path.leadingSlashes directory ≠ 0 → path.slashes ≠ 0
  straight : Path.up ∉ path.names
  whole : Path.ofText path.text = path

-- What making a scratch file does when it is made.
structure Confined (store : Store) (user : UserId) (name : Text) (s s' : Site N) (f : ScratchFile) : Prop where
  placed : Placed store s.directory user f.path
  named : ∃ n, f.path.name = s.draw n ++ "_" ++ name
  fresh : s.tree.node? f.path = none
  stands : s'.tree.node? f.path = some (.file [])
  home : s'.tree.node? (store.home s.directory user) = some .directory
  elsewhere : ∀ p : Path, p.place ≠ f.path.place → Tree.Reaching (store.userDirectory user) s.directory s.tree s'.tree p
  files : ∀ p : Path, p.place ≠ f.path.place → s'.tree.file? p = s.tree.file? p
  writable : f.isOpen = true
  empty : f.content = []

structure Unmade (store : Store) (user : UserId) (s s' : Site N) : Prop where
  files : ∀ p, s'.tree.file? p = s.tree.file? p
  elsewhere : ∀ p, Tree.Reaching (store.userDirectory user) s.directory s.tree s'.tree p

theorem fileName_parentless {beginning name : Text} : fileName beginning name ≠ Path.up := by
  intro same
  have underscore : CodePoint.ofChar '_' ∈ fileName beginning name := by simp [fileName, Text.ofString]
  rw [same] at underscore
  exact absurd underscore (by decide)

theorem placed_child {store : Store} (root : store.root.Normal) (directory : Text) (user : UserId) {beginning name : Text}
    (whole : CodePoint.ofChar '/' ∉ beginning) (checked : checkName name = .ok ()) :
    Placed store directory user ((store.home directory user).child (fileName beginning name)) where
  parent := Path.child_parent _ _
  rooted := fun absolute => by
    show (store.home directory user).slashes ≠ 0
    rw [Store.home, Path.slashes_absolute]
    split
    · exact absolute
    · assumption
  straight := by
    intro member
    rcases List.mem_append.mp member with above | last
    · exact Path.absolute_straight directory _ above
    · exact fileName_parentless (List.mem_singleton.mp last).symm
  whole := by
    have good := Upload.fileName_good whole checked
    exact Path.ofText_text ((Store.home_normal root directory user).child good) (Path.child_named _ _)

theorem create_places {store : Store} (root : store.root.Normal) (user : UserId) (name : Text) {s : Site N}
    (draws : ∀ n, CodePoint.ofChar '/' ∉ s.draw n) :
    match create store user name s with
    | (.ok f, s') => Confined store user name s s' f
    | (.error _, s') => Unmade store user s s' := by
  have reaching := s.tree.reachDirectory_reaching (store.userDirectory user) s.directory
  have files := s.tree.reachDirectory_files (store.userDirectory user) s.directory
  generalize ran : create store user name s = outcome
  cases ran ▸ create_creates store user name s with
  | troubled | refused => exact ⟨fun _ => rfl, fun _ => Or.inl rfl⟩
  | homeless _ _ home =>
    rw [home] at reaching files
    exact ⟨files, reaching⟩
  | unnamed _ _ home =>
    rw [Tree.ensureDirectory_ok_iff.mp home] at reaching files
    exact ⟨files, reaching⟩
  | @created t path drawn _ checked home named =>
    rw [Tree.ensureDirectory_ok_iff.mp home] at reaching files
    have new := freePath_drawn named
    obtain ⟨n, place⟩ := new.place
    have placed : Placed store s.directory user path := place ▸ placed_child root s.directory user (draws n) checked
    have apart : (store.home s.directory user).place ≠ path.place := by
      intro same
      have length := congrArg List.length (Path.names_of_place same)
      rw [place] at length
      simp [Path.child] at length
    refine ⟨placed, ⟨n, ?_⟩, ?_, Tree.node?_put_same new.named t _, ?_, ?_, ?_, rfl, rfl⟩
    · rw [place, Path.child_name]
      rfl
    · rcases reaching path with kept | made
      · exact kept.symm.trans new.fresh
      · exact made.absent
    · exact (Tree.node?_put_other apart t _).trans (Tree.ensureDirectory_leads home (store.home_towards s.directory user))
    · intro p other
      have kept := Tree.node?_put_other other t (.file [])
      rcases reaching p with same | made
      · exact Or.inl (kept.trans same)
      · exact Or.inr ⟨made.absent, kept.trans made.made, made.way, made.short⟩
    · intro p other
      exact (Tree.file?_put_other other t _).trans (files p)

structure Drawable (t : Tree) (directory : Path) (name : Text) (draw : Nat → Text) (drawn : Nat) : Prop where
  writable : ∀ n, Tree.unwritablePath? (directory.child (fileName (draw n) name)) = none
  short : ∀ n, Tree.nameTooLong (fileName (draw n) name) = false
  free : ∃ k < drawLimit, t.node? (directory.child (fileName (draw (drawn + k)) name)) = none

theorem freePath_free {t : Tree} {directory : Path} {name : Text} {draw : Nat → Text}
    (writable : ∀ n, Tree.unwritablePath? (directory.child (fileName (draw n) name)) = none)
    (short : ∀ n, Tree.nameTooLong (fileName (draw n) name) = false) {fuel drawn k : Nat} (within : k < fuel)
    (free : t.node? (directory.child (fileName (draw (drawn + k)) name)) = none) :
    ∃ found, freePath t directory name draw fuel drawn = .ok found := by
  induction fuel generalizing drawn k with
  | zero => cases within
  | succ fuel ih =>
    have last := directory.child_name (fileName (draw drawn) name)
    unfold freePath
    cases there : t.node? (directory.child (fileName (draw drawn) name)) with
    | none =>
      simp only [writable, there, last, short, Bool.false_eq_true, if_false]
      exact ⟨_, rfl⟩
    | some node =>
      simp only [writable, there]
      cases k with
      | zero =>
        rw [Nat.add_zero, there] at free
        cases free
      | succ k =>
        have behind : drawn + (k + 1) = drawn + 1 + k := by omega
        exact ih (Nat.lt_of_succ_lt_succ within) (behind ▸ free)

def Forbidden (name : Text) : Prop := CodePoint.ofChar '/' ∈ name ∨ CodePoint.ofNat 0 ∈ name

theorem checkName_forbidden {name : Text} (forbidden : Forbidden name) :
    ∃ reason, checkName name = .error (.system "OSError" [.int 22, .str reason, .str name]) := by
  unfold checkName
  by_cases slash : CodePoint.ofChar '/' ∈ name
  · rw [if_pos (List.contains_iff_mem.mpr slash)]
    exact ⟨_, rfl⟩
  · have nul := forbidden.resolve_left slash
    rw [if_neg (by simpa using slash), if_pos (List.contains_iff_mem.mpr nul)]
    exact ⟨_, rfl⟩

theorem checkName_allowed {name : Text} (allowed : ¬ Forbidden name) : checkName name = .ok () := by
  have slash : ¬ name.contains (CodePoint.ofChar '/') = true := fun found =>
    allowed (Or.inl (List.contains_iff_mem.mp found))
  have nul : ¬ name.contains (CodePoint.ofNat 0) = true := fun found =>
    allowed (Or.inr (List.contains_iff_mem.mp found))
  rw [checkName, if_neg slash, if_neg nul]

theorem create_forbidden (store : Store) (user : UserId) {name : Text} (forbidden : Forbidden name) (s : Site N) :
    ∃ fault, create store user name s = (.error fault, s) ∧ (s.trouble.create = none →
      ∃ reason, fault = .system "OSError" [.int 22, .str reason, .str name]) := by
  obtain ⟨reason, refused⟩ := checkName_forbidden forbidden
  generalize ran : create store user name s = outcome
  cases ran ▸ create_creates store user name s with
  | @troubled fault fails =>
    refine ⟨fault, rfl, ?_⟩
    intro untroubled
    rw [untroubled] at fails
    cases fails
  | @refused fault _ checked =>
    refine ⟨fault, rfl, ?_⟩
    intro _
    exact ⟨reason, Except.error.inj (checked.symm.trans refused)⟩
  | homeless _ checked | unnamed _ checked | created _ checked =>
    rw [refused] at checked
    cases checked

structure Unhindered (store : Store) (user : UserId) (name : Text) (s : Site N) : Prop where
  untroubled : s.trouble.create = none
  allowed : ¬ Forbidden name
  clear : Tree.ClearWay s.tree ⟨store.root.slashes, []⟩ (store.root.origin s.directory) (store.userDirectory user).names
  drawable : Drawable (s.tree.reachDirectory (store.userDirectory user) s.directory).2 (store.home s.directory user) name
    s.draw s.drawn

theorem create_unhindered {store : Store} {user : UserId} {name : Text} {s : Site N}
    (unhindered : Unhindered store user name s) : ∃ f s', create store user name s = (.ok f, s') := by
  obtain ⟨t', reached⟩ := Tree.makeDirectories_clear unhindered.clear
  have home' : s.tree.reachDirectory (store.userDirectory user) s.directory = (.ok (), t') := reached
  have drawable := unhindered.drawable
  rw [home'] at drawable
  generalize ran : create store user name s = outcome
  cases ran ▸ create_creates store user name s with
  | troubled fails =>
    rw [unhindered.untroubled] at fails
    cases fails
  | refused _ refused =>
    rw [checkName_allowed unhindered.allowed] at refused
    cases refused
  | homeless _ _ home =>
    rw [home'] at home
    cases home
  | unnamed _ _ home unnamed =>
    have reached' := Tree.ensureDirectory_ok_iff.mp home
    rw [home'] at reached'
    cases reached'
    obtain ⟨k, within, free⟩ := drawable.free
    obtain ⟨found, finds⟩ := freePath_free drawable.writable drawable.short within free
    rw [finds] at unnamed
    cases unnamed
  | created => exact ⟨_, _, rfl⟩

-- A scratch file that is held, and whose it is.
structure Held where
  user : UserId
  path : Path

structure Desk (N : Type) where
  site : Site N
  held : List Held

-- What happens at a desk: a file is made or cannot be made, files are deleted, or something else goes on that
-- leaves the held files standing, such as writing to them or going to another working directory.
inductive Move (store : Store) : Desk N → Desk N → Prop where
  | made {s s' : Site N} {held : List Held} {user : UserId} {name : Text} {f : ScratchFile}
      (creates : create store user name s = (.ok f, s')) : Move store ⟨s, held⟩ ⟨s', ⟨user, f.path⟩ :: held⟩
  | failed {s s' : Site N} {held : List Held} {user : UserId} {name : Text} {fault : Fault}
      (creates : create store user name s = (.error fault, s')) : Move store ⟨s, held⟩ ⟨s', held⟩
  | deleted (s : Site N) (held : List Held) (path : Path) :
      Move store ⟨s, held⟩ ⟨(discard path s).2, held.filter fun h => h.path.place ≠ path.place⟩
  | aside {s s' : Site N} {held : List Held} (stand : ∀ h ∈ held, s'.tree.file? h.path ≠ none)
      (draws : ∀ n, CodePoint.ofChar '/' ∉ s'.draw n) : Move store ⟨s, held⟩ ⟨s', held⟩

inductive Moves (store : Store) : Desk N → Desk N → Prop where
  | none (d : Desk N) : Moves store d d
  | more {d d' d'' : Desk N} (before : Moves store d d') (move : Move store d' d'') : Moves store d d''

-- Each held file stands in the directory that its user had when it was made, and no two of them at one place.
structure Desk.Tidy (store : Store) (d : Desk N) : Prop where
  draws : ∀ n, CodePoint.ofChar '/' ∉ d.site.draw n
  placed : ∀ h ∈ d.held, ∃ directory, Placed store directory h.user h.path
  stand : ∀ h ∈ d.held, d.site.tree.file? h.path ≠ none
  distinct : (d.held.map fun h => h.path.place).Nodup

theorem Move.tidy {store : Store} (root : store.root.Normal) {d d' : Desk N} (move : Move store d d')
    (tidy : d.Tidy store) : d'.Tidy store := by
  cases move with
  | @made s s' held user name f creates =>
    have places := create_places root user name tidy.draws
    have running := create_run store user name s
    rw [creates] at places running
    refine ⟨running.only.aside.draw ▸ tidy.draws, ?_, ?_, ?_⟩
    · intro h member
      rcases List.mem_cons.mp member with rfl | old
      · exact ⟨_, places.placed⟩
      · exact tidy.placed h old
    · intro h member
      by_cases same : h.path.place = f.path.place
      · rw [Tree.file?_of_place same]
        simp [Tree.file?, places.stands]
      · rcases List.mem_cons.mp member with rfl | old
        · exact absurd rfl same
        · rw [places.files h.path same]
          exact tidy.stand h old
    · refine List.nodup_cons.mpr ⟨?_, tidy.distinct⟩
      -- No held file stands at the place of a new one, for nothing does.
      intro member
      obtain ⟨h, old, same⟩ := List.mem_map.mp member
      exact tidy.stand h old ((Tree.file?_of_place same _).trans (Tree.file?_none_of_node places.fresh))
  | @failed s s' held user name fault creates =>
    have running := create_run store user name s
    rw [creates] at running
    refine ⟨running.aside.draw ▸ tidy.draws, tidy.placed, ?_, tidy.distinct⟩
    intro h member
    rw [running.files h.path]
    exact tidy.stand h member
  | deleted s held path =>
    have kept : ∀ h ∈ held.filter (fun h => h.path.place ≠ path.place), h ∈ held ∧ h.path.place ≠ path.place := by
      intro h member
      simpa using List.mem_filter.mp member
    refine ⟨tidy.draws, ?_, ?_, ?_⟩
    · intro h member
      exact tidy.placed h (kept h member).1
    · intro h member
      rw [(discard_only path s).elsewhere h.path (kept h member).2]
      exact tidy.stand h (kept h member).1
    · exact tidy.distinct.sublist (List.filter_sublist.map fun h : Held => h.path.place)
  | aside stand draws => exact ⟨draws, tidy.placed, stand, tidy.distinct⟩

theorem Moves.tidy {store : Store} (root : store.root.Normal) {d d' : Desk N} (moves : Moves store d d')
    (tidy : d.Tidy store) : d'.Tidy store := by
  induction moves with
  | none => exact tidy
  | more _ move ih => exact move.tidy root ih

-- What is known of files that are held at one time.
structure Desk.Separate (d : Desk N) : Prop where
  stand : ∀ h ∈ d.held, d.site.tree.file? h.path ≠ none
  places : (d.held.map fun h => h.path.place).Nodup
  paths : (d.held.map fun h => h.path.text).Nodup
  directories : ∀ h ∈ d.held, ∀ h' ∈ d.held, h.user ≠ h'.user → h.path.parent.text ≠ h'.path.parent.text

theorem Desk.Tidy.separate {store : Store} (root : store.root.Normal) {d : Desk N} (tidy : d.Tidy store) : d.Separate where
  stand := tidy.stand
  places := tidy.distinct
  paths := by
    have back : (d.held.map fun h => h.path.text).map (fun t => (Path.ofText t).place) = d.held.map fun h => h.path.place := by
      rw [List.map_map]
      refine List.map_congr_left fun h member => ?_
      obtain ⟨directory, placed⟩ := tidy.placed h member
      exact congrArg Path.place placed.whole
    have read : ((d.held.map fun h => h.path.text).map fun t => (Path.ofText t).place).Nodup := back ▸ tidy.distinct
    exact List.Pairwise.of_map _ (fun _ _ apart same => apart (congrArg (fun t => (Path.ofText t).place) same)) read
  directories := by
    intro h member h' member' apart same
    obtain ⟨directory, placed⟩ := tidy.placed h member
    obtain ⟨directory', placed'⟩ := tidy.placed h' member'
    rw [placed.parent, placed'.parent] at same
    exact apart (Store.home_text_injective root same)

-- A scratch file is confined, new and the only one touched, or none is made, as of a name that could lead elsewhere;
-- where nothing is in the way it is made. Files that are held together are apart.
theorem create_confined (root : Text) (user : UserId) (name : Text) (s : Site N)
    (draws : ∀ n, CodePoint.ofChar '/' ∉ s.draw n) :
    (match create ⟨.ofText root⟩ user name s with
      | (.ok f, s') => Confined ⟨.ofText root⟩ user name s s' f
      | (.error _, s') => Unmade ⟨.ofText root⟩ user s s') ∧
      (Forbidden name → ∃ fault, create ⟨.ofText root⟩ user name s = (.error fault, s) ∧ (s.trouble.create = none →
        ∃ reason, fault = .system "OSError" [.int 22, .str reason, .str name])) ∧
      (Unhindered ⟨.ofText root⟩ user name s → ∃ f s', create ⟨.ofText root⟩ user name s = (.ok f, s')) ∧
      ∀ d, Moves ⟨.ofText root⟩ ⟨s, []⟩ d → d.Separate := by
  have normal : (Path.ofText root).Normal := Path.normal_ofText root
  refine ⟨create_places normal user name draws, fun forbidden => create_forbidden _ user forbidden s,
    fun unhindered => create_unhindered unhindered, ?_⟩
  intro d moves
  have start : Desk.Tidy ⟨.ofText root⟩ ⟨s, []⟩ := ⟨draws, by simp, by simp, List.nodup_nil⟩
  exact (moves.tidy normal start).separate normal

-- A user who comes back under a beginning that is taken, with a name that could lead upwards. The root is counted
-- from the working directory, and goes astray first.
def busyStore : Store := ⟨.ofText "new/../uploads"⟩

def busySite : Site Num :=
  { Site.new ⟨[(.ofText "/srv", .directory), (.ofText "/srv/uploads", .directory), (.ofText "/srv/uploads/7", .directory),
      (.ofText "/srv/uploads/7/k3_..", .file [1])]⟩ (.int 0) 0 (fun n => if n = 0 then "k3" else "k4") with
    directory := "/srv" }

theorem busySite_draws (n : Nat) : busySite.draw n = "k3" ∨ busySite.draw n = "k4" := by
  show (if n = 0 then ("k3" : Text) else "k4") = "k3" ∨ (if n = 0 then ("k3" : Text) else "k4") = "k4"
  split
  · exact Or.inl rfl
  · exact Or.inr rfl

theorem busySite_unhindered : Unhindered busyStore (.number 7) ".." busySite where
  untroubled := rfl
  allowed := by
    rintro (slash | nul)
    · exact absurd slash (by decide)
    · exact absurd nul (by decide)
  clear := by
    have names : (busyStore.userDirectory (.number 7)).names = (["new", "..", "uploads", "7"] : List Text) := by
      decide +kernel
    rw [names]
    simp only [Tree.clearWay_cons_iff]
    refine ⟨by decide +kernel, fun _ => by decide +kernel, by decide +kernel, fun down => absurd rfl down,
      by decide +kernel, fun _ => by decide +kernel, by decide +kernel, fun _ => by decide +kernel, Tree.clearWay_nil _ _ _⟩
  drawable := by
    refine ⟨?_, ?_, 1, by decide, by decide +kernel⟩
    · intro n
      rcases busySite_draws n with same | same <;> rw [same] <;> decide +kernel
    · intro n
      rcases busySite_draws n with same | same <;> rw [same] <;> decide +kernel

def pathTextOf (outcome : Except Fault ScratchFile) : Option Text := outcome.toOption.map fun f => f.path.text

theorem busySite_confined :
    Unhindered busyStore (.number 7) ".." busySite ∧
      (∃ fault, create busyStore (.number 7) "../8/x" busySite = (.error fault, busySite)) ∧
      ∃ f s' d, create busyStore (.number 7) ".." busySite = (.ok f, s') ∧ f.path.text = "/srv/uploads/7/k4_.." ∧
        Confined busyStore (.number 7) ".." busySite s' f ∧ Moves busyStore ⟨busySite, []⟩ d ∧
        d.held.length = 2 ∧ d.Separate := by
  have draws : ∀ n, CodePoint.ofChar '/' ∉ busySite.draw n := by
    intro n
    rcases busySite_draws n with same | same <;> rw [same] <;> decide
  have leading : Forbidden "../8/x" := Or.inl (by decide)
  obtain ⟨-, refuses, -, -⟩ := create_confined "new/../uploads" (.number 7) "../8/x" busySite draws
  obtain ⟨fault, refused, -⟩ := refuses leading
  obtain ⟨single, -, makes, course⟩ := create_confined "new/../uploads" (.number 7) ".." busySite draws
  obtain ⟨f, s₁, ran⟩ := makes busySite_unhindered
  have first : pathTextOf (create busyStore (.number 7) ".." busySite).1 = some "/srv/uploads/7/k4_.." := by decide +kernel
  have second : pathTextOf (create busyStore (.number 8) "." (create busyStore (.number 7) ".." busySite).2).1 =
      some "/srv/uploads/8/k4_." := by decide +kernel
  change create busyStore (.number 7) ".." busySite = (.ok f, s₁) at ran
  change match create busyStore (.number 7) ".." busySite with
    | (.ok f, s') => Confined busyStore (.number 7) ".." busySite s' f
    | (.error _, s') => Unmade busyStore (.number 7) busySite s' at single
  rw [ran] at single first second
  generalize again : create busyStore (.number 8) "." s₁ = outcome at second
  obtain ⟨made, s₂⟩ := outcome
  cases made with
  | error fault => cases second
  | ok g =>
    have moves : Moves busyStore ⟨busySite, []⟩ ⟨s₂, [⟨.number 8, g.path⟩, ⟨.number 7, f.path⟩]⟩ :=
      .more (.more (.none _) (.made ran)) (.made again)
    exact ⟨busySite_unhindered, ⟨fault, refused⟩, f, s₁, _, ran, Option.some.inj first, single, moves, rfl, course _ moves⟩

end Scratch

end UploadRelay
