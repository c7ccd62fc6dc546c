import UploadRelay.Backend.Sending
import UploadRelay.Proofs.Files.Tree
import UploadRelay.Proofs.Site.Effects
-- What sending a body does to the site: posts of that body, one turn of the backend for each,
-- and between them only calm work.

namespace UploadRelay.Backend

open Work

variable {N : Type}

def turnOf (s : Site N) : Turn := s.turns.headD defaultTurn

def treeAfter (turn : Turn) (body : List UInt8) (t : Tree) : Tree :=
  if turn.removesFile then removeFile body t else t

def afterPost (post : Post) (s : Site N) : Site N :=
  { s with
    posts := s.posts ++ [post]
    turns := s.turns.tail
    tree := treeAfter (turnOf s) post.body s.tree }

-- A stretch of work in which a body is posted so many times; answers may be remembered
-- before, between and behind the posts.
inductive Sends (body : List UInt8) : Site N → List Post → Site N → Prop where
  | quiet {s s' : Site N} (calm : Calm s s') : Sends body s [] s'
  | post {s : Site N} {post : Post} (carries : post.body = body) (sees : post.seen = s.tree) :
      Sends body s [post] (afterPost post s)
  | remembers {s : Site N} (cache : Option (Rpc.Cache N)) : Sends body s [] { s with cache }
  | follows {a b c : Site N} {first second : List Post} (earlier : Sends body a first b) (later : Sends body b second c) :
      Sends body a (first ++ second) c

def Sent (body : List UInt8) (s s' : Site N) : Prop := ∃ posts, Sends body s posts s'

theorem sent_frame (body : List UInt8) : IsFrame (Sent (N := N) body) where
  refl := fun s => ⟨[], .quiet (calm_frame.refl s)⟩
  trans := by
    intro a b c first second
    obtain ⟨posts, earlier⟩ := first
    obtain ⟨more, later⟩ := second
    exact ⟨posts ++ more, .follows earlier later⟩

theorem Sent.ofCalm {body : List UInt8} {s s' : Site N} (calm : Calm s s') : Sent body s s' := ⟨[], .quiet calm⟩

theorem Sends.posts {body : List UInt8} {s s' : Site N} {posts : List Post} (sends : Sends body s posts s') :
    s'.posts = s.posts ++ posts := by
  induction sends with
  | quiet calm =>
    cases calm
    exact (List.append_nil _).symm
  | post => rfl
  | remembers => exact (List.append_nil _).symm
  | follows _ _ first second => rw [second, first, List.append_assoc]

theorem Sends.turns {body : List UInt8} {s s' : Site N} {posts : List Post} (sends : Sends body s posts s') :
    s'.turns = s.turns.drop posts.length := by
  induction sends with
  | quiet calm =>
    cases calm
    rfl
  | post => exact List.drop_one.symm
  | remembers => rfl
  | follows _ _ first second => rw [second, first, List.drop_drop, List.length_append]

theorem Sends.bodies {body : List UInt8} {s s' : Site N} {posts : List Post} (sends : Sends body s posts s') :
    ∀ post ∈ posts, post.body = body := by
  induction sends with
  | quiet =>
    intro post member
    cases member
  | post carries =>
    intro post member
    rw [List.mem_singleton.mp member]
    exact carries
  | remembers =>
    intro post member
    cases member
  | follows _ _ first second =>
    intro post member
    rcases List.mem_append.mp member with here | there
    · exact first post here
    · exact second post there

structure SameBridge (s s' : Site N) : Prop where
  clock : s'.clock = s.clock
  draw : s'.draw = s.draw
  directory : s'.directory = s.directory
  trouble : s'.trouble = s.trouble
  requestId : s'.requestId = s.requestId
  form : s'.form = s.form

theorem Sends.sameBridge {body : List UInt8} {s s' : Site N} {posts : List Post} (sends : Sends body s posts s') :
    SameBridge s s' := by
  induction sends with
  | quiet calm =>
    cases calm
    exact ⟨rfl, rfl, rfl, rfl, rfl, rfl⟩
  | post => exact ⟨rfl, rfl, rfl, rfl, rfl, rfl⟩
  | remembers => exact ⟨rfl, rfl, rfl, rfl, rfl, rfl⟩
  | follows _ _ first second =>
    exact ⟨second.clock.trans first.clock, second.draw.trans first.draw, second.directory.trans first.directory,
      second.trouble.trans first.trouble, second.requestId.trans first.requestId, second.form.trans first.form⟩

-- The backend deletes at most the file that the body names.
theorem treeAfter_elsewhere {body : List UInt8} {path p : Path} (names : postedPath? body = some path)
    (apart : p.place ≠ path.place) (turn : Turn) (t : Tree) : (treeAfter turn body t).file? p = t.file? p := by
  unfold treeAfter
  split
  · unfold removeFile
    simp only [names]
    split
    · exact Tree.file?_erase_other apart t
    · rfl
  · rfl

theorem Sends.elsewhere {body : List UInt8} {s s' : Site N} {posts : List Post} {path p : Path}
    (sends : Sends body s posts s') (names : postedPath? body = some path) (apart : p.place ≠ path.place) :
    s'.tree.file? p = s.tree.file? p := by
  induction sends with
  | quiet calm =>
    cases calm
    rfl
  | @post s post carries sees =>
    subst carries
    exact treeAfter_elsewhere names apart (turnOf s) s.tree
  | remembers => rfl
  | follows _ _ first second => exact second.trans first

def cleared : List Turn → List Post → Tree → Tree
  | turn :: turns, post :: posts, t => cleared turns posts (treeAfter turn post.body t)
  | _, _, t => t

theorem cleared_nil (turns : List Turn) (t : Tree) : cleared turns [] t = t := by
  cases turns <;> rfl

theorem cleared_append (turns : List Turn) (posts more : List Post) (t : Tree) :
    cleared turns (posts ++ more) t = cleared (turns.drop posts.length) more (cleared turns posts t) := by
  induction posts generalizing turns t with
  | nil =>
    rw [cleared_nil]
    rfl
  | cons post posts ih =>
    cases turns with
    | nil => cases more <;> rfl
    | cons turn turns => exact ih turns _

theorem Sends.cleared {body : List UInt8} {s s' : Site N} {posts : List Post} (sends : Sends body s posts s') :
    s'.tree = Backend.cleared s.turns posts s.tree := by
  induction sends with
  | quiet calm => rw [calm.tree, cleared_nil]
  | @post s post carries sees =>
    show treeAfter (turnOf s) post.body s.tree = _
    unfold turnOf
    cases s.turns with
    | nil => rfl
    | cons turn turns => exact (cleared_nil turns _).symm
  | remembers => rw [cleared_nil]
  | follows earlier _ first second => rw [second, first, earlier.turns, cleared_append]

theorem treeAfter_unnamed {body : List UInt8} {t : Tree} (unnamed : ∀ p, postedPath? body = some p → t.file? p = none)
    (turn : Turn) : treeAfter turn body t = t := by
  unfold treeAfter removeFile
  split
  · cases posted : postedPath? body with
    | none => rfl
    | some p => simp only [unnamed p posted]
  · rfl

theorem cleared_unnamed {posts : List Post} {t : Tree}
    (unnamed : ∀ post ∈ posts, ∀ p, postedPath? post.body = some p → t.file? p = none) (turns : List Turn) :
    cleared turns posts t = t := by
  induction posts generalizing turns with
  | nil => exact cleared_nil turns t
  | cons post posts ih =>
    obtain ⟨first, rest⟩ := List.forall_mem_cons.mp unnamed
    cases turns with
    | nil => rfl
    | cons turn turns =>
      show cleared turns posts (treeAfter turn post.body t) = t
      rw [treeAfter_unnamed first]
      exact ih rest turns

theorem cleared_keeping {turns : List Turn} (keeps : ∀ turn ∈ turns, turn.removesFile = false) (posts : List Post)
    (t : Tree) : cleared turns posts t = t := by
  induction turns generalizing posts t with
  | nil => rfl
  | cons turn turns ih =>
    obtain ⟨kept, rest⟩ := List.forall_mem_cons.mp keeps
    cases posts with
    | nil => rfl
    | cons post posts =>
      have same : treeAfter turn post.body t = t := by
        unfold treeAfter
        rw [kept]
        rfl
      show cleared turns posts (treeAfter turn post.body t) = t
      rw [same]
      exact ih rest posts t

def KeepsFile (turns : List Turn) (count : Nat) : Prop := ∀ i < count, (turns.getD i defaultTurn).removesFile = false

theorem KeepsFile.head {s : Site N} {count : Nat} (keeps : KeepsFile s.turns (count + 1)) :
    (turnOf s).removesFile = false := by
  have first := keeps 0 (Nat.succ_pos count)
  unfold turnOf
  cases turns : s.turns with
  | nil => rfl
  | cons turn rest =>
    rw [turns] at first
    exact first

theorem KeepsFile.drop {turns : List Turn} {done count : Nat} (keeps : KeepsFile turns (done + count)) :
    KeepsFile (turns.drop done) count := by
  intro i bound
  have there := keeps (done + i) (by omega)
  rwa [List.getD_eq_getElem?_getD, ← List.getElem?_drop, ← List.getD_eq_getElem?_getD] at there

theorem KeepsFile.fewer {turns : List Turn} {few many : Nat} (keeps : KeepsFile turns many) (fewer : few ≤ many) :
    KeepsFile turns few := fun i bound => keeps i (by omega)

theorem Sends.tree {body : List UInt8} {s s' : Site N} {posts : List Post} (sends : Sends body s posts s')
    (keeps : KeepsFile s.turns posts.length) : s'.tree = s.tree := by
  induction sends with
  | quiet calm =>
    cases calm
    rfl
  | post => simp [afterPost, treeAfter, keeps.head]
  | remembers => rfl
  | follows earlier _ first second =>
    rw [List.length_append] at keeps
    have later := keeps.drop
    rw [← earlier.turns] at later
    exact (second later).trans (first (keeps.fewer (by omega)))

theorem Sends.seen {body : List UInt8} {s s' : Site N} {posts : List Post} (sends : Sends body s posts s')
    {i : Nat} {post : Post} (here : posts[i]? = some post) (keeps : KeepsFile s.turns i) : post.seen = s.tree := by
  induction sends generalizing i with
  | quiet => cases here
  | @post s post' carries sees =>
    cases i with
    | zero =>
      cases here
      exact sees
    | succ i => cases here
  | remembers => cases here
  | @follows a b c front back earlier later first second =>
    by_cases early : i < front.length
    · rw [List.getElem?_append_left early] at here
      exact first here keeps
    · rw [List.getElem?_append_right (by omega)] at here
      have split : i = front.length + (i - front.length) := by omega
      rw [split] at keeps
      have rest := keeps.drop
      rw [← earlier.turns] at rest
      exact (second here rest).trans (earlier.tree (keeps.fewer (by omega)))

theorem turn_run (post : Post) (s : Site N) : (turn post s).2 = afterPost post s := by
  simp only [turn, bind_run, site_run, update_run]
  cases (s.turns.headD defaultTurn).outcome <;> rfl

theorem post_leaves {R : Site N → Site N → Prop} (frame : IsFrame R) (m : Message)
    (one : ∀ s post, post.body = m.body → post.seen = s.tree → R s (afterPost post s)) : Leaves R (post m) := by
  apply Leaves.bind frame (leaves_ofExcept frame _)
  intro address
  apply leaves_site_bind
  intro s
  refine bind_at frame ?_ fun reply s' _ => frame.refl s'
  rw [turn_run]
  exact one s _ rfl rfl

theorem askedBy_calm (r : Reply) : Leaves (Calm (N := N)) (askedBy r) := by
  unfold askedBy
  cases r.header? "Retry-After" with
  | none => exact leaves_pure calm_frame _
  | some value => exact Leaves.bind calm_frame (leaves_site calm_frame) fun _ => leaves_ofExcept calm_frame _

variable [Seconds N]

theorem chooseDelay_calm (p : Retry.Policy N) (attempt : Int) (asked : Option N) :
    Leaves Calm (chooseDelay p attempt asked) := by
  apply Leaves.bind calm_frame (leaves_ofExcept calm_frame _)
  intro top
  refine Leaves.bind calm_frame ?_ fun share => ?_
  · exact leaves_site_bind fun s => .intro _ _ _ _ _ _
  · exact Leaves.bind calm_frame (leaves_ofExcept calm_frame _) fun _ => leaves_pure calm_frame _

theorem pause_calm (p : Retry.Policy N) (m : Message) (attempt : Int) (what : Text) (asked : Option N) :
    Leaves Calm (pause p m attempt what asked) :=
  Leaves.bind calm_frame (chooseDelay_calm p attempt asked) fun _ =>
    Leaves.bind calm_frame (log_calm _ _ _ _) fun _ => fun _ => .intro _ _ _ _ _ _

-- Sending stays in every frame that single posts stay in and what is done between them.
theorem attempts_stays {R : Site N → Site N → Prop} (frame : IsFrame R) (p : Retry.Policy N) (m : Message)
    (posts : Leaves R (post m)) (asks : ∀ reply, Leaves R (askedBy reply))
    (pauses : ∀ attempt what asked, Leaves R (pause p m attempt what asked)) (remaining : Nat) (attempt : Int) :
    Leaves R (attempts p m remaining attempt) := by
  induction remaining generalizing attempt with
  | zero =>
    unfold attempts
    apply Leaves.bind frame posts.attempt
    intro outcome
    cases outcome with
    | error fault => exact leaves_throw frame fault
    | ok reply =>
      simp only
      split
      · exact leaves_pure frame reply
      · exact Leaves.bind frame (asks reply) fun _ => leaves_throw frame _
  | succ remaining ih =>
    unfold attempts
    apply Leaves.bind frame posts.attempt
    intro outcome
    cases outcome with
    | error fault =>
      simp only
      split
      · exact Leaves.bind frame (pauses _ _ _) fun _ => ih _
      · exact leaves_throw frame fault
    | ok reply =>
      simp only
      split
      · exact leaves_pure frame reply
      · exact Leaves.bind frame (asks reply) fun _ => Leaves.bind frame (pauses _ _ _) fun _ => ih _

theorem send_stays {R : Site N → Site N → Prop} (frame : IsFrame R) (policy : Option (Retry.Policy N)) (m : Message)
    (posts : Leaves R (post m)) (asks : ∀ reply, Leaves R (askedBy reply))
    (pauses : ∀ p attempt what asked, Leaves R (pause p m attempt what asked)) : Leaves R (send policy m) := by
  cases policy with
  | none => exact posts
  | some p => exact attempts_stays frame p m posts asks (pauses p) _ 0

theorem send_leaves {R : Site N → Site N → Prop} (frame : IsFrame R) (calm : ∀ {s s'}, Calm s s' → R s s')
    (policy : Option (Retry.Policy N)) (m : Message) (posts : Leaves R (post m)) : Leaves R (send policy m) :=
  send_stays frame policy m posts (fun reply => (askedBy_calm reply).widen calm) fun p attempt what asked =>
    (pause_calm p m attempt what asked).widen calm

theorem send_sent (policy : Option (Retry.Policy N)) (m : Message) : Leaves (Sent m.body) (send policy m) :=
  send_leaves (sent_frame _) Sent.ofCalm policy m
    (post_leaves (sent_frame _) m fun _ _ carries sees => ⟨_, .post carries sees⟩)

end UploadRelay.Backend
