import UploadRelay.Proofs.Service.Leftovers
import UploadRelay.Proofs.Service.Twins
-- Requests do not influence one another. Without a cache a request is answered behind any others as it is by a
-- service that begins with it, and behind every response the id of the request in hand is what it was.

namespace UploadRelay.Service

open Work Backend

variable {N : Type}

-- What the surroundings give for one request: the time, what is drawn, how the backends answer and what goes
-- wrong. What is drawn and what is copied are counted from the beginning of the request.
structure Surroundings (N : Type) where
  clock : N
  now : Calendar.Moment
  shares : List N
  draw : Nat → Text
  freshIds : List Text
  turns : List Turn
  trouble : Trouble
  accessLevel : Int

def Surroundings.at (g : Surroundings N) (s : Site N) : Site N :=
  { s with
    clock := g.clock
    now := g.now
    shares := g.shares
    draw := g.draw
    drawn := 0
    freshIds := g.freshIds
    turns := g.turns
    copies := 0
    trouble := g.trouble
    accessLevel := g.accessLevel }

abbrev History (N : Type) := List (Surroundings N × Http.Request)

-- A new scratch file is not named like a file that was left behind: none of the beginnings that are drawn is
-- that of a file which came between the two trees.
def NewNames (store : Store) (directory : Text) (draw : Nat → Text) (before after : Tree) : Prop :=
  ∀ user name n, before.node? ((store.home directory user).child (Scratch.fileName (draw n) name)) = none →
    after.file? ((store.home directory user).child (Scratch.fileName (draw n) name)) = none

theorem grown_alike {store : Store} {directory : Text} {left : Path → Prop} {draw : Nat → Text} {base t : Tree}
    (grown : base.Grown (store.Way directory) left t) (off : ∀ p, left p → ¬ store.Way directory p)
    (new : NewNames store directory draw base t) : store.Alike directory draw base t where
  ways := by
    intro p way
    cases first : base.node? p with
    | some node => exact Or.inl (grown.kept p (by simp [first]))
    | none =>
      rcases grown.extra p first with none | made | ⟨may, -⟩
      · exact Or.inl (none.trans first.symm)
      · exact Or.inr ⟨first, made.directory, made.short⟩
      · exact absurd way (off p may)
  drawn := by
    intro user name n apart
    refine ⟨fun absent => ?_, grown.absent⟩
    rcases grown.extra _ absent with none | made | ⟨-, content, there⟩
    · exact none
    · exact absurd made.onWay apart
    · have gone := new user name n absent
      rw [Tree.file?, there] at gone
      cases gone

theorem newNames_unleft {store : Store} {directory : Text} {base t : Tree}
    (grown : base.Grown (store.Way directory) (fun _ => False) t) (draw : Nat → Text) :
    NewNames store directory draw base t := by
  intro user name n absent
  rcases grown.extra _ absent with none | made | ⟨left, -⟩
  · exact Tree.file?_none_of_node none
  · rw [Tree.file?, made.directory]
  · exact left.elim

namespace App

variable [Seconds N] (app : App N)

def next (s : Site N) (e : Surroundings N × Http.Request) : Site N := (app.serve e.2 (e.1.at s)).2

def after (s : Site N) (history : History N) : Site N := history.foldl app.next s

def spared (s : Site N) (t : Tree) : History N → Tree
  | [] => t
  | e :: rest =>
    spared (app.next s e) (cleared e.1.turns ((app.next s e).posts.drop s.posts.length) t) rest

theorem spared_keeping {history : History N} (keeps : ∀ e ∈ history, ∀ turn ∈ e.1.turns, turn.removesFile = false)
    (s : Site N) (t : Tree) : app.spared s t history = t := by
  induction history generalizing s t with
  | nil => rfl
  | cons e rest ih =>
    obtain ⟨kept, others⟩ := List.forall_mem_cons.mp keeps
    show app.spared (app.next s e) (cleared e.1.turns _ t) rest = t
    rw [cleared_keeping kept]
    exact ih others _ t

theorem next_posts (s : Site N) (e : Surroundings N × Http.Request) :
    ∃ more, (app.next s e).posts = s.posts ++ more := by
  obtain ⟨more, settles⟩ : Settled app.settings.store (fun _ => True) (e.1.at s) (app.serve e.2 (e.1.at s)).2 :=
    app.serve_settled e.2 _
  exact ⟨more, settles.posts⟩

theorem after_posts (s : Site N) (history : History N) : ∃ more, (app.after s history).posts = s.posts ++ more := by
  induction history generalizing s with
  | nil => exact ⟨[], (List.append_nil _).symm⟩
  | cons e rest ih =>
    obtain ⟨more, first⟩ := app.next_posts s e
    obtain ⟨later, second⟩ := ih (app.next s e)
    exact ⟨more ++ later, second.trans (by rw [first, List.append_assoc])⟩

theorem spared_unnamed {history : History N} {s : Site N} {t : Tree}
    (unnamed : ∀ post ∈ (app.after s history).posts.drop s.posts.length, ∀ p, postedPath? post.body = some p →
      t.file? p = none) : app.spared s t history = t := by
  induction history generalizing s with
  | nil => rfl
  | cons e rest ih =>
    obtain ⟨more, first⟩ := app.next_posts s e
    obtain ⟨later, second⟩ := app.after_posts (app.next s e) rest
    have behind : (app.after s (e :: rest)).posts.drop s.posts.length = more ++ later := by
      show (app.after (app.next s e) rest).posts.drop s.posts.length = more ++ later
      rw [second, first, List.append_assoc, List.drop_left]
    rw [behind] at unnamed
    obtain ⟨here, rest'⟩ := List.forall_mem_append.mp unnamed
    show app.spared (app.next s e) (cleared e.1.turns ((app.next s e).posts.drop s.posts.length) t) rest = t
    rw [first, List.drop_left, cleared_unnamed here]
    refine ih ?_
    rw [second, List.drop_left]
    exact rest'

-- Between requests: no cache, no request in hand but the outer one, the working directory from the beginning, and a
-- tree that has grown out of another.
structure Rests (left : Path → Prop) (start requestId : Text) (base : Tree) (s : Site N) : Prop where
  cache : s.cache = none
  form : s.form = none
  requestId : s.requestId = requestId
  directory : s.directory = start
  tree : base.Grown (app.settings.store.Way start) left s.tree

variable {app} {left : Path → Prop} {directory id : Text} {base : Tree} {s : Site N}

theorem Rests.next (rests : app.Rests left directory id base s) (e : Surroundings N × Http.Request)
    (room : ∀ path, ¬ app.settings.store.Way directory path → left path ∨ e.1.trouble.remove = none) :
    app.Rests left directory id (cleared e.1.turns ((app.next s e).posts.drop s.posts.length) base) (app.next s e) := by
  obtain ⟨more, settles⟩ : Settled app.settings.store left (e.1.at s) (app.serve e.2 (e.1.at s)).2 :=
    app.serve_settled e.2 _
  obtain ⟨response, s', served, restored, formless⟩ := app.serve_ends e.2 (e.1.at s)
  have posts : (app.next s e).posts.drop s.posts.length = more := by
    show ((app.serve e.2 (e.1.at s)).2.posts).drop s.posts.length = more
    rw [settles.posts]
    exact List.drop_left' rfl
  refine ⟨settles.cache rests.cache, ?_, ?_, settles.directory.trans rests.directory, ?_⟩
  · show (app.serve e.2 (e.1.at s)).2.form = none
    rw [served]
    exact formless
  · show (app.serve e.2 (e.1.at s)).2.requestId = id
    rw [served]
    exact restored.trans rests.requestId
  · have settling := settles.tree
    have here : (e.1.at s).directory = directory := rests.directory
    rw [here] at settling
    rw [posts]
    exact settling room base rests.tree

theorem Rests.after {history : History N} (rests : app.Rests left directory id base s)
    (room : ∀ e ∈ history, ∀ path, ¬ app.settings.store.Way directory path → left path ∨ e.1.trouble.remove = none) :
    app.Rests left directory id (app.spared s base history) (app.after s history) := by
  induction history generalizing s base with
  | nil => exact rests
  | cons e rest ih =>
    exact ih (rests.next e (room e List.mem_cons_self)) fun e' member => room e' (List.mem_cons_of_mem e member)

omit [Seconds N] in
theorem Rests.twins {s₀ : Site N} (rests : app.Rests left directory id base s)
    (off : ∀ p, left p → ¬ app.settings.store.Way directory p) (cache : s₀.cache = none) (form : s₀.form = none)
    (requestId : s₀.requestId = id) (here : s₀.directory = directory) (g : Surroundings N)
    (new : NewNames app.settings.store directory g.draw base s.tree) :
    Twins (unwatched app.settings.store s₀.posts s.posts) (g.at { s₀ with tree := base }) (g.at s) := by
  have alike := grown_alike rests.tree off new
  obtain ⟨cacheless, formless, same, stays, -⟩ := rests
  have shape : g.at s = { g.at { s₀ with tree := base } with
      tree := s.tree, posts := s.posts, delays := s.delays, records := s.records, reports := s.reports,
      trackerCalls := s.trackerCalls, trouble := g.trouble, access := s.access } := by
    unfold Surroundings.at
    simp only [cache, form, requestId, here, cacheless, formless, same, stays]
  rw [shape]
  exact .intro _ _ _ _ _ _ _ _ (here ▸ alike) (sentAlike_begun _ _) (Trouble.alike_refl _) trivial trivial

-- Behind any requests, a request gets the response that it gets from a service which begins with it, and its
-- backend gets the same posts. The service that begins draws the same, and no file that was left behind bears a name
-- that is drawn; none is left behind when files can be deleted. It has the first tree, but for files that were
-- there and that backends deleted meanwhile, being told of them.
theorem serve_independent (s₀ : Site N) (cache : s₀.cache = none) (form : s₀.form = none) (history : History N)
    (g : Surroundings N) (q : Http.Request)
    (new : (∀ e ∈ history, e.1.trouble.remove = none) ∨
      NewNames app.settings.store s₀.directory g.draw (app.spared s₀ s₀.tree history) (app.after s₀ history).tree) :
    ((∀ e ∈ history, ∀ turn ∈ e.1.turns, turn.removesFile = false) ∨
      (∀ post ∈ (app.after s₀ history).posts.drop s₀.posts.length, ∀ p, postedPath? post.body = some p →
        s₀.tree.file? p = none) → app.spared s₀ s₀.tree history = s₀.tree) ∧
    ∃ response s₁ s₂ more₁ more₂,
      app.serve q (g.at { s₀ with tree := app.spared s₀ s₀.tree history }) = (.ok response, s₁) ∧
      app.serve q (g.at (app.after s₀ history)) = (.ok response, s₂) ∧
      s₁.posts = s₀.posts ++ more₁ ∧ s₂.posts = (app.after s₀ history).posts ++ more₂ ∧
      more₁.map Post.wire = more₂.map Post.wire ∧
      (app.after s₀ history).requestId = s₀.requestId ∧ s₂.requestId = s₀.requestId := by
  have begun : ∀ left, app.Rests left s₀.directory s₀.requestId s₀.tree s₀ :=
    fun _ => ⟨cache, form, rfl, rfl, Tree.grown_refl _ _ _⟩
  have rests : app.Rests (fun p => ¬ app.settings.store.Way s₀.directory p) s₀.directory s₀.requestId
      (app.spared s₀ s₀.tree history) (app.after s₀ history) := (begun _).after fun _ _ _ off => Or.inl off
  have names : NewNames app.settings.store s₀.directory g.draw (app.spared s₀ s₀.tree history) (app.after s₀ history).tree := by
    rcases new with deleted | new
    · exact newNames_unleft ((begun _).after fun e member _ _ => Or.inr (deleted e member)).tree g.draw
    · exact new
  have twins := rests.twins (fun _ off => off) cache form rfl rfl g names
  obtain ⟨same, ended⟩ := serve_agrees app.settings.reporter app (unwatched_even app.settings.store _ _) id q _ _ twins
  obtain ⟨more₁, more₂, posts₁, posts₂, wires⟩ := ended.sent
  obtain ⟨response, s₁, begins, -, -⟩ := app.serve_ends q (g.at { s₀ with tree := app.spared s₀ s₀.tree history })
  obtain ⟨response', s₂, follows, restored, -⟩ := app.serve_ends q (g.at (app.after s₀ history))
  replace same : (app.serve q (g.at { s₀ with tree := app.spared s₀ s₀.tree history })).1 =
      (app.serve q (g.at (app.after s₀ history))).1 := same
  replace posts₂ : (app.serve q (g.at (app.after s₀ history))).2.posts = (app.after s₀ history).posts ++ more₂ := posts₂
  rw [begins] at posts₁
  rw [follows] at posts₂
  rw [begins, follows] at same
  cases same
  refine ⟨?_, response, s₁, s₂, more₁, more₂, begins, follows, posts₁, posts₂, wires, rests.requestId,
    restored.trans rests.requestId⟩
  rintro (keeps | unnamed)
  · exact app.spared_keeping keeps s₀ s₀.tree
  · exact app.spared_unnamed unnamed

def sampleSurroundings (draw : Text) : Surroundings Num :=
  ⟨.int 5, .ofSeconds 0, [], fun _ => draw, [], [], {}, 0⟩

-- The same upload twice, with another name drawn.
theorem serve_independent_sampleUpload :
    ∃ response s₁ s₂, sampleApp.serve sampleUpload ((sampleSurroundings "k4").at sampleSite) = (.ok response, s₁) ∧
      sampleApp.serve sampleUpload
        ((sampleSurroundings "k4").at (sampleApp.after sampleSite [(sampleSurroundings "k3", sampleUpload)])) =
          (.ok response, s₂) := by
  have deleted : ∀ e ∈ [(sampleSurroundings "k3", sampleUpload)], e.1.trouble.remove = none := by
    intro e member
    cases List.mem_singleton.mp member
    rfl
  have keeps : ∀ e ∈ [(sampleSurroundings "k3", sampleUpload)], ∀ turn ∈ e.1.turns, turn.removesFile = false := by
    intro e member turn taken
    cases List.mem_singleton.mp member
    cases taken
  obtain ⟨spared, response, s₁, s₂, _, _, begins, follows, -⟩ := sampleApp.serve_independent sampleSite rfl rfl
    [(sampleSurroundings "k3", sampleUpload)] (sampleSurroundings "k4") sampleUpload (Or.inl deleted)
  rw [spared (Or.inl keeps)] at begins
  exact ⟨response, s₁, s₂, begins, follows⟩

end App

end UploadRelay.Service
