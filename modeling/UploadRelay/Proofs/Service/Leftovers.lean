import UploadRelay.Proofs.Backend.Answering
import UploadRelay.Proofs.Service.Fidelity
import UploadRelay.Proofs.Upload.Leftovers
-- What a request leaves behind: the posts that were sent, and a tree that has grown by directories for users
-- and at most by a file that could not be deleted. A site without a cache stays without one.

namespace UploadRelay

open Work Backend

variable {N : Type} {store : Store} {left : Path → Prop}

-- From one site to another these posts were sent, and of the tree only went what backends deleted.
structure Exchanges (more : List Post) (s s' : Site N) : Prop where
  posts : s'.posts = s.posts ++ more
  turns : s'.turns = s.turns.drop more.length
  trouble : s'.trouble = s.trouble
  directory : s'.directory = s.directory
  cache : s.cache = none → s'.cache = none
  tree : s'.tree = cleared s.turns more s.tree

def Exchanged (s s' : Site N) : Prop := ∃ more, Exchanges more s s'

theorem exchanges_still {s s' : Site N} (posts : s'.posts = s.posts) (turns : s'.turns = s.turns)
    (trouble : s'.trouble = s.trouble) (directory : s'.directory = s.directory) (cache : s'.cache = s.cache)
    (tree : s'.tree = s.tree) : Exchanges [] s s' :=
  ⟨posts.trans (List.append_nil _).symm, turns, trouble, directory, fun none => cache.trans none,
    tree.trans (cleared_nil _ _).symm⟩

theorem exchanged_frame : IsFrame (Exchanged (N := N)) where
  refl := fun _ => ⟨[], exchanges_still rfl rfl rfl rfl rfl rfl⟩
  trans := by
    rintro a b c ⟨more, first⟩ ⟨later, second⟩
    refine ⟨more ++ later, ?_, ?_, second.trouble.trans first.trouble, second.directory.trans first.directory,
      fun none => second.cache (first.cache none), ?_⟩
    · rw [second.posts, first.posts, List.append_assoc]
    · rw [second.turns, first.turns, List.drop_drop, List.length_append]
    · rw [second.tree, first.tree, first.turns, cleared_append]

theorem Local.still {s s' : Site N} (aside : Local s s') (tree : s'.tree = s.tree) : Exchanges [] s s' :=
  exchanges_still aside.posts aside.turns aside.trouble aside.directory aside.cache tree

theorem Calm.still {s s' : Site N} (calm : Calm s s') : Exchanges [] s s' := Local.still (.ofCalm calm) calm.tree

theorem Exchanged.ofCalm {s s' : Site N} (calm : Calm s s') : Exchanged s s' := ⟨[], calm.still⟩

theorem Exchanged.ofSent {body : List UInt8} {s s' : Site N} (sent : Sent body s s')
    (cache : s.cache = none → s'.cache = none) : Exchanged s s' := by
  obtain ⟨posts, sends⟩ := sent
  exact ⟨posts, sends.posts, sends.turns, sends.sameBridge.trouble, sends.sameBridge.directory, cache, sends.cleared⟩

theorem formOf_still (r : Http.Request) (s : Site N) : Exchanges [] s (Upload.formOf r s).2 :=
  (Upload.formOf_run r s).1.still (Upload.formOf_run r s).2.1

-- From one site to another these posts were sent, and the tree has grown but for what backends deleted. A file
-- is only left where files may be left, or no deletion may fail.
structure Settles (store : Store) (left : Path → Prop) (more : List Post) (s s' : Site N) : Prop where
  posts : s'.posts = s.posts ++ more
  directory : s'.directory = s.directory
  cache : s.cache = none → s'.cache = none
  tree : (∀ path, ¬ store.Way s.directory path → left path ∨ s.trouble.remove = none) →
    ∀ base : Tree, base.Grown (store.Way s.directory) left s.tree →
      (cleared s.turns more base).Grown (store.Way s.directory) left s'.tree

def Settled (store : Store) (left : Path → Prop) (s s' : Site N) : Prop := ∃ more, Settles store left more s s'

theorem Exchanged.settled {s s' : Site N} (exchanged : Exchanged s s') : Settled store left s s' := by
  obtain ⟨more, exchanges⟩ := exchanged
  refine ⟨more, exchanges.posts, exchanges.directory, exchanges.cache, fun _ base grown => ?_⟩
  rw [exchanges.tree]
  exact grown.cleared _ _

theorem Settled.between {a b c d : Site N} (before : Exchanges [] a b) (settled : Settled store left b c)
    (behind : Exchanges [] c d) : Settled store left a d := by
  obtain ⟨more, settles⟩ := settled
  have directory := behind.directory.trans (settles.directory.trans before.directory)
  refine ⟨more, ?_, directory, fun none => behind.cache (settles.cache (before.cache none)), fun room base grown => ?_⟩
  · rw [behind.posts, settles.posts, before.posts, List.append_nil, List.append_nil]
  · have turns : b.turns = a.turns := before.turns
    have tree : b.tree = a.tree := before.tree.trans (cleared_nil _ _)
    have settling := settles.tree
    rw [before.directory, before.trouble, turns, tree] at settling
    rw [behind.tree, cleared_nil]
    exact settling room base grown

def Uncached (s s' : Site N) : Prop := s.cache = none → s'.cache = none

theorem uncached_frame : IsFrame (Uncached (N := N)) where
  refl := fun _ none => none
  trans := fun first second none => second (first none)

theorem Caller.call_uncached [Seconds N] (c : Caller N) (request : Rpc.Request) : Leaves Uncached (c.call request) := by
  have sends : ∀ next, Leaves Uncached (c.send next) := by
    intro next
    refine leaves_site_bind fun s => bind_at uncached_frame (fun none => none) fun _ s₁ _ => ?_
    refine bind_at uncached_frame (w := Work.attempt _) (fun none => ?_) fun outcome s₂ _ => ?_
    · exact ((Backend.send_ignoresCache c.policy (c.message s.requestId next)).keeps s₁).trans none
    · cases outcome with
      | error fault => exact fun none => none
      | ok reply => exact fun none => none
  unfold call
  cases Hook.runAll c.hooks request with
  | abort fault => exact leaves_throw uncached_frame fault
  | answer response => exact fun _ none => none
  | proceed next =>
    refine leaves_site_bind fun s none => ?_
    have unused : c.cacheFor s next = Option.none := by simp [cacheFor, none]
    rw [unused]
    have dispatches : Leaves Uncached (c.dispatch false next) :=
      Leaves.bind uncached_frame (sends next) fun _ => Leaves.bind uncached_frame (leaves_ofExcept uncached_frame _)
        fun response => leaves_pure uncached_frame response
    exact dispatches s none

namespace Service

variable [Seconds N]

theorem answer_exchanged (settings : Settings N) (log : Log.Logger) {c : Caller N} {request next : Rpc.Request}
    (proceeds : Hook.runAll c.hooks request = .proceed next) :
    Leaves Exchanged (answer settings log c request) := by
  have calls : Leaves Exchanged (c.call request) := fun s =>
    .ofSent (Caller.call_sent proceeds s) (c.call_uncached request s)
  refine Leaves.bind exchanged_frame calls.attempt fun outcome => ?_
  cases outcome with
  | error fault =>
    simp only
    split
    · exact (callFailed_calm settings log request fault).widen Exchanged.ofCalm
    · exact leaves_throw exchanged_frame fault
  | ok response =>
    simp only
    split
    · exact leaves_pure exchanged_frame _
    · exact (writingFailed_calm settings log request _).widen Exchanged.ofCalm

omit [Seconds N] in
theorem readEnvelope_exchanged {outcome : Except Rpc.Request.Rejection Rpc.Request}
    {use : Rpc.Request → Work N (List UInt8)} (uses : ∀ request, Leaves Exchanged (use request)) :
    Leaves Exchanged (readEnvelope outcome use) := by
  cases outcome with
  | ok request =>
    exact Leaves.bind exchanged_frame ((noteMethod_calm _).widen Exchanged.ofCalm) fun _ => uses request
  | error rejection => exact (readEnvelope_calm rejection use).widen Exchanged.ofCalm

theorem callWithFile_exchanged (settings : Settings N) (log : Log.Logger) (user : UserId) (address : Text) (path : Path)
    (r : Http.Request) : Leaves Exchanged (callWithFile settings log user address path r) := by
  refine Leaves.bind exchanged_frame (fun s => ⟨[], formOf_still r s⟩) fun form => readEnvelope_exchanged fun request => ?_
  refine leaves_site_bind fun s => bind_at exchanged_frame ?_ fun _ s₁ _ => answer_exchanged settings log rfl s₁
  rw [Upload.failIf_run]
  exact exchanged_frame.refl s

omit [Seconds N] in
theorem deleteSaved_grows {way : Path → Prop} {base : Tree} {path : Path} (fresh : base.node? path = none) :
    Leaves (KeepsGrown (N := N) way (Tree.orAt left path) base) (deleteSaved path) := by
  intro s grown
  unfold deleteSaved
  simp only [bind_run, site_run]
  cases s.trouble.remove with
  | some fault => exact grown
  | none =>
    simp only [Upload.failIf, pure_run, ofExcept_run]
    cases removed : s.tree.remove path with
    | error fault => exact grown
    | ok t => exact Scratch.remove_grows fresh removed grown

theorem publish_settled (settings : Settings N) (visitor : Visitor) (r : Http.Request) :
    Leaves (Settled settings.store left) (publish settings visitor r) := by
  intro s
  obtain ⟨found, s₁, identified⟩ := identify_ends visitor s
  have calm := identify_calm visitor s
  rw [identified] at calm
  cases found with
  | error fault => exact (Exchanged.ofCalm (publish_refused settings r identified)).settled
  | ok known =>
    obtain ⟨principal, address⟩ := known
    have saving := Upload.save_run settings.store principal.id (boundLogger principal.id s₁.requestId) r s₁
    have growing : ∀ base : Tree, base.Grown (settings.store.Way s₁.directory) left s₁.tree → _ := fun base grown =>
      Upload.save_grows settings.store principal.id (boundLogger principal.id s₁.requestId) r grown
    cases run : Upload.save settings.store principal.id (boundLogger principal.id s₁.requestId) r s₁ with
    | mk outcome s₂ =>
      rw [run] at saving growing
      cases outcome with
      | error fault =>
        obtain ⟨aside, -⟩ := saving
        refine .between calm.still ⟨[], ?_, aside.directory, fun none => aside.cache.trans none, fun _ base grown => ?_⟩
          (publish_unsaved settings r identified run).still
        · exact aside.posts.trans (List.append_nil _).symm
        · rw [cleared_nil]
          exact growing base grown
      | ok path =>
        obtain ⟨form, part, -, -, -, saved⟩ := saving
        rw [publish_saved settings r identified run]
        generalize boundLogger principal.id s₁.requestId = log
        obtain ⟨more, called⟩ := callWithFile_exchanged settings log principal.id address path r s₂
        generalize (callWithFile settings log principal.id address path r s₂).2 = s₃ at called
        have released := release_only settings log path s₃
        have aside := saved.aside
        refine .between calm.still ⟨more, ?_, ?_, fun none => ?_, fun room base grown => ?_⟩ (calm_frame.refl _).still
        · rw [released.aside.posts, called.posts, aside.posts]
        · rw [released.aside.directory, called.directory, aside.directory]
        · exact released.aside.cache.trans (called.cache (aside.cache.trans none))
        · obtain ⟨grown₂, fresh, off⟩ := growing base grown
          have grown₃ := grown₂.cleared s₂.turns more
          rw [← called.tree, aside.turns] at grown₃
          have grown₄ := deleteSaved_grows (cleared_absent fresh s₁.turns more) s₃ grown₃
          rw [← (release_after settings log path s₃).tree] at grown₄
          refine grown₄.settle ?_
          cases removes : s₁.trouble.remove with
          | none => exact Or.inr (release_gone settings log (by rw [called.trouble, aside.trouble, removes]) path)
          | some fault =>
            refine Or.inl fun p same => (room p fun way => off (way.of_place same.symm)).resolve_right ?_
            rw [removes]
            exact Option.some_ne_none fault

theorem proxy_exchanged (settings : Settings N) (visitor : Visitor) (r : Http.Request) :
    Leaves Exchanged (proxy settings visitor r) := by
  refine Leaves.bind exchanged_frame ((identify_calm visitor).widen Exchanged.ofCalm) fun found => ?_
  cases found with
  | error fault => exact (refuse_calm _ _).widen Exchanged.ofCalm
  | ok known =>
    refine leaves_site_bind fun s => ?_
    split
    · exact Exchanged.ofCalm (refuse_calm _ _ s)
    · exact readEnvelope_exchanged (fun request => answer_exchanged settings _ rfl) s

theorem handle_settled (settings : Settings N) (route : Route) (visitor : Visitor) (r : Http.Request) :
    Leaves (Settled settings.store left) (handle settings route visitor r) := by
  intro s
  have begun : Exchanges [] s { s with access := Access.blank } := exchanges_still rfl rfl rfl rfl rfl rfl
  refine .between begun ?_ (handle_after settings route visitor r s).still
  cases route with
  | publish => exact publish_settled settings visitor r _
  | proxy => exact (proxy_exchanged settings visitor r _).settled

namespace App

omit [Seconds N] in
theorem visitorOf_calm (app : App N) (r : Http.Request) : Leaves Calm (app.visitorOf r) := by
  unfold visitorOf
  split
  · exact leaves_pure calm_frame _
  · split
    · exact leaves_pure calm_frame _
    · split
      · exact Leaves.bind calm_frame (log_calm _ _ _ _) fun _ => leaves_pure calm_frame _
      · exact leaves_throw calm_frame _

theorem page_cases (app : App N) (r : Http.Request) (s : Site N) :
    Calm s (app.page r s).2 ∨ ∃ visitor s₁, Calm s s₁ ∧ app.page r s = app.post visitor r s₁ := by
  have calm := app.visitorOf_calm r s
  unfold page
  rw [bind_run]
  generalize app.visitorOf r s = found at calm
  obtain ⟨outcome, s₁⟩ := found
  cases outcome with
  | error fault => exact Or.inl calm
  | ok visitor =>
    unfold route
    simp only [bind_run, ofExcept_run]
    cases PathTemplate.read app.path with
    | error fault => exact Or.inl calm
    | ok template =>
      simp only
      split
      · exact Or.inl calm
      · split
        · unfold routed
          split
          · exact Or.inl calm
          · split
            · split
              · exact Or.inr ⟨visitor, s₁, calm, rfl⟩
              · exact Or.inl calm
            · split
              · exact Or.inl calm
              · split <;> exact Or.inl calm
        · exact Or.inl calm

theorem post_settled (app : App N) (visitor : Visitor) (r : Http.Request) :
    Leaves (Settled app.settings.store left) (app.post visitor r) := by
  intro s
  have reads := formOf_still r s
  unfold post Upload.canHandle
  simp only [bind_run]
  generalize Upload.formOf r s = read at reads
  obtain ⟨outcome, s₁⟩ := read
  cases outcome with
  | error fault => exact Exchanged.settled ⟨[], reads⟩
  | ok form =>
    simp only [pure_run]
    obtain ⟨body, s₂, handled⟩ := handle_ends app.settings (if Upload.isUpload form then .publish else .proxy) visitor r s₁
    have settled : Settled app.settings.store left _ _ :=
      handle_settled app.settings (if Upload.isUpload form then .publish else .proxy) visitor r s₁
    rw [handled] at settled
    simp only [handled]
    exact .between reads settled (calm_frame.refl s₂).still

theorem page_settled (app : App N) (r : Http.Request) : Leaves (Settled app.settings.store left) (app.page r) := by
  intro s
  rcases app.page_cases r s with calm | ⟨visitor, s₁, calm, posts⟩
  · exact (Exchanged.ofCalm calm).settled
  · rw [posts]
    exact .between calm.still (app.post_settled visitor r s₁) (calm_frame.refl _).still

-- What a served request leaves behind.
theorem serve_settled (app : App N) (r : Http.Request) : Leaves (Settled app.settings.store left) (app.serve r) := by
  intro s
  obtain ⟨id, freshIds, serves⟩ := app.serve_shows r s
  have begun : Exchanges [] s { s with freshIds := freshIds, requestId := id, form := none } :=
    exchanges_still rfl rfl rfl rfl rfl rfl
  rw [serves]
  exact .between begun (app.page_settled r _) (exchanges_still rfl rfl rfl rfl rfl rfl)

end App

end Service

end UploadRelay
