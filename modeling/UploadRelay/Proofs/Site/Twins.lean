import UploadRelay.Proofs.Site.Effects
-- Two runs side by side. Begun at sites that are alike, both pieces of work end with the same outcome and
-- leave sites behind that are alike. How much alike sites have to be is said by the ties between them.

namespace UploadRelay

variable {N : Type} {α β : Type}

namespace Work

-- From sites in one relation both pieces of work come to the same outcome and to sites in another relation.
def Agree (R R' : Site N → Site N → Prop) (w₁ w₂ : Work N α) : Prop :=
  ∀ s₁ s₂, R s₁ s₂ → (w₁ s₁).1 = (w₂ s₂).1 ∧ R' (w₁ s₁).2 (w₂ s₂).2

variable {R R₁ R' : Site N → Site N → Prop}

theorem Agree.bind {w₁ w₂ : Work N α} {f₁ f₂ : α → Work N β} (first : Agree R R₁ w₁ w₂)
    (wider : ∀ {s₁ s₂}, R₁ s₁ s₂ → R' s₁ s₂) (next : ∀ a, Agree R₁ R' (f₁ a) (f₂ a)) :
    Agree R R' (w₁ >>= f₁) (w₂ >>= f₂) := by
  intro s₁ s₂ alike
  obtain ⟨same, after⟩ := first s₁ s₂ alike
  rw [bind_run, bind_run]
  generalize w₁ s₁ = ran₁ at same after
  generalize w₂ s₂ = ran₂ at same after
  obtain ⟨outcome, t₁⟩ := ran₁
  obtain ⟨_, t₂⟩ := ran₂
  cases same
  cases outcome with
  | ok a => exact next a t₁ t₂ after
  | error fault => exact ⟨rfl, wider after⟩

theorem Agree.andThen {w₁ w₂ : Work N α} {f₁ f₂ : α → Work N β} (first : Agree R R' w₁ w₂)
    (next : ∀ a, Agree R' R' (f₁ a) (f₂ a)) : Agree R R' (w₁ >>= f₁) (w₂ >>= f₂) := first.bind id next

theorem agree_site_bind {f₁ f₂ : Site N → Work N β} (next : ∀ s₁ s₂, R s₁ s₂ → Agree R R' (f₁ s₁) (f₂ s₂)) :
    Agree R R' (site >>= f₁) (site >>= f₂) := fun s₁ s₂ alike => next s₁ s₂ alike s₁ s₂ alike

theorem agree_pure (a : α) : Agree R R (pure a : Work N α) (pure a) := fun _ _ alike => ⟨rfl, alike⟩

theorem agree_throw (fault : Fault) : Agree R R (throw fault : Work N α) (throw fault) := fun _ _ alike => ⟨rfl, alike⟩

theorem agree_ofExcept (e : Except Fault α) : Agree R R (ofExcept e : Work N α) (ofExcept e) :=
  fun _ _ alike => ⟨rfl, alike⟩

theorem agree_update {f₁ f₂ : Site N → Site N} (keeps : ∀ {s₁ s₂}, R s₁ s₂ → R' (f₁ s₁) (f₂ s₂)) :
    Agree R R' (update f₁) (update f₂) := fun _ _ alike => ⟨rfl, keeps alike⟩

theorem Agree.attempt {w₁ w₂ : Work N α} (agree : Agree R R' w₁ w₂) : Agree R R' (attempt w₁) (attempt w₂) := by
  intro s₁ s₂ alike
  obtain ⟨same, after⟩ := agree s₁ s₂ alike
  exact ⟨congrArg Except.ok same, after⟩

theorem Agree.thenAlways {w₁ w₂ : Work N α} {after₁ after₂ : Work N Unit} (first : Agree R R' w₁ w₂)
    (second : Agree R' R' after₁ after₂) : Agree R R' (thenAlways w₁ after₁) (thenAlways w₂ after₂) :=
  first.attempt.andThen fun outcome => second.andThen fun _ => agree_ofExcept outcome

theorem Agree.widen {w₁ w₂ : Work N α} (agree : Agree R R₁ w₁ w₂) (wider : ∀ {s₁ s₂}, R₁ s₁ s₂ → R' s₁ s₂) :
    Agree R R' w₁ w₂ := fun s₁ s₂ alike => ⟨(agree s₁ s₂ alike).1, wider (agree s₁ s₂ alike).2⟩

theorem Agree.narrow {w₁ w₂ : Work N α} (agree : Agree R₁ R' w₁ w₂) (narrower : ∀ {s₁ s₂}, R s₁ s₂ → R₁ s₁ s₂) :
    Agree R R' w₁ w₂ := fun s₁ s₂ alike => agree s₁ s₂ (narrower alike)

end Work

def Backend.Post.wire (post : Backend.Post) : Backend.Post := { post with seen := .empty }

def SentAlike (begun : List Backend.Post × List Backend.Post) (posts₁ posts₂ : List Backend.Post) : Prop :=
  ∃ more₁ more₂, posts₁ = begun.1 ++ more₁ ∧ posts₂ = begun.2 ++ more₂ ∧
    more₁.map Backend.Post.wire = more₂.map Backend.Post.wire

theorem sentAlike_begun (posts₁ posts₂ : List Backend.Post) : SentAlike (posts₁, posts₂) posts₁ posts₂ :=
  ⟨[], [], (List.append_nil _).symm, (List.append_nil _).symm, rfl⟩

theorem SentAlike.add {begun : List Backend.Post × List Backend.Post} {posts₁ posts₂ : List Backend.Post}
    (alike : SentAlike begun posts₁ posts₂) {post₁ post₂ : Backend.Post} (same : post₁.wire = post₂.wire) :
    SentAlike begun (posts₁ ++ [post₁]) (posts₂ ++ [post₂]) := by
  obtain ⟨more₁, more₂, rfl, rfl, wires⟩ := alike
  refine ⟨more₁ ++ [post₁], more₂ ++ [post₂], List.append_assoc .., List.append_assoc .., ?_⟩
  rw [List.map_append, List.map_append, wires, List.map_singleton, List.map_singleton, same]

def Trouble.grave (trouble : Trouble) : Option Fault := trouble.remove.filter fun fault => !fault.isSystem

-- The same goes wrong, but for the tracker and for failures of the system to delete a file.
inductive Trouble.Alike (trouble : Trouble) : Trouble → Prop where
  | intro (remove : Option Fault) (tracker : TrackerStep → Option Fault)
      (grave : trouble.grave = Trouble.grave { trouble with remove }) : Alike trouble { trouble with remove, tracker }

theorem Trouble.alike_refl (trouble : Trouble) : trouble.Alike trouble := .intro trouble.remove trouble.tracker rfl

-- What two sites have to have in common beyond what work goes by: relations between their trees, given the working
-- directory and the beginnings of names that are drawn there, between their access fields, given what is logged of accesses, and
-- between their access records, and the posts that comparing begins with.
structure Ties where
  tree : Text → (Nat → Text) → Tree → Tree → Prop
  access : Int → Access → Access → Prop
  visits : List Log.Entry → List Log.Entry → Prop
  begun : List Backend.Post × List Backend.Post

def Ties.loose (ties : Ties) : Ties := { ties with tree := fun _ _ _ _ => True }

inductive Twins (ties : Ties) (s : Site N) : Site N → Prop where
  | intro (tree : Tree) (posts : List Backend.Post) (delays : List N) (records : List Log.Entry) (reports : List Report)
      (trackerCalls : List TrackerCall) (trouble : Trouble) (access : Access)
      (trees : ties.tree s.directory s.draw s.tree tree) (sent : SentAlike ties.begun s.posts posts) (troubles : s.trouble.Alike trouble)
      (fields : ties.access s.accessLevel s.access access) (noted : ties.visits (visits s.records) (visits records)) :
      Twins ties s { s with tree, posts, delays, records, reports, trackerCalls, trouble, access }

variable {ties : Ties} {s₁ s₂ t₁ t₂ : Site N}

theorem Twins.loosen (twins : Twins ties s₁ s₂) : Twins ties.loose s₁ s₂ := by
  cases twins with
  | intro _ _ _ _ _ _ _ _ _ sent troubles fields noted => exact .intro _ _ _ _ _ _ _ _ trivial sent troubles fields noted

theorem Twins.sent (twins : Twins ties s₁ s₂) : SentAlike ties.begun s₁.posts s₂.posts := by
  cases twins
  assumption

theorem Twins.access (twins : Twins ties s₁ s₂) : ties.access s₁.accessLevel s₁.access s₂.access := by
  cases twins
  assumption

theorem Twins.visits (twins : Twins ties s₁ s₂) :
    ties.visits (UploadRelay.visits s₁.records) (UploadRelay.visits s₂.records) := by
  cases twins
  assumption

theorem Twins.noted (twins : Twins ties s₁ s₂) (noted₁ : Noted s₁ t₁) (noted₂ : Noted s₂ t₂) : Twins ties t₁ t₂ := by
  cases twins with
  | intro _ _ _ _ _ _ _ _ trees sent troubles fields noted =>
    cases noted₁ with
    | intro _ _ _ quiet₁ =>
      cases noted₂ with
      | intro _ _ _ quiet₂ => exact .intro _ _ _ _ _ _ _ _ trees sent troubles fields (quiet₁ ▸ quiet₂ ▸ noted)

namespace Work

theorem agree_writes (f₁ f₂ : Site N → Tree) : Agree (Twins ties.loose) (Twins ties.loose)
    (update fun s => { s with tree := f₁ s }) (update fun s => { s with tree := f₂ s }) := by
  refine agree_update fun alike => ?_
  cases alike with
  | intro _ _ _ _ _ _ _ _ _ sent troubles fields noted => exact .intro _ _ _ _ _ _ _ _ trivial sent troubles fields noted

theorem agree_noted {w₁ w₂ : Work N Unit} (noted₁ : Leaves Noted w₁) (noted₂ : Leaves Noted w₂) (ends₁ : Ends w₁)
    (ends₂ : Ends w₂) : Agree (Twins ties) (Twins ties) w₁ w₂ := by
  intro s₁ s₂ twins
  exact ⟨(ends₁.outcome s₁).trans (ends₂.outcome s₂).symm, twins.noted (noted₁ s₁) (noted₂ s₂)⟩

theorem agree_log {logger : Text} (other : logger ≠ Log.accessLogger) (level₁ level₂ : Log.Level)
    (message₁ message₂ : Text) (extra₁ extra₂ : Members) :
    Agree (Twins ties) (Twins ties) (log (N := N) logger level₁ message₁ extra₁) (log logger level₂ message₂ extra₂) :=
  agree_noted (log_noted other _ _ _) (log_noted other _ _ _) (ends_update _) (ends_update _)

end Work

end UploadRelay
