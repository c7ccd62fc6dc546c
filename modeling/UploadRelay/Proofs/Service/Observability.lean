import UploadRelay.Proofs.Service.Fidelity
import UploadRelay.Proofs.Service.Twins
-- Reports of faults and the deletion of saved files are for those who watch the service: who is reported to,
-- what the tracker makes of it and whether the system deletes a file change nothing for a client or a backend.

namespace UploadRelay.Service

open Work

variable {N : Type}

def withTrouble (s : Site N) (tracker : TrackerStep → Option Fault) (remove : Option Fault) : Site N :=
  { s with trouble := { s.trouble with tracker, remove } }

def OnlySystem (remove : Option Fault) : Prop := ∀ fault, remove = some fault → fault.isSystem = true

theorem grave_none {trouble : Trouble} (mild : OnlySystem trouble.remove) : trouble.grave = none := by
  unfold Trouble.grave
  rw [Option.filter_eq_none_iff]
  intro fault given
  rw [mild fault given]
  decide

def watched (store : Store) (posts₁ posts₂ : List Backend.Post) : Ties where
  tree := store.Alike
  access := fun _ => Eq
  visits := Eq
  begun := (posts₁, posts₂)

theorem watched_even (store : Store) (posts₁ posts₂ : List Backend.Post) : (watched store posts₁ posts₂).Even where
  access := fun same f => congrArg f same
  visits := by
    intro _ a₁ a₂ v₁ v₂ fields noted f
    rw [show a₁ = a₂ from fields, show v₁ = v₂ from noted]
    rfl

theorem twins_withTrouble (store : Store) {s : Site N} (mild : OnlySystem s.trouble.remove)
    (tracker : TrackerStep → Option Fault) {remove : Option Fault} (mild' : OnlySystem remove) :
    Twins (watched store s.posts s.posts) s (withTrouble s tracker remove) := by
  have after : Trouble.grave { s.trouble with remove } = none := grave_none mild'
  have grave : s.trouble.grave = Trouble.grave { s.trouble with remove } := (grave_none mild).trans after.symm
  exact .intro s.tree s.posts s.delays s.records s.reports s.trackerCalls _ s.access (.refl store s.directory s.draw s.tree)
    (sentAlike_begun _ _) (.intro remove tracker grave) rfl rfl

-- What the client, the backends and the access log get of a request, and what is remembered behind it.
structure SameService (s₁ s₂ : Site N) : Prop where
  posts : s₁.posts.map Backend.Post.wire = s₂.posts.map Backend.Post.wire
  visits : visits s₁.records = visits s₂.records
  cache : s₁.cache = s₂.cache

theorem Twins.sameService {posts : List Backend.Post} {store : Store} {s₁ s₂ : Site N}
    (twins : Twins (watched store posts posts).loose s₁ s₂) : SameService s₁ s₂ where
  posts := by
    obtain ⟨more₁, more₂, same₁, same₂, wires⟩ := twins.sent
    rw [same₁, same₂, List.map_append, List.map_append, wires]
    rfl
  visits := twins.visits
  cache := by
    cases twins
    rfl

namespace App

variable [Seconds N]

-- Whoever is reported to, whatever the tracker does and whether or not saved files can be deleted: the
-- response is the same, and so are the posts, the access records and what is remembered.
theorem serve_ignores_observers (app : App N) (reporter : Reporter) (r : Http.Request) (s : Site N)
    (tracker : TrackerStep → Option Fault) (remove : Option Fault) (mild : OnlySystem s.trouble.remove)
    (mild' : OnlySystem remove) :
    ∃ response s₁ s₂, app.serve r s = (.ok response, s₁) ∧
      (app.reportingTo reporter).serve r (withTrouble s tracker remove) = (.ok response, s₂) ∧ SameService s₁ s₂ := by
  obtain ⟨requestId, freshIds, serves⟩ := app.serve_shows r s
  obtain ⟨same, after⟩ := serve_agrees reporter app (watched_even app.settings.store s.posts s.posts) id r s _
    (twins_withTrouble app.settings.store mild tracker mild')
  refine ⟨_, _, ((app.reportingTo reporter).serve r (withTrouble s tracker remove)).2, serves, ?_, ?_⟩
  · rw [serves] at same
    exact Prod.ext same.symm rfl
  · rw [serves] at after
    exact Twins.sameService after

def downSite : Site Num := { sampleSite with turns := [⟨false, .fails (.transport .connect "refused")⟩] }

def lostCaptures : TrackerStep → Option Fault
  | .capture => some (.other "RuntimeError" [])
  | .closing => some (.other "ValueError" [])
  | _ => none

def undeletable : Option Fault := some (.ofErrno 13 "Permission denied" "/srv/uploads/7/k3_a.bin")

theorem serve_downSite_ignores_observers :
    OnlySystem downSite.trouble.remove ∧ OnlySystem undeletable ∧
      (∃ response s₁ s₂, sampleApp.serve sampleUpload downSite = (.ok response, s₁) ∧
        (sampleApp.reportingTo (.tracker {})).serve sampleUpload (withTrouble downSite lostCaptures undeletable) =
          (.ok response, s₂) ∧ SameService s₁ s₂) ∧
      ((sampleApp.reportingTo (.tracker {})).serve sampleUpload
        (withTrouble downSite lostCaptures undeletable)).2.trackerCalls.length = 8 := by
  have deletes : OnlySystem downSite.trouble.remove := fun fault given => by cases given
  have refuses : OnlySystem undeletable := by
    intro fault given
    cases given
    rfl
  exact ⟨deletes, refuses, serve_ignores_observers sampleApp (.tracker {}) sampleUpload downSite lostCaptures undeletable
    deletes refuses, by decide +kernel⟩

end App

end UploadRelay.Service
