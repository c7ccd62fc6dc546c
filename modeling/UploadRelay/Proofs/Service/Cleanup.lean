import UploadRelay.Proofs.Service.Publishing
-- No scratch file outlives the request it was made for: whatever fails on the way, and whatever
-- the backend does, the regular files are the same before and after.

namespace UploadRelay.Service

open Work Backend

variable {N : Type} [Seconds N]

theorem callWithFile_elsewhere (settings : Settings N) (log : Log.Logger) (user : UserId) (address : Text)
    {path : Path} (normal : path.Normal) (named : path.names ≠ []) (unpaired : Json.Unpaired path.text)
    (r : Http.Request) {s : Site N} {form : Upload.Form} (known : s.form = some form) :
    (callWithFile settings log user address path r s).2.trouble = s.trouble ∧
      ∀ p : Path, p.place ≠ path.place →
        (callWithFile settings log user address path r s).2.tree.file? p = s.tree.file? p := by
  cases parsed : Rpc.Request.ofText (form.value Upload.payloadField) with
  | error rejection =>
    have calm := callWithFile_refused settings log user address path r known parsed
    refine ⟨?_, fun p _ => calm.files p⟩
    generalize callWithFile settings log user address path r s = ran at calm
    obtain ⟨outcome, s'⟩ := ran
    cases calm
    rfl
  | ok request =>
    obtain ⟨posts, sends⟩ := callWithFile_sent settings log user address path r known parsed
    have names : postedPath? (withPath path request).body = some path :=
      (Rpc.Request.ofText_sound parsed).posted_path normal named unpaired
    exact ⟨sends.sameBridge.trouble, fun p apart => sends.elsewhere names apart⟩

theorem publish_files (settings : Settings N) (visitor : Visitor) (r : Http.Request) (s : Site N)
    (root : settings.store.root.Normal) (draws : ∀ n, CodePoint.ofChar '/' ∉ s.draw n)
    (removes : s.trouble.remove = none) (p : Path) :
    (publish settings visitor r s).2.tree.file? p = s.tree.file? p := by
  obtain ⟨found, s₁, identified⟩ := identify_ends visitor s
  have calm := identify_calm visitor s
  rw [identified] at calm
  have files₁ : s₁.tree.file? p = s.tree.file? p := calm.files p
  cases found with
  | error fault => exact (publish_refused settings r identified).files p
  | ok known =>
    obtain ⟨principal, address⟩ := known
    have aside := Local.ofCalm calm
    have saving := Upload.save_run settings.store principal.id (boundLogger principal.id s₁.requestId) r s₁
    cases run : Upload.save settings.store principal.id (boundLogger principal.id s₁.requestId) r s₁ with
    | mk outcome s₂ =>
      rw [run] at saving
      cases outcome with
      | error fault =>
        have after := publish_unsaved settings r identified run
        exact (after.files p).trans ((saving.2 p).trans files₁)
      | ok path =>
        obtain ⟨form, part, -, formed, -, saved⟩ := saving
        have normal : path.Normal := saved.normal root (by rw [aside.draw]; exact draws)
        obtain ⟨trouble, elsewhere⟩ := callWithFile_elsewhere settings (boundLogger principal.id s₁.requestId)
          principal.id address normal saved.named saved.unpaired r formed
        have trouble' := trouble.trans (saved.aside.trouble.trans aside.trouble)
        rw [publish_saved settings r identified run]
        by_cases same : p.place = path.place
        · -- The saved file is deleted behind the call, and nothing was there before.
          rw [Tree.file?_of_place same, Tree.file?_of_place same]
          have gone := release_gone settings (boundLogger principal.id s₁.requestId)
            (congrArg Trouble.remove trouble' |>.trans removes) path
          exact gone.trans (saved.fresh.symm.trans (calm.files path))
        · have released := (release_only settings (boundLogger principal.id s₁.requestId) path
            (callWithFile settings (boundLogger principal.id s₁.requestId) principal.id address path r s₂).2).elsewhere p same
          exact released.trans ((elsewhere p same).trans ((saved.elsewhere p same).trans files₁))

-- An upload is answered, and leaves the regular files as they were.
theorem handle_leaves_no_scratch_file (settings : Settings N) (visitor : Visitor) (r : Http.Request) (s : Site N)
    {root : Text} (rooted : settings.store.root = Path.ofText root) (draws : ∀ n, CodePoint.ofChar '/' ∉ s.draw n)
    (removes : s.trouble.remove = none) :
    ∃ body s', handle settings .publish visitor r s = (.ok body, s') ∧
      ∀ p, s'.tree.file? p = s.tree.file? p := by
  obtain ⟨body, s', run⟩ := handle_ends settings .publish visitor r s
  refine ⟨body, s', run, ?_⟩
  intro p
  have normal : settings.store.root.Normal := rooted ▸ Path.normal_ofText root
  have after := (handle_after settings .publish visitor r s).files p
  rw [run] at after
  exact after.trans (publish_files settings visitor r { s with access := Access.blank } normal draws removes p)

def crowdedSettings : Settings Num := ⟨⟨Path.ofText "/srv/uploads"⟩, some (.standard 2), .silent⟩

def crowdedVisitor : Visitor := .known ⟨.number 7, some "http://backend:5279/"⟩

def crowdedSite : Site Num :=
  { Site.new ⟨[(Path.ofText "/srv/keep", .file [1])]⟩ (.int 0) 0 (fun _ => "k3") with
    form := some ⟨[("file", ⟨"a.bin", [104, 105]⟩)], [("json_payload", "\x7b\"method\": \"publish\"\x7d")]⟩
    turns := [⟨true, .reply ⟨503, [], []⟩⟩] }

def crowdedRequest : Http.Request := ⟨"POST", "/proxy", [], [], "127.0.0.1"⟩

theorem crowdedSite_keeps_files :
    (∃ body s', handle crowdedSettings .publish crowdedVisitor crowdedRequest crowdedSite = (.ok body, s') ∧
      ∀ p, s'.tree.file? p = crowdedSite.tree.file? p) ∧
      (handle crowdedSettings .publish crowdedVisitor crowdedRequest crowdedSite).2.posts.length = 2 := by
  have beginning : CodePoint.ofChar '/' ∉ ("k3" : Text) := by decide
  have draws : ∀ n, CodePoint.ofChar '/' ∉ crowdedSite.draw n := fun _ => beginning
  exact ⟨handle_leaves_no_scratch_file _ _ _ _ rfl draws rfl, by decide +kernel⟩

end UploadRelay.Service
