import UploadRelay.Proofs.Service.Independence
import UploadRelay.Proofs.Service.Replies
import UploadRelay.Proofs.Service.Stamping
-- One id for each request, whichever requests come one after the other: its response, its posts, its access
-- record and what the tracker is told of it all bear the id that it came with or the next fresh one.

namespace UploadRelay.Service

open Work

variable {N : Type}

def IsHex (length : Nat) (t : Text) : Prop := t.length = length ∧ ∀ c ∈ t, c.hexValue?.isSome

theorem IsHex.take {length short : Nat} {t : Text} (hex : IsHex length t) (fits : short ≤ length) : IsHex short (t.take short) :=
  ⟨by rw [List.length_take, hex.1, Nat.min_eq_left fits], fun c there => hex.2 c (List.mem_of_mem_take there)⟩

theorem IsHex.given {length : Nat} {t : Text} (hex : IsHex length t) (some : 0 < length) : t ≠ [] := by
  rintro rfl
  exact absurd hex.1 (Nat.ne_of_lt some)

def Surroundings.onward (g : Surroundings N) (s : Site N) : Site N := { g.at s with freshIds := s.freshIds }

namespace App

def givenId? (r : Http.Request) : Option Text := (r.header? idHeader).filter fun t => !t.isEmpty

def madeId (freshIds : List Text) : Text := (freshIds.headD lastId).take idLength

def idsOf : List Text → List Http.Request → List Text
  | _, [] => []
  | freshIds, r :: rest =>
    match givenId? r with
    | some id => id :: idsOf freshIds rest
    | none => madeId freshIds :: idsOf freshIds.tail rest

theorem idFor_given {r : Http.Request} {id : Text} (given : givenId? r = some id) (s : Site N) :
    id ≠ [] ∧ idFor r s = (.ok id, s) := by
  obtain ⟨header, filled⟩ := Option.filter_eq_some_iff.mp given
  unfold idFor
  rw [header]
  cases id with
  | nil => cases filled
  | cons c rest => exact ⟨List.cons_ne_nil c rest, rfl⟩

theorem idFor_made {r : Http.Request} (none : givenId? r = none) (s : Site N) :
    idFor r s = (.ok (madeId s.freshIds), { s with freshIds := s.freshIds.tail }) := by
  unfold idFor
  unfold givenId? at none
  cases header : r.header? idHeader with
  | none => rfl
  | some t =>
    rw [header] at none
    cases t with
    | nil => rfl
    | cons c rest => cases none

theorem madeId_hex {freshIds : List Text} (fresh : ∀ t ∈ freshIds, IsHex 32 t) : IsHex idLength (madeId freshIds) := by
  have first : IsHex 32 (freshIds.headD lastId) := by
    cases freshIds with
    | nil => exact ⟨by decide, by decide⟩
    | cons t rest => exact fresh t List.mem_cons_self
  exact first.take (by decide)

variable [Seconds N] (app : App N)

def meetings (s : Site N) : History N → List (Site N × Http.Request)
  | [] => []
  | e :: rest => (e.1.onward s, e.2) :: meetings (app.serve e.2 (e.1.onward s)).2 rest

-- The request has this id: the client's, or a made one, and it is all over what is answered and left behind.
structure Correlated (id : Text) (m : Site N × Http.Request) : Prop where
  origin : givenId? m.2 = some id ∨ givenId? m.2 = none ∧ IsHex idLength id
  response : ∃ response, (app.serve m.2 m.1).1 = .ok response ∧ response.header? idHeader = some id
  traces : Traces app.settings.reporter id m.1 (app.serve m.2 m.1).2
  restored : (app.serve m.2 m.1).2.requestId = m.1.requestId

theorem withoutBody_header (r : Http.Request) (response : Http.Response) (name : Text) :
    (withoutBody r response).header? name = response.header? name := by
  unfold withoutBody
  split <;> rfl

omit [Seconds N] in
theorem finished_id (r : Http.Request) (id : Text) (p : Page) : (app.finished r id p).header? idHeader = some id := by
  unfold finished
  rw [withoutBody_header]
  exact Http.Response.header?_setHeader _ _ _

theorem serve_correlated {r : Http.Request} {s : Site N} {id : Text} {freshIds : List Text} (given : id ≠ [])
    (identified : idFor r s = (.ok id, { s with freshIds := freshIds }))
    (origin : givenId? r = some id ∨ givenId? r = none ∧ IsHex idLength id) :
    app.Correlated id (s, r) ∧ (app.serve r s).2.freshIds = freshIds := by
  have serves := app.serve_identified identified
  have stamped : Stamped app.settings.reporter id { s with freshIds := freshIds, requestId := id, form := none } _ :=
    app.page_stamps given r { s with freshIds := freshIds, requestId := id, form := none } rfl
  refine ⟨⟨origin, ⟨_, congrArg Prod.fst serves, app.finished_id r id _⟩, ?_, ?_⟩, ?_⟩
  · show Traces _ _ s (app.serve r s).2
    rw [serves]
    exact ⟨stamped.traces.posts, stamped.traces.visits, stamped.traces.trackerCalls⟩
  · show (app.serve r s).2.requestId = s.requestId
    rw [serves]
  · rw [serves]
    exact stamped.freshIds

-- Whichever requests come one after the other, and whatever becomes of each.
theorem traffic_correlated (history : History N) (s : Site N) (fresh : ∀ t ∈ s.freshIds, IsHex 32 t) :
    List.Forall₂ app.Correlated (idsOf s.freshIds (history.map Prod.snd)) (app.meetings s history) := by
  induction history generalizing s with
  | nil => exact .nil
  | cons e rest ih =>
    obtain ⟨g, r⟩ := e
    rw [List.map_cons, idsOf, meetings]
    cases came : givenId? r with
    | some id =>
      obtain ⟨filled, identified⟩ := idFor_given came (g.onward s)
      obtain ⟨correlated, kept⟩ := app.serve_correlated filled identified (.inl came)
      replace kept : (app.serve r (g.onward s)).2.freshIds = s.freshIds := kept
      exact .cons correlated (kept ▸ ih _ (kept ▸ fresh))
    | none =>
      have made := madeId_hex fresh
      obtain ⟨correlated, used⟩ := app.serve_correlated (made.given (by decide)) (idFor_made came (g.onward s))
        (.inr ⟨came, made⟩)
      replace used : (app.serve r (g.onward s)).2.freshIds = s.freshIds.tail := used
      exact .cons correlated (used ▸ ih _ (used ▸ fun t there => fresh t (List.mem_of_mem_tail there)))

-- A service that tells a tracker and tries twice. The first request names itself, and its backend is busy
-- once; the second one does not, and fails.
def watchedApp : App Num :=
  { sampleApp with settings := { sampleApp.settings with policy := some (.standard 1), reporter := .tracker {} } }

def watchedHistory : History Num :=
  [({ sampleSurroundings "k3" with turns := [⟨false, .reply ⟨503, [], []⟩⟩] },
    { samplePost with headers := ("x-request-id", "r-1") :: samplePost.headers }),
   ({ sampleSurroundings "k4" with turns := [⟨false, .reply ⟨500, [], []⟩⟩] }, samplePost)]

def watchedSite : Site Num := { sampleSite with freshIds := ["00112233445566778899aabbccddeeff"] }

theorem watchedHistory_correlated :
    List.Forall₂ watchedApp.Correlated ["r-1", "0011223344556677"] (watchedApp.meetings watchedSite watchedHistory) ∧
      (watchedApp.meetings watchedSite watchedHistory).map (fun m =>
        ((watchedApp.serve m.2 m.1).2.posts.length, (visits (watchedApp.serve m.2 m.1).2.records).length,
          (watchedApp.serve m.2 m.1).2.trackerCalls.length)) = [(2, 1, 0), (3, 2, 4)] := by
  have fresh : ∀ t ∈ watchedSite.freshIds, IsHex 32 t := by
    intro t there
    cases List.mem_singleton.mp there
    exact ⟨by decide, by decide⟩
  have correlated := traffic_correlated watchedApp watchedHistory watchedSite fresh
  have ids : idsOf watchedSite.freshIds (watchedHistory.map Prod.snd) =
      [Text.ofString "r-1", Text.ofString "0011223344556677"] := by decide
  rw [ids] at correlated
  exact ⟨correlated, by decide +kernel⟩

end App

end UploadRelay.Service
