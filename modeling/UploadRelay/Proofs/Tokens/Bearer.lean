import UploadRelay.Service.App
import UploadRelay.Proofs.Tokens.Loading
-- Bearer tokens: a header admits the user of the one token that stands in it between blanks, where no blank stands at
-- an end of the token itself.

namespace UploadRelay

namespace Tokens

open Text

def Presents (h token : Text) : Prop :=
  ∃ before after, AllBlank before ∧ AllBlank after ∧ h = bearer ++ (before ++ token ++ after)

theorem presents_verbatim (token : Text) : Presents (bearer ++ token) token :=
  ⟨[], [], List.forall_mem_nil _, List.forall_mem_nil _, by rw [List.nil_append, List.append_nil]⟩

-- Of all texts without blanks at their ends a header presents its trimmed rest alone.
theorem presents_iff {rest token : Text} (trimmed : Trimmed token) : Presents (bearer ++ rest) token ↔ trim rest = token := by
  constructor
  · rintro ⟨before, after, front, back, same⟩
    exact trim_eq_iff.mpr ⟨trimmed, before, after, front, back, List.append_cancel_left same⟩
  · intro same
    obtain ⟨-, before, after, front, back, split⟩ := trim_eq_iff.mp same
    exact ⟨before, after, front, back, congrArg (bearer ++ ·) split⟩

theorem Presents.announced {h token : Text} (presents : Presents h token) : ∃ rest, h = bearer ++ rest := by
  obtain ⟨before, after, -, -, same⟩ := presents
  exact ⟨_, same⟩

variable {tokens : Tokens} {header : Option Text}

theorem authenticate_missing (unannounced : ∀ rest, header ≠ some (bearer ++ rest)) :
    authenticate tokens header = .error .missing := by
  have none : dropStart? bearer (header.getD []) = none := by
    cases dropped : dropStart? bearer (header.getD []) with
    | none => rfl
    | some rest =>
      have split := dropStart?_eq_some_iff.mp dropped
      cases header with
      | none => cases split
      | some h => exact absurd (congrArg some split) (unannounced rest)
  rw [authenticate, none]

theorem authenticate_known {rest : Text} {p : Principal} (found : tokens.find? (trim rest) = some p) :
    authenticate tokens (some (bearer ++ rest)) = .ok p := by
  simp only [authenticate, Option.getD_some, dropStart?_append, found]

theorem authenticate_unknown {rest : Text} (missing : tokens.find? (trim rest) = none) :
    authenticate tokens (some (bearer ++ rest)) = .error .unknown := by
  simp only [authenticate, Option.getD_some, dropStart?_append, missing]

theorem authenticate_ok_iff (once : (tokens.map Prod.fst).Nodup) {p : Principal} :
    authenticate tokens header = .ok p ↔ ∃ rest, header = some (bearer ++ rest) ∧ (trim rest, p) ∈ tokens := by
  constructor
  · intro admitted
    by_cases announced : ∃ rest, header = some (bearer ++ rest)
    · obtain ⟨rest, rfl⟩ := announced
      refine ⟨rest, rfl, (find?_eq_some_iff once).mp ?_⟩
      cases found : tokens.find? (trim rest) with
      | none => cases (authenticate_unknown found).symm.trans admitted
      | some q => exact congrArg some (Except.ok.inj ((authenticate_known found).symm.trans admitted))
    · cases (authenticate_missing fun rest same => announced ⟨rest, same⟩).symm.trans admitted
  · rintro ⟨rest, rfl, member⟩
    exact authenticate_known ((find?_eq_some_iff once).mpr member)

-- Who is admitted by a header, and how all others are turned away.
structure Decides (tokens : Tokens) (header : Option Text) (outcome : Except Fault Principal) : Prop where
  admits : ∀ p, outcome = .ok p ↔ ∃ h token, header = some h ∧ (token, p) ∈ tokens ∧ Trimmed token ∧ Presents h token
  verbatim : ∀ token p, (token, p) ∈ tokens → header = some (bearer ++ token) → Trimmed token → outcome = .ok p
  missing : (∀ rest, header ≠ some (bearer ++ rest)) → outcome = .error (.value "Missing or invalid Authorization header")
  unknown : ∀ rest, header = some (bearer ++ rest) → (∀ p, outcome ≠ .ok p) →
    outcome = .error (.system "PermissionError" [.str "Unknown auth token"])

theorem authenticate_decides (once : (tokens.map Prod.fst).Nodup) :
    Decides tokens header ((authenticate tokens header).mapError AuthFault.fault) := by
  have admits : ∀ p, (authenticate tokens header).mapError AuthFault.fault = .ok p ↔
      ∃ h token, header = some h ∧ (token, p) ∈ tokens ∧ Trimmed token ∧ Presents h token := by
    intro p
    rw [Fault.mapError_ok_iff, authenticate_ok_iff once]
    constructor
    · rintro ⟨rest, same, member⟩
      exact ⟨_, trim rest, same, member, trim_trimmed rest, (presents_iff (trim_trimmed rest)).mpr rfl⟩
    · rintro ⟨h, token, same, member, trimmed, presents⟩
      obtain ⟨rest, rfl⟩ := presents.announced
      exact ⟨rest, same, (presents_iff trimmed).mp presents ▸ member⟩
  refine ⟨admits, fun token p member same trimmed => ?_, fun unannounced => ?_, fun rest same unadmitted => ?_⟩
  · exact (admits p).mpr ⟨_, token, same, member, trimmed, presents_verbatim token⟩
  · rw [authenticate_missing unannounced]
    rfl
  · subst same
    cases found : tokens.find? (trim rest) with
    | none =>
      rw [authenticate_unknown found]
      rfl
    | some p => exact absurd (congrArg (Except.mapError AuthFault.fault) (authenticate_known found)) (unadmitted p)

end Tokens

namespace Service

open Tokens Text

theorem byToken_decides {tree : Tree} {path : Path} {tokens : Tokens} (loaded : Tokens.load tree path = .ok tokens)
    (r : Http.Request) : Decides tokens (r.header? "authorization") (byToken tokens r) := by
  obtain ⟨_, _, _, _, lists⟩ := load_lists loaded
  exact authenticate_decides lists.once

def bearing (token : Text) : Http.Request := ⟨"POST", "/api/v1/proxy", [("authorization", bearer ++ token)], [], "127.0.0.1"⟩

-- A token with a blank inside, between blanks.
theorem twoUsers_decides :
    ∃ tokens, Tokens.load (tableTree twoUsers) tablePath = .ok tokens ∧
      Decides tokens ((bearing " tok b\t").header? "authorization") (byToken tokens (bearing " tok b\t")) ∧
      (byToken tokens (bearing " tok b\t")).toOption.any (fun p => p.id = .number (-3)) = true := by
  have admitted : (Tokens.load (tableTree twoUsers) tablePath).toOption.any (fun tokens =>
      (byToken tokens (bearing " tok b\t")).toOption.any fun p => p.id = .number (-3)) = true := by decide +kernel
  obtain ⟨tokens, loaded, user⟩ := load_of_any admitted
  exact ⟨tokens, loaded, byToken_decides loaded _, user⟩

def paddedTable : Text := "\x7b\" tok\": \x7b\"id\": 7\x7d\x7d"

theorem paddedToken_forbidden :
    ∃ tokens p, Tokens.load (tableTree paddedTable) tablePath = .ok tokens ∧ (Text.ofString " tok", p) ∈ tokens ∧
      (bearing " tok").header? "authorization" = some (bearer ++ " tok") ∧
      byToken tokens (bearing " tok") = .error (.system "PermissionError" [.str "Unknown auth token"]) := by
  have listed : (Tokens.load (tableTree paddedTable) tablePath).toOption.any (fun tokens =>
      (tokens.find? " tok").isSome && (tokens.find? (trim " tok")).isNone) = true := by decide +kernel
  obtain ⟨tokens, loaded, both⟩ := load_of_any listed
  obtain ⟨known, unknown⟩ := (Bool.and_eq_true _ _).mp both
  obtain ⟨p, found⟩ := Option.isSome_iff_exists.mp known
  obtain ⟨_, _, _, _, lists⟩ := load_lists loaded
  refine ⟨tokens, p, loaded, (find?_eq_some_iff lists.once).mp found, rfl, ?_⟩
  have missing : authenticate tokens (some (bearer ++ Text.ofString " tok")) = .error .unknown :=
    authenticate_unknown (Option.isNone_iff_eq_none.mp unknown)
  exact congrArg (Except.mapError AuthFault.fault) missing

end Service

end UploadRelay
