import UploadRelay.Scratch
import UploadRelay.Tokens
import UploadRelay.Proofs.Json.Decoding
import UploadRelay.Proofs.Rpc.Key
-- Tables of tokens: a file is taken as a table whole or not at all, with one user for each token, and the text of a
-- user's id names the user's directory and begins the keys of the user's answers.

namespace UploadRelay

namespace UserId

theorem ofJson?_eq_some_iff {v : Json} {id : UserId} : ofJson? v = some id ↔ v = id.json := by
  constructor
  · intro found
    cases v <;> cases found <;> rfl
  · rintro rfl
    cases id <;> rfl

inductive Spells : UserId → Text → Prop where
  | number (n : Int) : Spells (.number n) (Text.ofInt n)
  | true : Spells (.truth Bool.true) "True"
  | false : Spells (.truth Bool.false) "False"

theorem spells_text (id : UserId) : Spells id id.text := by
  cases id with
  | number n => exact .number n
  | truth b =>
    cases b
    · exact .false
    · exact .true

-- A text that belongs to a user: it names the user's directory, and every key of the user begins with it.
structure Marks (id : UserId) (mark : Text) : Prop where
  directory : ∀ store : Store, store.userDirectory id = store.root.child mark
  key : ∀ r : Rpc.Request, (mark ++ [CodePoint.ofChar ':']) <+: r.cacheKey id.text

theorem text_marks (id : UserId) : Marks id id.text where
  directory := fun _ => rfl
  key := by
    intro r
    rw [Rpc.Request.cacheKey_shape]
    exact ⟨_, List.append_assoc id.text [CodePoint.ofChar ':'] _⟩

end UserId

namespace Tokens

open Json

inductive Addressed (members : Members) : Option Text → Prop where
  | absent (missing : Members.get? members "sdk_address" = none) : Addressed members none
  | empty {v : Json} (found : Members.get? members "sdk_address" = some v) (falsy : v.truthy = false) : Addressed members none
  | given {v : Json} (found : Members.get? members "sdk_address" = some v) (truthy : v.truthy = true) :
      Addressed members (some v.shown)

inductive Describes : Json → Principal → Prop where
  | user {members : Members} {id : UserId} {address : Option Text} (identified : Members.get? members "id" = some id.json)
      (addressed : Addressed members address) : Describes (.obj members) ⟨id, address⟩

theorem address_eq_iff {members : Members} {given : Option Text} : address members = given ↔ Addressed members given := by
  constructor
  · rintro rfl
    unfold address
    cases found : Members.get? members "sdk_address" with
    | none => exact .absent found
    | some v =>
      cases counts : v.truthy with
      | false => simpa only [counts] using .empty found counts
      | true => simpa only [counts] using .given found counts
  · intro addressed
    unfold address
    cases addressed with
    | absent missing => rw [missing]
    | empty found falsy => simp only [found, falsy, Bool.false_eq_true, if_false]
    | given found truthy => simp only [found, truthy, if_true]

theorem entry_ok_iff {token : Text} {v : Json} {t : Text × Principal} : entry token v = .ok t ↔ t.1 = token ∧ Describes v t.2 := by
  constructor
  · intro taken
    unfold entry at taken
    split at taken
    · rename_i members
      split at taken
      · rename_i id found
        obtain ⟨w, there, named⟩ := Option.bind_eq_some_iff.mp found
        rw [UserId.ofJson?_eq_some_iff.mp named] at there
        cases taken
        exact ⟨rfl, .user there (address_eq_iff.mp rfl)⟩
      · cases taken
    · cases taken
  · obtain ⟨name, principal⟩ := t
    rintro ⟨rfl, describes⟩
    cases describes with
    | @user members id address identified addressed =>
      have known : (Members.get? members "id").bind UserId.ofJson? = some id := by
        rw [identified]
        exact UserId.ofJson?_eq_some_iff.mpr rfl
      simp only [entry, known, address_eq_iff.mpr addressed]

theorem mapM_cases {ε α β : Type} (f : α → Except ε β) (xs : List α) :
    (∃ ys, xs.mapM f = .ok ys ∧ List.Forall₂ (fun x y => f x = .ok y) xs ys) ∨
    ∃ e, xs.mapM f = .error e ∧ ∃ x ∈ xs, f x = .error e := by
  induction xs with
  | nil => exact Or.inl ⟨[], rfl, .nil⟩
  | cons x rest ih =>
    rw [List.mapM_cons]
    cases first : f x with
    | error e => exact Or.inr ⟨e, rfl, x, List.mem_cons_self, first⟩
    | ok y =>
      rcases ih with ⟨ys, run, each⟩ | ⟨e, run, z, member, failed⟩
      · exact Or.inl ⟨y :: ys, by rw [run]; rfl, .cons first each⟩
      · exact Or.inr ⟨e, by rw [run]; rfl, z, List.mem_cons_of_mem x member, failed⟩

def Holds (content : List UInt8) (v : Json) : Prop :=
  ∃ t, Encoding.readUtf8 false content = .ok t ∧ Json.read (plainNewlines t) = .ok v

theorem Holds.unique {content : List UInt8} {v w : Json} (holds : Holds content v) (holds' : Holds content w) : v = w := by
  obtain ⟨t, decoded, read⟩ := holds
  obtain ⟨t', decoded', read'⟩ := holds'
  cases decoded.symm.trans decoded'
  exact Except.ok.inj (read.symm.trans read')

theorem Holds.distinct {content : List UInt8} {members : Members} (holds : Holds content (.obj members)) :
    Members.Distinct members := by
  obtain ⟨t, -, read⟩ := holds
  cases (read_sound read).2 with
  | obj distinct _ => exact distinct

-- A table of a document: every entry describes a user, who is found under its token, and no token stands twice.
structure Lists (members : Members) (tokens : Tokens) : Prop where
  names : tokens.map Prod.fst = Members.names members
  once : (tokens.map Prod.fst).Nodup
  described : ∀ m ∈ members, ∃ p, tokens.find? m.1 = some p ∧ Describes m.2 p

theorem find?_eq_some_iff {tokens : Tokens} (once : (tokens.map Prod.fst).Nodup) {token : Text} {p : Principal} :
    tokens.find? token = some p ↔ (token, p) ∈ tokens := by
  induction tokens with
  | nil => exact ⟨fun found => (nomatch found), fun member => (nomatch member)⟩
  | cons t rest ih =>
    obtain ⟨fresh, onceRest⟩ := List.nodup_cons.mp once
    have behind := ih onceRest
    unfold find? at behind ⊢
    rw [List.find?_cons]
    by_cases here : t.1 = token
    · have gone : (token, p) ∉ rest := fun member => fresh (here ▸ List.mem_map_of_mem member)
      simp only [here, beq_self_eq_true, Option.map_some, Option.some.injEq, List.mem_cons, gone, or_false]
      constructor
      · rintro rfl
        rw [← here]
      · rintro rfl
        rfl
    · have apart : (token, p) ≠ t := fun same => here (same ▸ rfl)
      simp only [beq_eq_false_iff_ne.mpr here, behind, List.mem_cons, apart, false_or]

variable {members : Members} {tokens : Tokens}

theorem names_of_entries (each : List.Forall₂ (fun (m : Text × Json) t => entry m.1 m.2 = .ok t) members tokens) :
    tokens.map Prod.fst = Members.names members := by
  induction each with
  | nil => rfl
  | cons first _ ih => exact congrArg₂ List.cons (entry_ok_iff.mp first).1 ih

theorem described_of_entries (each : List.Forall₂ (fun (m : Text × Json) t => entry m.1 m.2 = .ok t) members tokens)
    {m : Text × Json} (member : m ∈ members) : ∃ p, (m.1, p) ∈ tokens ∧ Describes m.2 p := by
  induction each with
  | nil => cases member
  | @cons n t _ _ first _ ih =>
    rcases List.mem_cons.mp member with rfl | there
    · obtain ⟨named, describes⟩ := entry_ok_iff.mp first
      exact ⟨t.2, named ▸ List.mem_cons_self, describes⟩
    · obtain ⟨p, inside, describes⟩ := ih there
      exact ⟨p, List.mem_cons_of_mem t inside, describes⟩

theorem lists_of_entries (distinct : Members.Distinct members)
    (each : List.Forall₂ (fun (m : Text × Json) t => entry m.1 m.2 = .ok t) members tokens) : Lists members tokens := by
  have once : (tokens.map Prod.fst).Nodup := names_of_entries each ▸ distinct
  refine ⟨names_of_entries each, once, fun m member => ?_⟩
  obtain ⟨p, inside, describes⟩ := described_of_entries each member
  exact ⟨p, (find?_eq_some_iff once).mpr inside, describes⟩

theorem ofJson_ok {v : Json} (taken : ofJson v = .ok tokens) :
    ∃ members, v = .obj members ∧ List.Forall₂ (fun (m : Text × Json) t => entry m.1 m.2 = .ok t) members tokens := by
  cases v with
  | obj members =>
    rcases mapM_cases (fun m : Text × Json => entry m.1 m.2) members with ⟨found, run, each⟩ | ⟨e, run, -⟩
    · cases run.symm.trans taken
      exact ⟨members, rfl, each⟩
    · cases run.symm.trans taken
  | _ => cases taken

theorem ofJson_taken (described : ∀ m ∈ members, ∃ p, Describes m.2 p) :
    ∃ tokens, ofJson (.obj members) = .ok tokens := by
  rcases mapM_cases (fun m : Text × Json => entry m.1 m.2) members with ⟨tokens, run, -⟩ | ⟨e, -, m, member, failed⟩
  · exact ⟨tokens, run⟩
  · obtain ⟨p, describes⟩ := described m member
    have taken : entry m.1 m.2 = .ok (m.1, p) := entry_ok_iff.mpr ⟨rfl, describes⟩
    cases failed.symm.trans taken

variable {tree : Tree} {path : Path}

theorem ofText_ok_iff {t : Text} : ofText t = .ok tokens ↔ ∃ v, Json.read (plainNewlines t) = .ok v ∧ ofJson v = .ok tokens := by
  unfold ofText
  cases read : Json.read (plainNewlines t) with
  | error fault =>
    constructor
    · intro taken
      cases taken
    · rintro ⟨_, same, _⟩
      cases same
  | ok v =>
    constructor
    · exact fun taken => ⟨v, rfl, taken⟩
    · rintro ⟨w, same, taken⟩
      cases same
      exact taken

theorem load_ok_iff : load tree path = .ok tokens ↔
    ∃ content v, tree.node? path = some (.file content) ∧ Holds content v ∧ ofJson v = .ok tokens := by
  constructor
  · intro loaded
    unfold load at loaded
    split at loaded
    · cases loaded
    · cases loaded
    · rename_i content there
      split at loaded
      · cases loaded
      · rename_i t decoded
        obtain ⟨v, read, taken⟩ := ofText_ok_iff.mp (Fault.mapError_ok_iff.mp loaded)
        exact ⟨content, v, there, ⟨t, decoded, read⟩, taken⟩
  · rintro ⟨content, v, there, ⟨t, decoded, read⟩, taken⟩
    simp only [load, there, decoded]
    exact Fault.mapError_ok_iff.mpr (ofText_ok_iff.mpr ⟨v, read, taken⟩)

theorem load_lists (loaded : load tree path = .ok tokens) :
    ∃ content members, tree.node? path = some (.file content) ∧ Holds content (.obj members) ∧ Lists members tokens := by
  obtain ⟨content, v, there, holds, taken⟩ := load_ok_iff.mp loaded
  obtain ⟨members, rfl, each⟩ := ofJson_ok taken
  exact ⟨content, members, there, holds, lists_of_entries holds.distinct each⟩

-- What comes of a file: the table of its document, or none at all because there is no such document or an entry of it
-- describes nobody.
inductive Loads (content : List UInt8) : Except Fault Tokens → Prop where
  | table {members : Members} {tokens : Tokens} (holds : Holds content (.obj members)) (lists : Lists members tokens)
      (marked : ∀ t ∈ tokens, ∃ mark, t.2.id.Spells mark ∧ t.2.id.Marks mark) : Loads content (.ok tokens)
  | refused {fault : Fault}
      (unlisted : ∀ members, Holds content (.obj members) → ∃ m ∈ members, ∀ p, ¬ Describes m.2 p) : Loads content (.error fault)

theorem load_loads {content : List UInt8} (there : tree.node? path = some (.file content)) : Loads content (load tree path) := by
  cases loaded : load tree path with
  | ok tokens =>
    obtain ⟨content', members, there', holds, lists⟩ := load_lists loaded
    cases there.symm.trans there'
    exact .table holds lists fun t _ => ⟨_, t.2.id.spells_text, t.2.id.text_marks⟩
  | error fault =>
    refine .refused fun members holds => ?_
    by_contra listed
    push Not at listed
    obtain ⟨tokens, taken⟩ := ofJson_taken listed
    cases loaded.symm.trans (load_ok_iff.mpr ⟨content, _, there, holds, taken⟩)

theorem load_of_any {test : Tokens → Bool} (passed : (load tree path).toOption.any test = true) :
    ∃ tokens, load tree path = .ok tokens ∧ test tokens = true := by
  cases loaded : load tree path with
  | error fault =>
    rw [loaded] at passed
    cases passed
  | ok tokens =>
    rw [loaded] at passed
    exact ⟨tokens, rfl, passed⟩

def tablePath : Path := Path.ofText "/srv/tokens.json"

def tableTree (t : Text) : Tree := ⟨[(tablePath, .file (Utf8.encode t))]⟩

theorem tableTree_file (t : Text) : (tableTree t).node? tablePath = some (.file (Utf8.encode t)) := rfl

def twoUsers : Text :=
  "\x7b\"tok-a\": \x7b\"id\": 7, \"sdk_address\": \"http://backend:5279/\"\x7d, \"tok b\": \x7b\"id\": -3, \"sdk_address\": \"\"\x7d\x7d"

theorem twoUsers_loads :
    (tableTree twoUsers).node? tablePath = some (.file (Utf8.encode twoUsers)) ∧
      Loads (Utf8.encode twoUsers) (load (tableTree twoUsers) tablePath) ∧
      (load (tableTree twoUsers) tablePath).toOption.map (List.map fun t => (t.1, t.2.id, t.2.address)) =
        some ([("tok-a", .number 7, some "http://backend:5279/"), ("tok b", .number (-3), none)] :
          List (Text × UserId × Option Text)) :=
  ⟨tableTree_file twoUsers, load_loads (tableTree_file twoUsers), by decide +kernel⟩

def truthTable : Text := "\x7b\"tok\": \x7b\"id\": true\x7d\x7d"

theorem truthTable_taken :
    ∃ tokens, load (tableTree truthTable) tablePath = .ok tokens ∧
      ¬ ∀ t ∈ tokens, ∃ n : Int, t.2.id = .number n ∧ t.2.id.Marks (Text.ofInt n) := by
  have taken : (load (tableTree truthTable) tablePath).toOption.any (List.any · fun t => t.2.id = .truth true) = true := by
    decide +kernel
  obtain ⟨tokens, loaded, listed⟩ := load_of_any taken
  obtain ⟨t, member, truth⟩ := List.any_eq_true.mp listed
  refine ⟨tokens, loaded, fun numbered => ?_⟩
  obtain ⟨n, number, -⟩ := numbered t member
  cases (of_decide_eq_true truth).symm.trans number

end Tokens

end UploadRelay
