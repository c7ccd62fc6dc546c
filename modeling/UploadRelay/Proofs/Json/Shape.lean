import UploadRelay.Proofs.Json.Members
import UploadRelay.Proofs.Json.Strings
-- The shape of JSON values: induction over what stands inside a value, the values that a
-- document can hold, and what becomes of a value that is written and read again.

namespace UploadRelay

namespace Json

@[elab_as_elim]
theorem nested {P : Json → Prop} (null : P .null) (bool : ∀ b, P (.bool b)) (int : ∀ n, P (.int n))
    (float : ∀ x, P (.float x)) (str : ∀ t, P (.str t)) (arr : ∀ xs, (∀ x ∈ xs, P x) → P (.arr xs))
    (obj : ∀ ms, (∀ m ∈ ms, P m.2) → P (.obj ms)) (foreign : ∀ f, P (.foreign f)) (v : Json) : P v := by
  refine @Json.rec P (fun xs => ∀ x ∈ xs, P x) (fun ms => ∀ m ∈ ms, P m.2) (fun m => P m.2)
    null bool int float str arr obj foreign ?nil ?cons ?nilMembers ?consMembers ?pair v
  case nil =>
    intro x member
    cases member
  case cons =>
    intro y rest head tail x member
    rcases List.mem_cons.mp member with here | there
    · rw [here]
      exact head
    · exact tail x there
  case nilMembers =>
    intro m member
    cases member
  case consMembers =>
    intro n rest head tail m member
    rcases List.mem_cons.mp member with here | there
    · rw [here]
      exact head
    · exact tail m there
  case pair =>
    intro name v reached
    exact reached

-- Values that the reader takes at this depth: not nested deeper, no whole number of too many
-- digits.
inductive Fits : (depth : Nat) → Json → Prop where
  | null (depth : Nat) : Fits depth .null
  | bool (depth : Nat) (b : Bool) : Fits depth (.bool b)
  | int (depth : Nat) {n : Int} (short : (Text.ofNat n.natAbs).length ≤ digitLimit) : Fits depth (.int n)
  | float (depth : Nat) (x : Double) : Fits depth (.float x)
  | str (depth : Nat) (t : Text) : Fits depth (.str t)
  | arr {depth : Nat} {xs : List Json} (all : ∀ x ∈ xs, Fits depth x) : Fits (depth + 1) (.arr xs)
  | obj {depth : Nat} {ms : List (Text × Json)} (all : ∀ m ∈ ms, Fits depth m.2) : Fits (depth + 1) (.obj ms)
  | foreign (depth : Nat) (f : Foreign) : Fits depth (.foreign f)

mutual

def reread : Json → Json
  | .str t => .str (paired t)
  | .arr xs => .arr (rereadElements xs)
  | .obj ms => .obj (Members.ofPairs (rereadMembers ms))
  | .foreign f => .str (paired f.shown)
  | v => v

def rereadElements : List Json → List Json
  | [] => []
  | x :: rest => reread x :: rereadElements rest

def rereadMembers : List (Text × Json) → List (Text × Json)
  | [] => []
  | (name, x) :: rest => (paired name, reread x) :: rereadMembers rest

end

theorem rereadElements_map (xs : List Json) : rereadElements xs = xs.map reread := by
  induction xs with
  | nil => rfl
  | cons x rest ih => rw [rereadElements, ih, List.map_cons]

theorem rereadMembers_map (ms : List (Text × Json)) :
    rereadMembers ms = ms.map fun m => (paired m.1, reread m.2) := by
  induction ms with
  | nil => rfl
  | cons m rest ih => rw [rereadMembers, ih, List.map_cons]

inductive Decoded : Json → Prop where
  | null : Decoded .null
  | bool (b : Bool) : Decoded (.bool b)
  | int (n : Int) : Decoded (.int n)
  | float (x : Double) : Decoded (.float x)
  | str (t : Text) : Decoded (.str t)
  | arr {xs : List Json} (all : ∀ x ∈ xs, Decoded x) : Decoded (.arr xs)
  | obj {ms : List (Text × Json)} (distinct : Members.Distinct ms) (all : ∀ m ∈ ms, Decoded m.2) : Decoded (.obj ms)

inductive Texts (P : Text → Prop) : Json → Prop where
  | null : Texts P .null
  | bool (b : Bool) : Texts P (.bool b)
  | int (n : Int) : Texts P (.int n)
  | float (x : Double) : Texts P (.float x)
  | str {t : Text} (holds : P t) : Texts P (.str t)
  | arr {xs : List Json} (all : ∀ x ∈ xs, Texts P x) : Texts P (.arr xs)
  | obj {ms : List (Text × Json)} (names : ∀ m ∈ ms, P m.1) (all : ∀ m ∈ ms, Texts P m.2) : Texts P (.obj ms)
  | foreign {f : Foreign} (holds : P f.shown) : Texts P (.foreign f)

mutual

def texts : Json → List Text
  | .str t => [t]
  | .arr xs => textsInElements xs
  | .obj ms => textsInMembers ms
  | .foreign f => [f.shown]
  | _ => []

def textsInElements : List Json → List Text
  | [] => []
  | x :: rest => texts x ++ textsInElements rest

def textsInMembers : List (Text × Json) → List Text
  | [] => []
  | (name, x) :: rest => name :: texts x ++ textsInMembers rest

end

theorem mem_textsInElements {xs : List Json} {t : Text} : t ∈ textsInElements xs ↔ ∃ x ∈ xs, t ∈ texts x := by
  induction xs with
  | nil => simp [textsInElements]
  | cons x rest ih => simp [textsInElements, ih]

theorem mem_textsInMembers {ms : List (Text × Json)} {t : Text} :
    t ∈ textsInMembers ms ↔ ∃ m ∈ ms, t = m.1 ∨ t ∈ texts m.2 := by
  induction ms with
  | nil => simp [textsInMembers]
  | cons m rest ih => simp [textsInMembers, ih, or_assoc]

theorem texts_iff {P : Text → Prop} (v : Json) : Texts P v ↔ ∀ t ∈ texts v, P t := by
  induction v using nested with
  | null => exact ⟨fun _ t member => (nomatch member), fun _ => .null⟩
  | bool b => exact ⟨fun _ t member => (nomatch member), fun _ => .bool b⟩
  | int n => exact ⟨fun _ t member => (nomatch member), fun _ => .int n⟩
  | float x => exact ⟨fun _ t member => (nomatch member), fun _ => .float x⟩
  | str t =>
    rw [texts, List.forall_mem_singleton]
    exact ⟨fun | .str holds => holds, .str⟩
  | arr xs ih =>
    simp only [texts, mem_textsInElements]
    constructor
    · rintro (_ | _ | _ | _ | _ | ⟨all⟩) t ⟨x, member, inside⟩
      exact (ih x member).mp (all x member) t inside
    · exact fun all => .arr fun x member => (ih x member).mpr fun t inside => all t ⟨x, member, inside⟩
  | obj ms ih =>
    simp only [texts, mem_textsInMembers]
    constructor
    · rintro (_ | _ | _ | _ | _ | _ | ⟨names, all⟩) t ⟨m, member, rfl | inside⟩
      · exact names m member
      · exact (ih m member).mp (all m member) t inside
    · exact fun all => .obj (fun m member => all m.1 ⟨m, member, Or.inl rfl⟩) fun m member =>
        (ih m member).mpr fun t inside => all t ⟨m, member, Or.inr inside⟩
  | foreign f =>
    rw [texts, List.forall_mem_singleton]
    exact ⟨fun | .foreign holds => holds, .foreign⟩

instance (t : Text) : Decidable (Unpaired t) := inferInstanceAs (Decidable (paired t = t))

instance (P : Text → Prop) [DecidablePred P] (v : Json) : Decidable (Texts P v) := decidable_of_iff _ (texts_iff v).symm

-- Decoded values without pairs of surrogates read back as they are.
theorem reread_decoded {v : Json} (decoded : Decoded v) (unpaired : Texts Unpaired v) : reread v = v := by
  induction decoded with
  | null => rfl
  | bool _ => rfl
  | int _ => rfl
  | float _ => rfl
  | str t =>
    cases unpaired with
    | str holds => rw [reread, holds]
  | @arr xs all ih =>
    cases unpaired with
    | arr texts =>
      have each : xs.map reread = xs.map id := List.map_congr_left fun x member => ih x member (texts x member)
      rw [reread, rereadElements_map, each, List.map_id]
  | @obj ms distinct all ih =>
    cases unpaired with
    | obj names texts =>
      have each : (ms.map fun m => (paired m.1, reread m.2)) = ms.map id := by
        apply List.map_congr_left
        intro m member
        rw [names m member, ih m member (texts m member)]
        rfl
      rw [reread, rereadMembers_map, each, List.map_id, Members.ofPairs_distinct distinct]

theorem reread_decodes (v : Json) : Decoded (reread v) := by
  induction v using nested with
  | null => exact .null
  | bool b => exact .bool b
  | int n => exact .int n
  | float x => exact .float x
  | str t => exact .str _
  | arr xs ih =>
    rw [reread, rereadElements_map]
    exact .arr (List.forall_mem_map.mpr ih)
  | obj ms ih =>
    rw [reread, rereadMembers_map]
    refine .obj (Members.distinct_ofPairs _) fun m member => ?_
    obtain ⟨n, inside, rfl⟩ := List.mem_map.mp (Members.mem_ofPairs member)
    exact ih n inside
  | foreign f => exact .str _

theorem reread_unpaired (v : Json) : Texts Unpaired (reread v) := by
  induction v using nested with
  | null => exact .null
  | bool b => exact .bool b
  | int n => exact .int n
  | float x => exact .float x
  | str t => exact .str (paired_unpaired t)
  | arr xs ih =>
    rw [reread, rereadElements_map]
    exact .arr (List.forall_mem_map.mpr ih)
  | obj ms ih =>
    rw [reread, rereadMembers_map]
    refine .obj (fun m member => ?_) fun m member => ?_
    · obtain ⟨n, -, rfl⟩ := List.mem_map.mp (Members.mem_ofPairs member)
      exact paired_unpaired n.1
    · obtain ⟨n, inside, rfl⟩ := List.mem_map.mp (Members.mem_ofPairs member)
      exact ih n inside
  | foreign f => exact .str (paired_unpaired _)

theorem reread_reread (v : Json) : reread (reread v) = reread v := reread_decoded (reread_decodes v) (reread_unpaired v)

theorem Fits.reread {depth : Nat} {v : Json} (fits : Fits depth v) : Fits depth v.reread := by
  induction fits with
  | null => exact .null _
  | bool _ b => exact .bool _ b
  | int _ short => exact .int _ short
  | float _ x => exact .float _ x
  | str _ t => exact .str _ _
  | arr _ ih =>
    rw [Json.reread, rereadElements_map]
    exact .arr (List.forall_mem_map.mpr ih)
  | @obj _ ms _ ih =>
    rw [Json.reread, rereadMembers_map]
    refine .obj fun m member => ?_
    obtain ⟨n, inside, rfl⟩ := List.mem_map.mp (Members.mem_ofPairs member)
    exact ih n inside
  | foreign _ f => exact .str _ _

-- The member under a name that no other name reads back as, in an object that was written and read again.
theorem get?_reread_alone {members : Members} (distinct : Members.Distinct members) {name : Text} {value : Json}
    (found : Members.get? members name = some value) (alone : ∀ m ∈ members, paired m.1 = paired name → m.1 = name) :
    Members.get? (Members.ofPairs (rereadMembers members)) (paired name) = some (reread value) := by
  rw [rereadMembers_map]
  refine Members.get?_putAll ?_ (Or.inr ⟨_, List.mem_map_of_mem (Members.get?_mem found), rfl⟩)
  intro m member named
  obtain ⟨⟨other, v⟩, inside, rfl⟩ := List.mem_map.mp member
  have same : other = name := alone _ inside named
  subst same
  have unique : some v = some value := (distinct.get? inside).symm.trans found
  rw [Option.some.inj unique]

theorem get?_reread {members : Members} (distinct : Members.Distinct members) {name : Text}
    (small : ∀ c ∈ name, c.val < 0xD800) {value : Json} (found : Members.get? members name = some value) :
    Members.get? (Members.ofPairs (rereadMembers members)) name = some (reread value) := by
  have self : paired name = name := paired_of_small small
  have reads := get?_reread_alone distinct found fun m _ named =>
    paired_small (fun c there => Nat.lt_trans (small c there) (by decide)) (named.trans self)
  rwa [self] at reads

theorem get?_reread_absent {members : Members} {name : Text} (small : ∀ c ∈ name, c.val < 0x10000)
    (absent : name ∉ Members.names members) : Members.get? (Members.ofPairs (rereadMembers members)) name = none := by
  rw [rereadMembers_map]
  cases found : Members.get? (Members.ofPairs (members.map fun m => (paired m.1, reread m.2))) name with
  | none => rfl
  | some value =>
    obtain ⟨m, inside, same⟩ := List.mem_map.mp (Members.mem_ofPairs (Members.get?_mem found))
    have named : m.1 = name := paired_small small (congrArg Prod.fst same)
    exact absurd (named ▸ List.mem_map_of_mem inside) absent

end Json

end UploadRelay
