import UploadRelay.Json.Value
-- Members of objects: putting one under a name keeps names distinct, adds nothing but the new
-- value, and puts a new name at the end. What is found under a name, in parts of an object too.

namespace UploadRelay.Members

def names (members : Members) : List Text := members.map (·.1)

def Distinct (members : Members) : Prop := (names members).Nodup

theorem put_fresh {members : Members} {name : Text} (fresh : name ∉ names members) (value : Json) :
    put name value members = members ++ [(name, value)] := by
  induction members with
  | nil => rfl
  | cons m rest ih =>
    have apart : name ≠ m.1 ∧ name ∉ names rest := by
      simpa [names] using fresh
    rw [put, if_neg (Ne.symm apart.1), ih apart.2, List.cons_append]

theorem mem_put {members : Members} {name : Text} {value : Json} {m : Text × Json} (member : m ∈ put name value members) :
    m = (name, value) ∨ m ∈ members := by
  induction members with
  | nil => exact Or.inl (List.mem_singleton.mp member)
  | cons n rest ih =>
    rw [put] at member
    split at member
    · rcases List.mem_cons.mp member with here | there
      · exact Or.inl here
      · exact Or.inr (List.mem_cons_of_mem n there)
    · rcases List.mem_cons.mp member with here | there
      · exact Or.inr (here ▸ List.mem_cons_self)
      · rcases ih there with new | old
        · exact Or.inl new
        · exact Or.inr (List.mem_cons_of_mem n old)

theorem names_put_known {members : Members} {name : Text} (known : name ∈ names members) (value : Json) :
    names (put name value members) = names members := by
  induction members with
  | nil => cases known
  | cons m rest ih =>
    rw [put]
    split
    · rename_i same
      simp [names, same]
    · rename_i apart
      have behind : name ∈ names rest := by
        rcases List.mem_cons.mp known with here | there
        · exact absurd here.symm apart
        · exact there
      have tail := ih behind
      simp only [names, List.map_cons] at tail ⊢
      rw [tail]

theorem names_put_fresh {members : Members} {name : Text} (fresh : name ∉ names members) (value : Json) :
    names (put name value members) = names members ++ [name] := by
  rw [put_fresh fresh, names, List.map_append]
  rfl

theorem Distinct.put {members : Members} (distinct : Distinct members) (name : Text) (value : Json) :
    Distinct (put name value members) := by
  unfold Distinct
  by_cases known : name ∈ names members
  · rw [names_put_known known]
    exact distinct
  · rw [names_put_fresh known]
    exact List.nodup_append.mpr ⟨distinct, List.pairwise_singleton _ name, fun x old y new same =>
      known (List.mem_singleton.mp new ▸ same ▸ old)⟩

theorem Distinct.putAll {members : Members} (distinct : Distinct members) (more : Members) :
    Distinct (putAll members more) := by
  induction more generalizing members with
  | nil => exact distinct
  | cons m rest ih => exact ih (distinct.put m.1 m.2)

theorem distinct_ofPairs (pairs : Members) : Distinct (ofPairs pairs) :=
  Distinct.putAll (show Distinct [] from List.nodup_nil) pairs

theorem mem_putAll {members more : Members} {m : Text × Json} (member : m ∈ putAll members more) :
    m ∈ members ∨ m ∈ more := by
  induction more generalizing members with
  | nil => exact Or.inl member
  | cons n rest ih =>
    rcases ih member with here | there
    · rcases mem_put here with new | old
      · exact Or.inr (new ▸ List.mem_cons_self)
      · exact Or.inl old
    · exact Or.inr (List.mem_cons_of_mem n there)

theorem mem_ofPairs {pairs : Members} {m : Text × Json} (member : m ∈ ofPairs pairs) : m ∈ pairs := by
  rcases mem_putAll member with empty | there
  · cases empty
  · exact there

theorem putAll_distinct {members more : Members} (distinct : Distinct (members ++ more)) :
    putAll members more = members ++ more := by
  induction more generalizing members with
  | nil => exact (List.append_nil members).symm
  | cons m rest ih =>
    have fresh : m.1 ∉ names members := by
      intro known
      have apart := (List.nodup_append.mp (by simpa [Distinct, names] using distinct)).2.2
      exact apart m.1 known m.1 List.mem_cons_self rfl
    have shifted : members ++ m :: rest = members ++ [(m.1, m.2)] ++ rest := by simp
    rw [shifted] at distinct ⊢
    rw [← put_fresh fresh] at distinct ⊢
    exact ih distinct

theorem ofPairs_distinct {members : Members} (distinct : Distinct members) : ofPairs members = members :=
  putAll_distinct (show Distinct ([] ++ members) from distinct)

theorem names_putAll_front (members more : Members) : names members <+: names (putAll members more) := by
  induction more generalizing members with
  | nil => exact List.prefix_refl _
  | cons m rest ih =>
    refine List.IsPrefix.trans ?_ (ih (put m.1 m.2 members))
    by_cases known : m.1 ∈ names members
    · exact ⟨[], by rw [List.append_nil, names_put_known known]⟩
    · exact ⟨[m.1], (names_put_fresh known m.2).symm⟩

theorem putAll_append (members front back : Members) : putAll members (front ++ back) = putAll (putAll members front) back :=
  List.foldl_append

theorem get?_mem {members : Members} {name : Text} {value : Json} (found : get? members name = some value) :
    (name, value) ∈ members := by
  induction members with
  | nil => cases found
  | cons m rest ih =>
    rw [get?] at found
    split at found
    · rename_i same
      cases found
      cases same
      exact List.mem_cons_self
    · exact List.mem_cons_of_mem m (ih found)

theorem Distinct.get? {members : Members} (distinct : Distinct members) {name : Text} {value : Json}
    (member : (name, value) ∈ members) : get? members name = some value := by
  induction members with
  | nil => cases member
  | cons m rest ih =>
    obtain ⟨fresh, distinctRest⟩ := List.nodup_cons.mp (show (m.1 :: names rest).Nodup from distinct)
    rw [Members.get?]
    rcases List.mem_cons.mp member with here | there
    · rw [← here, if_pos rfl]
    · have apart : m.1 ≠ name := by
        intro same
        exact fresh (same ▸ List.mem_map_of_mem there)
      rw [if_neg apart]
      exact ih distinctRest there

theorem get?_putAll {members more : Members} {name : Text} {value : Json}
    (only : ∀ m ∈ more, m.1 = name → m.2 = value)
    (there : get? members name = some value ∨ ∃ m ∈ more, m.1 = name) : get? (putAll members more) name = some value := by
  induction more generalizing members with
  | nil =>
    rcases there with found | ⟨m, member, -⟩
    · exact found
    · cases member
  | cons n rest ih =>
    apply ih (fun m member => only m (List.mem_cons_of_mem n member))
    by_cases same : n.1 = name
    · left
      rw [← same, get?_put_same, only n List.mem_cons_self same]
    · rcases there with found | ⟨m, member, named⟩
      · left
        rw [get?_put_other members n.2 (Ne.symm same)]
        exact found
      · right
        rcases List.mem_cons.mp member with here | behind
        · exact absurd (here ▸ named) same
        · exact ⟨m, behind, named⟩

theorem get?_append (front back : Members) (name : Text) :
    get? (front ++ back) name = (get? front name).or (get? back name) := by
  induction front with
  | nil => rfl
  | cons m rest ih =>
    rw [List.cons_append, get?, get?]
    split
    · rfl
    · exact ih

theorem get?_putAll_last (members more : Members) (name : Text) :
    get? (putAll members more) name = (get? more.reverse name).or (get? members name) := by
  induction more generalizing members with
  | nil => rfl
  | cons m rest ih =>
    show get? (putAll (put m.1 m.2 members) rest) name = _
    rw [ih, List.reverse_cons, get?_append, Option.or_assoc]
    congr 1
    by_cases same : m.1 = name
    · rw [← same, get?_put_same, get?, if_pos rfl, Option.some_or]
    · rw [get?_put_other members m.2 (Ne.symm same), get?, if_neg same, get?, Option.none_or]

theorem get?_absent {members : Members} {name : Text} (absent : ∀ m ∈ members, m.1 ≠ name) : get? members name = none := by
  cases found : get? members name with
  | none => rfl
  | some v => exact absurd rfl (absent _ (get?_mem found))

theorem get?_eq_none_iff {members : Members} {name : Text} : get? members name = none ↔ name ∉ names members := by
  constructor
  · intro missing named
    induction members with
    | nil => cases named
    | cons m rest ih =>
      rw [get?] at missing
      split at missing
      · cases missing
      · rename_i apart
        exact ih missing ((List.mem_cons.mp named).resolve_left (Ne.symm apart))
  · intro unnamed
    exact get?_absent fun m member same => unnamed (same ▸ List.mem_map_of_mem member)

theorem get?_without {names : List Text} {name : Text} (kept : name ∉ names) (members : Members) :
    get? (without members names) name = get? members name := by
  induction members with
  | nil => rfl
  | cons m rest ih =>
    rw [without, List.filter_cons, get?]
    split
    · rw [get?, ← ih]
      rfl
    · rename_i dropped
      have known : m.1 ∈ names := by simpa using dropped
      have apart : m.1 ≠ name := fun same => kept (same ▸ known)
      rw [if_neg apart]
      exact ih

theorem Distinct.without {members : Members} (distinct : Distinct members) (names : List Text) :
    Distinct (without members names) :=
  List.Nodup.sublist (List.Sublist.map Prod.fst List.filter_sublist) distinct

theorem get?_putAll_distinct {members more : Members} (distinct : Distinct more) (name : Text) :
    get? (putAll members more) name = (get? more name).or (get? members name) := by
  have reversed : Distinct more.reverse := ((List.reverse_perm more).map Prod.fst).nodup_iff.mpr distinct
  rw [get?_putAll_last]
  congr 1
  apply Option.ext
  intro v
  constructor
  · intro found
    exact distinct.get? (List.mem_reverse.mp (get?_mem found))
  · intro found
    exact reversed.get? (List.mem_reverse.mpr (get?_mem found))

end UploadRelay.Members
