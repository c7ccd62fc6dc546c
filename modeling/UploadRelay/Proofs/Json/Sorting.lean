import Mathlib.Data.List.Lex
import UploadRelay.Proofs.Json.Likeness
-- The order of sorted members. It depends on nothing but their names, so values that are alike
-- have one sorted text.

namespace UploadRelay

namespace Text

def points (t : Text) : List Nat := t.map (·.val)

theorem points_injective {s t : Text} (same : points s = points t) : s = t :=
  List.map_injective_iff.mpr (fun _ _ => CodePoint.ext_val) same

theorem compare_lt {s t : Text} : compare s t = .lt ↔ points s < points t := by
  induction s generalizing t with
  | nil =>
    cases t with
    | nil => exact ⟨fun less => (nomatch less), fun less => absurd less (lt_irrefl _)⟩
    | cons b t => exact ⟨fun _ => List.nil_lt_cons _ _, fun _ => rfl⟩
  | cons a s ih =>
    cases t with
    | nil => exact ⟨fun less => (nomatch less), fun less => absurd less (List.not_lt_nil _)⟩
    | cons b t =>
      show _ ↔ a.val :: points s < b.val :: points t
      rw [compare, List.cons_lt_cons_iff, ← ih]
      by_cases less : a.val < b.val
      · simp [less]
      · by_cases more : b.val < a.val
        · simp [less, more, (Nat.ne_of_lt more).symm]
        · have same : a.val = b.val := by omega
          simp [same]

end Text

namespace Json

open Text

def InOrder (ms : Members) : Prop := ms.Pairwise fun m n => points m.1 < points n.1

theorem insertSorted_inOrder {m : Text × Json} {ms : Members} (ordered : InOrder ms) (fresh : m.1 ∉ Members.names ms) :
    InOrder (insertSorted m ms) := by
  induction ms with
  | nil => exact List.pairwise_singleton _ m
  | cons n rest ih =>
    obtain ⟨first, behind⟩ := List.pairwise_cons.mp ordered
    rw [insertSorted]
    split
    · rename_i less
      have front := compare_lt.mp less
      refine List.pairwise_cons.mpr ⟨fun other there => ?_, ordered⟩
      rcases List.mem_cons.mp there with rfl | later
      · exact front
      · exact lt_trans front (first other later)
    · rename_i behindFirst
      have apart : m.1 ≠ n.1 := fun same => fresh (same ▸ List.mem_cons_self)
      have more : points n.1 < points m.1 := by
        rcases lt_trichotomy (points m.1) (points n.1) with less | same | more
        · exact absurd (compare_lt.mpr less) behindFirst
        · exact absurd (points_injective same) apart
        · exact more
      refine List.pairwise_cons.mpr ⟨fun other there => ?_, ih behind fun later => fresh (List.mem_cons_of_mem _ later)⟩
      rcases List.mem_cons.mp ((insertSorted_perm m rest).mem_iff.mp there) with rfl | later
      · exact more
      · exact first other later

theorem insertAll_inOrder {more done : Members} (ordered : InOrder done) (distinct : Members.Distinct (more ++ done)) :
    InOrder (more.foldl (fun done m => insertSorted m done) done) := by
  induction more generalizing done with
  | nil => exact ordered
  | cons m rest ih =>
    have moved : Members.Distinct (rest ++ insertSorted m done) :=
      distinct.perm (((insertSorted_perm m done).append_left rest).trans List.perm_middle).symm
    have fresh : m.1 ∉ Members.names done := by
      intro there
      refine (List.nodup_cons.mp distinct).1 ?_
      show m.1 ∈ (rest ++ done).map Prod.fst
      rw [List.map_append]
      exact List.mem_append_right _ there
    exact ih (insertSorted_inOrder ordered fresh) moved

theorem sortMembers_inOrder {ms : Members} (distinct : Members.Distinct ms) : InOrder (sortMembers ms) :=
  insertAll_inOrder List.Pairwise.nil (by rwa [List.append_nil])

theorem writtenElements_joined (xs : List Json) : writtenElements xs = Text.joined ", " (xs.map written) := by
  induction xs with
  | nil => rfl
  | cons x rest ih =>
    cases rest with
    | nil => rfl
    | cons y rest =>
      rw [writtenElements, ih]
      rfl

def spelled (ms : Members) : List (Text × Text) := ms.map fun m => (m.1, written m.2)

theorem writtenMembers_joined (ms : Members) :
    writtenMembers ms = Text.joined ", " ((spelled ms).map fun m => writtenString m.1 ++ ": " ++ m.2) := by
  induction ms with
  | nil => rfl
  | cons m rest ih =>
    cases rest with
    | nil => rfl
    | cons n rest =>
      rw [writtenMembers, ih]
      rfl

theorem InOrder.spelled {ms : Members} (ordered : InOrder ms) :
    (spelled ms).Pairwise fun m n => points m.1 < points n.1 := List.pairwise_map.mpr ordered

theorem spelled_inOrder {ms ns : Members} (ordered : InOrder ms) (ordered' : InOrder ns)
    (same : ∀ m, m ∈ spelled ms ↔ m ∈ spelled ns) : spelled ms = spelled ns := by
  have distinct : ∀ {ls : Members}, InOrder ls → (spelled ls).Nodup := by
    intro ls inOrder
    refine inOrder.spelled.imp fun {m n} less same => ?_
    rw [same] at less
    exact lt_irrefl _ less
  have perm := (List.perm_ext_iff_of_nodup (distinct ordered) (distinct ordered')).mpr same
  exact perm.eq_of_pairwise (fun m n _ _ less more => absurd (lt_trans less more) (lt_irrefl _)) ordered.spelled
    ordered'.spelled

theorem mem_spelled_sorted {ms : Members} (distinct : Members.Distinct ms) (m : Text × Text) :
    m ∈ spelled (sortMembers (sortedMembers ms)) ↔ (Members.get? ms m.1).map (fun v => written v.sorted) = some m.2 := by
  rw [spelled, List.mem_map, sortedMembers_map, Option.map_eq_some_iff]
  constructor
  · rintro ⟨n, there, rfl⟩
    obtain ⟨k, member, rfl⟩ := List.mem_map.mp ((sortMembers_perm _).mem_iff.mp there)
    exact ⟨k.2, distinct.get? member, rfl⟩
  · rintro ⟨v, found, text⟩
    have member := List.mem_map_of_mem (f := fun k : Text × Json => (k.1, k.2.sorted)) (Members.get?_mem found)
    exact ⟨(m.1, v.sorted), (sortMembers_perm _).mem_iff.mpr member, Prod.ext rfl text⟩

theorem distinct_sorted {ms : Members} (distinct : Members.Distinct ms) : Members.Distinct (sortedMembers ms) := by
  rw [sortedMembers_map, Members.Distinct, Members.names_map]
  exact distinct

theorem spelled_sorted {ms ns : Members} (distinct : Members.Distinct ms) (distinct' : Members.Distinct ns)
    (values : ∀ name, (Members.get? ms name).map (fun v => written v.sorted) =
      (Members.get? ns name).map fun v => written v.sorted) :
    spelled (sortMembers (sortedMembers ms)) = spelled (sortMembers (sortedMembers ns)) := by
  refine spelled_inOrder (sortMembers_inOrder (distinct_sorted distinct)) (sortMembers_inOrder (distinct_sorted distinct'))
    fun m => ?_
  rw [mem_spelled_sorted distinct, mem_spelled_sorted distinct', values]

-- Values that are alike have one sorted text.
theorem written_of_alike {v w : Json} (alike : Alike v w) (decodedV : Decoded v) (decodedW : Decoded w) :
    written v.sorted = written w.sorted := by
  induction alike with
  | null => rfl
  | bool => rfl
  | int => rfl
  | float same => exact same
  | str => rfl
  | @arr xs ys long each ih =>
    cases decodedV with
    | arr decodedXs =>
      cases decodedW with
      | arr decodedYs =>
        have texts : (xs.map sorted).map written = (ys.map sorted).map written := by
          refine List.ext_getElem (by simpa using long) fun i inXs inYs => ?_
          simp only [List.length_map] at inXs inYs
          simp only [List.getElem_map]
          exact ih i xs[i] ys[i] (List.getElem?_eq_getElem inXs) (List.getElem?_eq_getElem inYs)
            (decodedXs _ (List.getElem_mem inXs)) (decodedYs _ (List.getElem_mem inYs))
        rw [sorted, sorted, written, written, sortedElements_map, sortedElements_map, writtenElements_joined,
          writtenElements_joined, texts]
  | @obj ms ns names each ih =>
    cases decodedV with
    | obj distinctMs decodedMs =>
      cases decodedW with
      | obj distinctNs decodedNs =>
        have values : ∀ name, (Members.get? ms name).map (fun v => written v.sorted) =
            (Members.get? ns name).map fun v => written v.sorted := by
          intro name
          have both := names name
          cases found : Members.get? ms name with
          | none =>
            rw [found] at both
            rw [Option.isSome_eq_false_iff.mp both.symm |> Option.isNone_iff_eq_none.mp]
          | some x =>
            rw [found] at both
            obtain ⟨y, found'⟩ := Option.isSome_iff_exists.mp both.symm
            rw [found']
            exact congrArg some (ih name x y found found' (decodedMs _ (Members.get?_mem found))
              (decodedNs _ (Members.get?_mem found')))
        rw [sorted, sorted, written, written, writtenMembers_joined, writtenMembers_joined,
          spelled_sorted distinctMs distinctNs values]

end Json

end UploadRelay
