import UploadRelay.Proofs.Json.Decoding
import UploadRelay.Proofs.Json.RoundTrip
-- Values that differ in the order of members only. Sorted, a value has one text, and the text
-- of a decoded value that names no surrogate is read back as that value.

namespace UploadRelay

def NoSurrogate (t : Text) : Prop := ∀ c ∈ t, c.isSurrogate = false

namespace Members

theorem Distinct.perm {ms ns : Members} (distinct : Distinct ms) (same : ms.Perm ns) : Distinct ns :=
  List.Perm.nodup (same.map Prod.fst) distinct

theorem Distinct.get?_perm {ms ns : Members} (distinct : Distinct ms) (same : ms.Perm ns) (name : Text) :
    Members.get? ms name = Members.get? ns name := by
  apply Option.ext
  intro v
  constructor
  · intro found
    exact (distinct.perm same).get? (same.mem_iff.mp (get?_mem found))
  · intro found
    exact distinct.get? (same.mem_iff.mpr (get?_mem found))

theorem get?_map (f : Json → Json) (ms : Members) (name : Text) :
    get? (ms.map fun m => (m.1, f m.2)) name = (get? ms name).map f := by
  induction ms with
  | nil => rfl
  | cons m rest ih =>
    rw [List.map_cons, get?, get?]
    split
    · rfl
    · exact ih

theorem names_map (f : Json → Json) (ms : Members) : names (ms.map fun m => (m.1, f m.2)) = names ms := by
  simp [names, Function.comp_def]

end Members

namespace Json

-- Equal but for the order of members, at every depth; floating numbers by their text.
inductive Alike : Json → Json → Prop where
  | null : Alike .null .null
  | bool (b : Bool) : Alike (.bool b) (.bool b)
  | int (n : Int) : Alike (.int n) (.int n)
  | float {x y : Double} (same : writtenDouble x = writtenDouble y) : Alike (.float x) (.float y)
  | str (t : Text) : Alike (.str t) (.str t)
  | arr {xs ys : List Json} (long : xs.length = ys.length)
      (each : ∀ (i : Nat) x y, xs[i]? = some x → ys[i]? = some y → Alike x y) : Alike (.arr xs) (.arr ys)
  | obj {ms ns : Members} (names : ∀ name, (Members.get? ms name).isSome = (Members.get? ns name).isSome)
      (each : ∀ name x y, Members.get? ms name = some x → Members.get? ns name = some y → Alike x y) :
      Alike (.obj ms) (.obj ns)

theorem sortedElements_map (xs : List Json) : sortedElements xs = xs.map sorted := by
  induction xs with
  | nil => rfl
  | cons x rest ih => rw [sortedElements, ih, List.map_cons]

theorem sortedMembers_map (ms : Members) : sortedMembers ms = ms.map fun m => (m.1, sorted m.2) := by
  induction ms with
  | nil => rfl
  | cons m rest ih => rw [sortedMembers, ih, List.map_cons]

theorem insertSorted_perm (m : Text × Json) (ms : Members) : (insertSorted m ms).Perm (m :: ms) := by
  induction ms with
  | nil => exact List.Perm.refl [m]
  | cons n rest ih =>
    rw [insertSorted]
    split
    · exact List.Perm.refl _
    · exact (ih.cons n).trans (List.Perm.swap m n rest)

theorem insertAll_perm (more done : Members) : (more.foldl (fun done m => insertSorted m done) done).Perm (more ++ done) := by
  induction more generalizing done with
  | nil => exact List.Perm.refl done
  | cons m rest ih =>
    have shifted : (rest ++ insertSorted m done).Perm (rest ++ m :: done) := (insertSorted_perm m done).append_left rest
    exact (ih (insertSorted m done)).trans (shifted.trans List.perm_middle)

theorem sortMembers_perm (ms : Members) : (sortMembers ms).Perm ms := by
  have all := insertAll_perm ms []
  rwa [List.append_nil] at all

theorem sorted_obj_perm (ms : Members) :
    ∃ ns, sorted (.obj ms) = .obj ns ∧ ns.Perm (ms.map fun m => (m.1, sorted m.2)) := by
  refine ⟨_, rfl, ?_⟩
  rw [sortedMembers_map]
  exact sortMembers_perm _

theorem mem_sorted_obj {ms ns : Members} (same : ns.Perm (ms.map fun m => (m.1, sorted m.2))) {n : Text × Json}
    (member : n ∈ ns) : ∃ m ∈ ms, n = (m.1, sorted m.2) := by
  obtain ⟨m, inside, shape⟩ := List.mem_map.mp (same.mem_iff.mp member)
  exact ⟨m, inside, shape.symm⟩

theorem Fits.sorted {depth : Nat} {v : Json} (fits : Fits depth v) : Fits depth v.sorted := by
  induction fits with
  | null => exact .null _
  | bool _ b => exact .bool _ b
  | int _ short => exact .int _ short
  | float _ x => exact .float _ x
  | str _ t => exact .str _ t
  | arr _ ih =>
    rw [Json.sorted, sortedElements_map]
    exact .arr (List.forall_mem_map.mpr ih)
  | @obj _ ms _ ih =>
    obtain ⟨ns, shape, same⟩ := sorted_obj_perm ms
    rw [shape]
    refine .obj fun n member => ?_
    obtain ⟨m, inside, rfl⟩ := mem_sorted_obj same member
    exact ih m inside
  | foreign _ f => exact .foreign _ f

theorem Fits.deeper {depth depth' : Nat} {v : Json} (fits : Fits depth v) (below : depth ≤ depth') : Fits depth' v := by
  induction fits generalizing depth' with
  | null => exact .null _
  | bool _ b => exact .bool _ b
  | int _ short => exact .int _ short
  | float _ x => exact .float _ x
  | str _ t => exact .str _ t
  | arr _ ih =>
    obtain ⟨depth', rfl⟩ : ∃ n, depth' = n + 1 := ⟨depth' - 1, by omega⟩
    exact .arr fun x member => ih x member (Nat.le_of_succ_le_succ below)
  | obj _ ih =>
    obtain ⟨depth', rfl⟩ : ∃ n, depth' = n + 1 := ⟨depth' - 1, by omega⟩
    exact .obj fun m member => ih m member (Nat.le_of_succ_le_succ below)
  | foreign _ f => exact .foreign _ f

theorem Decoded.sorted {v : Json} (decoded : Decoded v) : Decoded v.sorted := by
  induction decoded with
  | null => exact .null
  | bool b => exact .bool b
  | int n => exact .int n
  | float x => exact .float x
  | str t => exact .str t
  | arr _ ih =>
    rw [Json.sorted, sortedElements_map]
    exact .arr (List.forall_mem_map.mpr ih)
  | @obj ms distinct _ ih =>
    obtain ⟨ns, shape, same⟩ := sorted_obj_perm ms
    have mapped : Members.Distinct (ms.map fun m => (m.1, m.2.sorted)) := by
      rw [Members.Distinct, Members.names_map]
      exact distinct
    rw [shape]
    refine .obj (mapped.perm same.symm) fun n member => ?_
    obtain ⟨m, inside, rfl⟩ := mem_sorted_obj same member
    exact ih m inside

theorem Texts.sorted {P : Text → Prop} {v : Json} (texts : Texts P v) : Texts P v.sorted := by
  induction texts with
  | null => exact .null
  | bool b => exact .bool b
  | int n => exact .int n
  | float x => exact .float x
  | str holds => exact .str holds
  | arr _ ih =>
    rw [Json.sorted, sortedElements_map]
    exact .arr (List.forall_mem_map.mpr ih)
  | @obj ms names _ ih =>
    obtain ⟨ns, shape, same⟩ := sorted_obj_perm ms
    rw [shape]
    refine .obj (fun n member => ?_) fun n member => ?_
    · obtain ⟨m, inside, rfl⟩ := mem_sorted_obj same member
      exact names m inside
    · obtain ⟨m, inside, rfl⟩ := mem_sorted_obj same member
      exact ih m inside
  | foreign holds => exact .foreign holds

theorem Texts.weaken {P Q : Text → Prop} (weaker : ∀ t, P t → Q t) {v : Json} (texts : Texts P v) : Texts Q v := by
  induction texts with
  | null => exact .null
  | bool b => exact .bool b
  | int n => exact .int n
  | float x => exact .float x
  | str holds => exact .str (weaker _ holds)
  | arr _ ih => exact .arr ih
  | obj names _ ih => exact .obj (fun m member => weaker _ (names m member)) ih
  | foreign holds => exact .foreign (weaker _ holds)

theorem NoSurrogate.unpaired {t : Text} (plain : NoSurrogate t) : Unpaired t := by
  apply paired_of_plain
  intro c member
  have none := plain c member
  simp only [CodePoint.isSurrogate, CodePoint.isHighSurrogate, Bool.and_eq_false_iff, decide_eq_false_iff_not] at none ⊢
  omega

-- The sorted texts of two decoded values are equal only when the sorted values are, however deep they are.
theorem sorted_of_written {depth depth' : Nat} {v w : Json} (soundV : Sound depth v) (soundW : Sound depth' w)
    (plainV : Texts NoSurrogate v) (plainW : Texts NoSurrogate w) (same : written v.sorted = written w.sorted) :
    v.sorted = w.sorted := by
  have takes : ∀ {d : Nat} {u : Json}, d ≤ max depth depth' → Sound d u → Texts NoSurrogate u →
      value (2 * (written u.sorted).length + 1) (max depth depth') (written u.sorted) = .ok (u.sorted, []) := by
    intro d u below sound plain
    have taken := takesBack (sound.1.sorted.deeper below) (2 * (written u.sorted).length + 1) [] endsValue_nil (Nat.lt_succ_self _)
    rw [List.append_nil] at taken
    rw [taken, reread_decoded sound.2.sorted (plain.weaken fun _ => NoSurrogate.unpaired).sorted]
  have first := takes (Nat.le_max_left depth depth') soundV plainV
  rw [same, takes (Nat.le_max_right depth depth') soundW plainW] at first
  exact (Prod.mk.inj (Except.ok.inj first)).1.symm

theorem get?_of_sorted {ms ns : Members} (distinct : Members.Distinct ms)
    (same : sortMembers (ms.map fun m => (m.1, m.2.sorted)) = sortMembers (ns.map fun m => (m.1, m.2.sorted)))
    (name : Text) : (Members.get? ms name).map sorted = (Members.get? ns name).map sorted := by
  have perm : (ms.map fun m => (m.1, m.2.sorted)).Perm (ns.map fun m => (m.1, m.2.sorted)) :=
    (sortMembers_perm _).symm.trans (same ▸ sortMembers_perm _)
  have mapped : Members.Distinct (ms.map fun m => (m.1, m.2.sorted)) := by
    rw [Members.Distinct, Members.names_map]
    exact distinct
  rw [← Members.get?_map, ← Members.get?_map]
  exact mapped.get?_perm perm name

theorem alike_of_sorted {v w : Json} (decodedV : Decoded v) (decodedW : Decoded w) (same : v.sorted = w.sorted) :
    Alike v w := by
  induction decodedV generalizing w with
  | null =>
    cases decodedW <;> simp only [sorted, reduceCtorEq] at same
    exact .null
  | bool b =>
    cases decodedW <;> simp only [sorted, reduceCtorEq] at same
    cases same
    exact .bool b
  | int n =>
    cases decodedW <;> simp only [sorted, reduceCtorEq] at same
    cases same
    exact .int n
  | float x =>
    cases decodedW <;> simp only [sorted, reduceCtorEq] at same
    cases same
    exact .float rfl
  | str t =>
    cases decodedW <;> simp only [sorted, reduceCtorEq] at same
    cases same
    exact .str t
  | @arr xs _ ih =>
    cases decodedW with
    | @arr ys decodedYs =>
      simp only [sorted, sortedElements_map, arr.injEq] at same
      refine .arr (by simpa using congrArg List.length same) fun i x y foundX foundY => ?_
      have equal := congrArg (fun zs => zs[i]?) same
      simp only [List.getElem?_map, foundX, foundY, Option.map_some, Option.some.injEq] at equal
      exact ih x (List.mem_of_getElem? foundX) (decodedYs y (List.mem_of_getElem? foundY)) equal
    | _ => simp only [sorted, reduceCtorEq] at same
  | @obj ms distinctMs _ ih =>
    cases decodedW with
    | @obj ns distinctNs decodedNs =>
      simp only [sorted, sortedMembers_map, obj.injEq] at same
      have equal := get?_of_sorted distinctMs same
      refine .obj (fun name => ?_) fun name x y foundX foundY => ?_
      · have both := congrArg Option.isSome (equal name)
        simpa using both
      · have values := equal name
        rw [foundX, foundY] at values
        exact ih (name, x) (Members.get?_mem foundX) (decodedNs (name, y) (Members.get?_mem foundY))
          (Option.some.inj values)
    | _ => simp only [sorted, reduceCtorEq] at same

theorem alike_of_written {depth depth' : Nat} {v w : Json} (soundV : Sound depth v) (soundW : Sound depth' w)
    (plainV : Texts NoSurrogate v) (plainW : Texts NoSurrogate w) (same : written v.sorted = written w.sorted) :
    Alike v w := alike_of_sorted soundV.2 soundW.2 (sorted_of_written soundV soundW plainV plainW same)

end Json

end UploadRelay
