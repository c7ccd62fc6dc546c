import Mathlib.Data.List.Dedup
import Mathlib.Data.List.Perm.Subperm
import UploadRelay.Proofs.Number.Exact
import UploadRelay.Rpc.Cache
-- What the operations of the cache leave in it: nothing but what was there before, and what is
-- put in. Entries make room for others in the order of the latest use of their keys.

namespace UploadRelay.Rpc.Cache

variable {N : Type}

theorem mem_erase {entries : List (Entry N)} {key : Text} {e : Entry N} (member : e ∈ erase entries key) : e ∈ entries :=
  (List.mem_filter.mp member).1

theorem evict_sublist (maxEntries : Num) (entries : List (Entry N)) : (evict maxEntries entries).Sublist entries := by
  induction entries with
  | nil => exact List.Sublist.refl []
  | cons first rest ih =>
    rw [evict]
    split
    · exact ih.cons first
    · exact List.Sublist.refl _

theorem mem_evict {maxEntries : Num} {entries : List (Entry N)} {e : Entry N} (member : e ∈ evict maxEntries entries) :
    e ∈ entries :=
  (evict_sublist maxEntries entries).subset member

theorem find?_mem {c : Cache N} {key : Text} {e : Entry N} (found : c.find? key = some e) : e ∈ c.entries ∧ e.key = key :=
  ⟨List.mem_of_find?_eq_some found, by simpa using List.find?_some found⟩

variable [Seconds N]

theorem get_settings (c : Cache N) (now : N) (key : Text) : (c.get now key).2.settings = c.settings := by
  unfold get
  split
  · rfl
  · split <;> rfl

theorem mem_get {c : Cache N} {now : N} {key : Text} {e : Entry N} (member : e ∈ (c.get now key).2.entries) :
    e ∈ c.entries := by
  unfold get at member
  split at member
  · exact member
  · rename_i held found
    split at member
    · exact mem_erase member
    · rcases List.mem_append.mp member with here | there
      · exact mem_erase here
      · rw [List.mem_singleton.mp there]
        exact (find?_mem found).1

theorem get_hit {c : Cache N} {now : N} {key : Text} {response : Response} (hit : (c.get now key).1 = some response) :
    ∃ e ∈ c.entries, e.key = key ∧ hasExpired now e = false ∧ e.response = response := by
  unfold get at hit
  split at hit
  · cases hit
  · rename_i e found
    split at hit
    · cases hit
    · rename_i fresh
      obtain ⟨member, named⟩ := find?_mem found
      exact ⟨e, member, named, by simpa using fresh, Option.some.inj hit⟩

theorem mem_set {c c' : Cache N} {now : N} {key : Text} {response : Response} (put : c.set now key response = .ok c') :
    c'.settings = c.settings ∧ ∀ e ∈ c'.entries, e ∈ c.entries ∨
      e.key = key ∧ e.response = response ∧ Seconds.add now c.settings.ttl = .ok e.expires := by
  unfold set at put
  cases sum : Seconds.add now c.settings.ttl with
  | error overflow =>
    rw [sum] at put
    cases put
  | ok expires =>
    rw [sum] at put
    cases put
    refine ⟨rfl, fun e member => ?_⟩
    rcases List.mem_append.mp (mem_evict member) with old | new
    · exact Or.inl (mem_erase old)
    · rw [List.mem_singleton.mp new]
      exact Or.inr ⟨rfl, rfl, rfl⟩

theorem split_concat {α : Type} {all front behind : List α} {a last : α} (whole : all ++ [last] = front ++ a :: behind) :
    front = all ∧ a = last ∧ behind = [] ∨ ∃ shorter, behind = shorter ++ [last] ∧ all = front ++ a :: shorter := by
  rcases List.eq_nil_or_concat behind with rfl | ⟨shorter, ending, rfl⟩
  · obtain ⟨rfl, same⟩ := List.append_inj' whole rfl
    exact Or.inl ⟨rfl, (List.singleton_inj.mp same).symm, rfl⟩
  · have parts : all ++ [last] = (front ++ a :: shorter) ++ [ending] := by simpa using whole
    obtain ⟨rfl, same⟩ := List.append_inj' parts rfl
    obtain rfl := List.singleton_inj.mp same
    exact Or.inr ⟨shorter, by simp, rfl⟩

-- Fewer than `limit` other keys have been used since the key was used last.
def Recent (limit : Nat) (used : List Text) (key : Text) : Prop :=
  ∃ before since, used = before ++ key :: since ∧ key ∉ since ∧ since.dedup.length < limit

theorem Recent.earlier {limit : Nat} {used : List Text} {key other : Text} (recent : Recent limit (used ++ [other]) key)
    (apart : other ≠ key) : Recent limit used key := by
  obtain ⟨before, since, whole, last, few⟩ := recent
  rcases split_concat whole with ⟨-, same, -⟩ | ⟨front, rfl, rfl⟩
  · exact absurd same.symm apart
  · have within : front.dedup ⊆ (front ++ [other]).dedup := by
      intro k there
      exact List.mem_dedup.mpr (List.mem_append_left _ (List.mem_dedup.mp there))
    have fewer := (List.subperm_of_subset (List.nodup_dedup front) within).length_le
    exact ⟨before, front, rfl, fun there => last (List.mem_append_left _ there), by omega⟩

theorem dedup_concat (used : List Text) (key : Text) :
    (used ++ [key]).dedup = used.dedup.filter (· != key) ++ [key] := by
  induction used with
  | nil => rfl
  | cons first rest ih =>
    rw [List.cons_append, List.dedup_cons, List.dedup_cons, ih]
    by_cases again : first ∈ rest
    · simp [again]
    · by_cases same : first = key
      · subst same
        simp [again]
      · simp [again, same]

theorem ordered_moved {keys used : List Text} (ordered : keys.Sublist used.dedup) (key : Text) :
    (keys.filter (· != key) ++ [key]).Sublist (used ++ [key]).dedup := by
  rw [dedup_concat]
  exact (ordered.filter _).append (List.Sublist.refl _)

theorem length_behind {used before since front behind : List Text} {key : Text}
    (ordered : (front ++ key :: behind).Sublist used.dedup) (split : used = before ++ key :: since)
    (last : key ∉ since) : behind.length ≤ since.dedup.length := by
  have suffix : key :: since.dedup <:+ used.dedup := by
    rw [split, List.dedup_append, List.dedup_cons_of_notMem last]
    exact List.suffix_union_right _ _
  obtain ⟨older, whole⟩ := suffix
  have once : key ∉ older := by
    intro twice
    have distinct := List.nodup_dedup used
    rw [← whole] at distinct
    exact (List.disjoint_of_nodup_append distinct) twice List.mem_cons_self
  rw [← whole] at ordered
  obtain ⟨left, right, parts, leftPart, rightPart⟩ := List.sublist_append_iff.mp ordered
  have absent : key ∉ left := fun there => once (leftPart.subset there)
  rcases List.append_eq_append_iff.mp parts with ⟨more, rfl, tail⟩ | ⟨more, rfl, rfl⟩
  · cases more with
    | nil =>
      obtain rfl : key :: behind = right := tail
      exact (List.cons_sublist_cons.mp rightPart).length_le
    | cons first more =>
      obtain ⟨rfl, -⟩ := List.cons.inj tail
      exact absurd (by simp) absent
  · have reaches : (key :: behind).Sublist (key :: since.dedup) := (List.sublist_append_right more _).trans rightPart
    exact (List.cons_sublist_cons.mp reaches).length_le

theorem evict_length (limit : Nat) (entries : List (Entry ℚ)) : (evict (.int limit) entries).length ≤ limit := by
  induction entries with
  | nil => exact Nat.zero_le limit
  | cons first rest ih =>
    rw [evict]
    split
    · exact ih
    · rename_i fits
      simp only [Num.less, decide_eq_true_eq] at fits
      omega

theorem mem_evict_of_few {limit : Nat} {front behind : List (Entry ℚ)} {e : Entry ℚ} (few : behind.length < limit) :
    e ∈ evict (.int limit) (front ++ e :: behind) := by
  induction front with
  | nil =>
    have fits : ¬ (Num.int limit).less (.int ((e :: behind).length : Int)) = true := by
      simp only [Num.less, decide_eq_true_eq, List.length_cons]
      omega
    rw [List.nil_append, evict, if_neg fits]
    exact List.mem_cons_self
  | cons first rest ih =>
    rw [List.cons_append, evict]
    split
    · exact ih
    · simp

theorem recent_evict {limit : Nat} {entries : List (Entry ℚ)} {used : List Text}
    (ordered : (entries.map (·.key)).Sublist used.dedup) {key : Text} (recent : Recent limit used key)
    (there : key ∈ entries.map (·.key)) : key ∈ (evict (.int limit) entries).map (·.key) := by
  obtain ⟨e, member, rfl⟩ := List.mem_map.mp there
  obtain ⟨front, behind, rfl⟩ := List.append_of_mem member
  obtain ⟨before, since, split, last, few⟩ := recent
  rw [List.map_append, List.map_cons] at ordered
  have close := length_behind ordered split last
  rw [List.length_map] at close
  exact List.mem_map_of_mem (f := (·.key)) (mem_evict_of_few (lt_of_le_of_lt close few))

theorem keys_erase (entries : List (Entry ℚ)) (key : Text) :
    (erase entries key).map (·.key) = (entries.map (·.key)).filter (· != key) := by
  rw [erase, List.filter_map]
  rfl

theorem mem_moved {keys : List Text} {key other : Text} (there : key ≠ other → other ∈ keys) :
    other ∈ keys.filter (· != key) ++ [key] := by
  by_cases same : key = other
  · simp [same]
  · exact List.mem_append_left _ (List.mem_filter.mpr ⟨there same, by simpa using fun clash => same clash.symm⟩)

inductive Read (c : Cache ℚ) (now : ℚ) (key : Text) : Prop where
  | missed (absent : key ∉ c.keys) (same : c.get now key = (none, c))
  | expired (e : Entry ℚ) (member : e ∈ c.entries) (named : e.key = key) (late : e.expires ≤ now)
      (dropped : c.get now key = (none, ⟨c.settings, erase c.entries key⟩))
  | hit (e : Entry ℚ) (member : e ∈ c.entries) (named : e.key = key) (young : now < e.expires)
      (moved : c.get now key = (some e.response, ⟨c.settings, erase c.entries key ++ [e]⟩))

theorem get_read (c : Cache ℚ) (now : ℚ) (key : Text) : Read c now key := by
  cases found : c.find? key with
  | none =>
    refine .missed ?_ (by rw [get, found])
    intro there
    obtain ⟨e, member, named⟩ := List.mem_map.mp there
    exact List.find?_eq_none.mp found e member (by simp [named])
  | some e =>
    obtain ⟨member, named⟩ := find?_mem found
    by_cases late : e.expires ≤ now
    · have gone : hasExpired now e = true := decide_eq_true late
      exact .expired e member named late (by simp only [get, found, gone, if_true])
    · have fresh : ¬ hasExpired now e = true := by simpa [hasExpired, Seconds.atMost] using late
      exact .hit e member named (not_le.mp late) (by simp only [get, found, if_neg fresh])

end UploadRelay.Rpc.Cache
