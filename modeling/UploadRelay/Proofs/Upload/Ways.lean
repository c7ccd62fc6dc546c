import UploadRelay.Proofs.Files.Path
import UploadRelay.Proofs.Files.Tree
import UploadRelay.Proofs.Text.Numeral
-- The directories of users, and the ways that lead to them from where the root is counted. A path right below
-- such a directory can only be taken by the way to it when the root itself passes there and comes back up.

namespace UploadRelay

namespace UserId

theorem not_mem_digits {t : Text} (all : Text.AllDigits t) : CodePoint.ofChar '/' ∉ t := by
  intro member
  exact absurd (all _ member) (by decide)

theorem text_good (user : UserId) : Path.GoodName user.text := by
  cases user with
  | truth b => cases b <;> exact ⟨by decide, by decide⟩
  | number n =>
    have digits := not_mem_digits (Text.ofNat_allDigits n.natAbs)
    have some := Text.ofNat_ne_nil n.natAbs
    show Path.GoodName (Text.ofInt n)
    unfold Text.ofInt
    split
    · refine ⟨?_, ?_⟩
      · obtain ⟨c, rest, shape⟩ := List.exists_cons_of_ne_nil some
        rw [shape]
        simp [Path.isName]
      · intro member
        rcases List.mem_cons.mp member with here | there
        · exact absurd here (by decide)
        · exact digits there
    · refine ⟨?_, digits⟩
      have dot : Text.ofNat n.natAbs ≠ [CodePoint.ofChar '.'] := by
        intro same
        exact absurd (Text.ofNat_allDigits n.natAbs _ (same ▸ List.mem_cons_self)) (by decide)
      simp [Path.isName, some, dot]

theorem text_down (user : UserId) : user.text ≠ Path.up := by
  cases user with
  | truth b => cases b <;> decide
  | number n =>
    intro same
    have dots : ∀ c ∈ Text.ofInt n, c = CodePoint.ofChar '.' := by
      have shape : Text.ofInt n = Path.up := same
      rw [shape]
      decide
    obtain ⟨c, rest, shape⟩ := List.exists_cons_of_ne_nil (Text.ofNat_ne_nil n.natAbs)
    have inside : c ∈ Text.ofInt n := by
      unfold Text.ofInt
      split <;> simp [shape]
    have digit := Text.ofNat_allDigits n.natAbs c (shape ▸ List.mem_cons_self)
    rw [dots c inside] at digit
    exact absurd digit (by decide)

end UserId

namespace Store

variable {store : Store} {directory : Text} {user : UserId} {p : Path}

-- However the root is written, the directory of a user stands right below it.
theorem home_child (store : Store) (directory : Text) (user : UserId) :
    store.home directory user = (store.root.absolute directory).child user.text :=
  Path.absolute_child directory store.root user.text_down

theorem home_normal (root : store.root.Normal) (directory : Text) (user : UserId) : (store.home directory user).Normal := by
  rw [home_child]
  exact (root.absolute directory).child user.text_good

theorem home_named (store : Store) (directory : Text) (user : UserId) : (store.home directory user).names ≠ [] := by
  rw [home_child]
  exact Path.child_named _ _

theorem home_towards (store : Store) (directory : Text) (user : UserId) :
    Tree.Towards (store.userDirectory user) directory (store.home directory user) :=
  ⟨store.root.names, user.text, user.text_down, List.prefix_rfl, rfl⟩

-- The places that are passed on the way to the directory of some user.
def Way (store : Store) (directory : Text) (p : Path) : Prop := ∃ user, Tree.Towards (store.userDirectory user) directory p

theorem Way.of_place {q : Path} (way : store.Way directory p) (same : q.place = p.place) : store.Way directory q := by
  obtain ⟨user, towards⟩ := way
  exact ⟨user, Tree.OnWay.of_place towards same⟩

-- What stands right below the directory of a user is on the user's own way, if on any: the directories of the
-- others are not that deep, and down to the root all ways are the same.
theorem Way.own (way : store.Way directory p) {name : Text} (below : p = (store.home directory user).child name) :
    Tree.Towards (store.userDirectory user) directory p := by
  obtain ⟨other, front, last, down, first, same⟩ := way
  have names : front ++ [last] <+: store.root.names ++ [other.text] := first
  rcases List.prefix_concat_iff.mp names with whole | above
  · have place : p.place = (store.home directory other).place := by
      rw [same, whole]
      rfl
    have length := congrArg List.length (Path.names_of_place place)
    rw [below, home_child, home_child] at length
    simp [Path.child] at length
  · exact ⟨front, last, down, above.trans (List.prefix_append _ _), same⟩

-- So when that directory could be made, nothing new finds place on a way.
theorem Way.taken {t t' : Tree} (way : store.Way directory p) {name : Text}
    (below : p = (store.home directory user).child name)
    (made : t.ensureDirectory (store.userDirectory user) directory = .ok t') : t'.node? p = some .directory :=
  Tree.ensureDirectory_leads made (way.own below)

end Store

end UploadRelay
