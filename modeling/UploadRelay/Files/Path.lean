import UploadRelay.Text.CodePoint
-- Paths in normal form: one or two leading slashes or none, and the names between slashes
-- without empty ones and full stops that stand alone.

namespace UploadRelay

structure Path where
  slashes : Nat
  names : List Text
deriving DecidableEq

namespace Path

def isName (name : Text) : Bool := !name.isEmpty && name != [CodePoint.ofChar '.']

def leadingSlashes (t : Text) : Nat :=
  match (t.takeWhile fun c => c == CodePoint.ofChar '/').length with
  | 0 => 0
  | 2 => 2
  | _ => 1

def ofText (t : Text) : Path := ⟨leadingSlashes t, (Text.splitOn '/' t).filter isName⟩

def text (p : Path) : Text :=
  let body := List.replicate p.slashes (CodePoint.ofChar '/') ++ Text.joined "/" p.names
  if body.isEmpty then "." else body

def child (p : Path) (name : Text) : Path := ⟨p.slashes, p.names ++ [name]⟩

def parent (p : Path) : Path := ⟨p.slashes, p.names.dropLast⟩

def name (p : Path) : Text := p.names.getLastD []

def up : Text := ".."

def step (p : Path) (name : Text) : Path := if name = up then p.parent else p.child name

def walk (p : Path) (names : List Text) : Path := names.foldl step p

-- Where a path is counted from: a relative one from the working directory.
def origin (directory : Text) (p : Path) : Path :=
  if p.slashes = 0 then walk ⟨leadingSlashes directory, []⟩ (ofText directory).names else ⟨p.slashes, []⟩

def absolute (directory : Text) (p : Path) : Path := walk (p.origin directory) p.names

-- Two leading slashes lead to the same place as one.
def place (p : Path) : Path := ⟨min p.slashes 1, p.names⟩

-- The names of `p` below `root`, when it lies there.
def below? (root p : Path) : Option (List Text) :=
  if root.slashes = p.slashes ∧ root.names.isPrefixOf p.names then
    some (p.names.drop root.names.length)
  else none

theorem child_parent (p : Path) (name : Text) : (p.child name).parent = p := by
  simp [child, parent]

theorem child_name (p : Path) (name : Text) : (p.child name).name = name := by
  simp [child, Path.name]

theorem child_named (p : Path) (name : Text) : (p.child name).names ≠ [] := by
  simp [child]

theorem names_of_place {p q : Path} (same : p.place = q.place) : p.names = q.names :=
  show p.place.names = q.place.names from congrArg names same

theorem step_up (p : Path) : p.step up = p.parent := if_pos rfl

theorem step_child (p : Path) {name : Text} (down : name ≠ up) : p.step name = p.child name := if_neg down

theorem walk_append (p : Path) (front back : List Text) : p.walk (front ++ back) = (p.walk front).walk back :=
  List.foldl_append

end Path

end UploadRelay
