import UploadRelay.Files.Path
-- A tree of directories and regular files, as a table from places to nodes. A path without
-- names is the place everything hangs on and is always there.

namespace UploadRelay

inductive Node where
  | directory
  | file (content : List UInt8)
deriving DecidableEq

structure Tree where
  entries : List (Path × Node)

namespace Tree

def empty : Tree := ⟨[]⟩

def find (path : Path) : List (Path × Node) → Option Node
  | [] => none
  | e :: rest => if e.1 = path then some e.2 else find path rest

def node? (t : Tree) (path : Path) : Option Node :=
  if path.names.isEmpty then some .directory else find path.place t.entries

def file? (t : Tree) (path : Path) : Option (List UInt8) :=
  match t.node? path with
  | some (.file content) => some content
  | _ => none

def putEntry (path : Path) (node : Node) : List (Path × Node) → List (Path × Node)
  | [] => [(path, node)]
  | e :: rest => if e.1 = path then (path, node) :: rest else e :: putEntry path node rest

def put (t : Tree) (path : Path) (node : Node) : Tree := ⟨putEntry path.place node t.entries⟩

def erase (t : Tree) (path : Path) : Tree := ⟨t.entries.filter fun e => e.1 ≠ path.place⟩

def files (t : Tree) : List (Path × List UInt8) :=
  t.entries.filterMap fun e =>
    match e.2 with
    | .file content => some (e.1, content)
    | .directory => none

def listing (t : Tree) (root : Path) : List Text :=
  t.entries.filterMap fun e =>
    match root.below? e.1, e.2 with
    | some (name :: names), .file _ => some (Text.joined "/" (name :: names))
    | some (name :: names), .directory => some (Text.joined "/" (name :: names) ++ "/")
    | _, _ => none

theorem find_putEntry_same (path : Path) (node : Node) (entries : List (Path × Node)) :
    find path (putEntry path node entries) = some node := by
  induction entries with
  | nil => simp [putEntry, find]
  | cons e rest ih => by_cases h : e.1 = path <;> simp [putEntry, find, h, ih]

theorem find_putEntry_other {path other : Path} (node : Node) (entries : List (Path × Node))
    (h : other ≠ path) : find other (putEntry path node entries) = find other entries := by
  induction entries with
  | nil => simp [putEntry, find, Ne.symm h]
  | cons e rest ih =>
    by_cases he : e.1 = path
    · simp [putEntry, find, he, Ne.symm h]
    · simp [putEntry, find, he, ih]

theorem find_filter_other {path other : Path} (entries : List (Path × Node)) (h : other ≠ path) :
    find other (entries.filter fun e => e.1 ≠ path) = find other entries := by
  induction entries with
  | nil => rfl
  | cons e rest ih =>
    by_cases he : e.1 = path
    · have : ¬ e.1 = other := fun same => h (same.symm.trans he)
      simpa [List.filter_cons, he, find, Ne.symm h] using ih
    · by_cases ho : e.1 = other
      · simp [find, ho, h]
      · simpa [List.filter_cons, he, find, ho] using ih

end Tree

end UploadRelay
