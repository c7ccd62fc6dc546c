import UploadRelay.Site.Basic
import UploadRelay.Principal
-- Scratch files of uploads in flight: each one new, in its user's own directory below the
-- root, named by a drawn beginning and the name that the client gave.

namespace UploadRelay

structure Store where
  root : Path

namespace Store

def userDirectory (store : Store) (user : UserId) : Path := store.root.child user.text

def home (store : Store) (directory : Text) (user : UserId) : Path := (store.userDirectory user).absolute directory

end Store

namespace Tree

def nameLimit : Nat := 255
def pathLimit : Nat := 4095

-- On disk a name is UTF-8. A surrogate that stands for a raw byte has that byte as its form,
-- other surrogates have none.
def isRawByte (c : CodePoint) : Bool := decide (0xDC80 ≤ c.val) && decide (c.val ≤ 0xDCFF)
def hasNoForm (c : CodePoint) : Bool := c.isSurrogate && !isRawByte c
def formLength (c : CodePoint) : Nat := if isRawByte c then 1 else (Utf8.encodeOne c).length

def formLengthOf (t : Text) : Nat := (t.map formLength).foldl (· + ·) 0

def nameTooLong (name : Text) : Bool := decide (nameLimit < formLengthOf name)

def tooLong (path : Path) : Fault := .ofErrno 36 "File name too long" path.text

-- A path cannot be given to the system when a code point of it has no form, when it would end early or when it is too
-- long as a whole.
def unwritablePath? (path : Path) : Option Fault :=
  match Fault.unwritableRun? "utf-8" "surrogates not allowed" hasNoForm CodePoint.isSurrogate path.text with
  | some fault => some fault
  | none =>
    if path.text.contains (CodePoint.ofNat 0) then some (.value "embedded null byte")
    else if pathLimit < formLengthOf path.text then some (tooLong path)
    else none

-- Makes the directories `names` one below the other, where they are missing. They are told as paths under `told`
-- and stand below `here`, where a way up leads to the directory above. Those that were made before a fault stay.
def makeDirectories (t : Tree) (told here : Path) : List Text → Except Fault Unit × Tree
  | [] => (.ok (), t)
  | name :: rest =>
    let path := told.child name
    let place := here.step name
    match unwritablePath? path with
    | some fault => (.error fault, t)
    | none =>
      if name = Path.up then makeDirectories t path place rest
      else
        match t.node? place with
        | some .directory => makeDirectories t path place rest
        | some (.file _) =>
          match rest with
          | [] => (.error (.ofErrno 17 "File exists" path.text), t)
          | next :: _ => (.error (.ofErrno 20 "Not a directory" (path.child next).text), t)
        | none =>
          if nameTooLong name then (.error (tooLong path), t)
          else makeDirectories (t.put place .directory) path place rest

def reachDirectory (t : Tree) (path : Path) (directory : Text := []) : Except Fault Unit × Tree :=
  makeDirectories t ⟨path.slashes, []⟩ (path.origin directory) path.names

def ensureDirectory (t : Tree) (path : Path) (directory : Text := []) : Except Fault Tree :=
  match t.reachDirectory path directory with
  | (.ok _, reached) => .ok reached
  | (.error fault, _) => .error fault

def remove (t : Tree) (path : Path) : Except Fault Tree :=
  match t.node? path with
  | some (.file _) => .ok (t.erase path)
  | some .directory => .error (.ofErrno 21 "Is a directory" path.text)
  | none => .error (.ofErrno 2 "No such file or directory" path.text)

end Tree

-- An open scratch file: what was written to it, the latest piece first.
structure ScratchFile where
  path : Path
  pieces : List (List UInt8)
  isOpen : Bool

namespace ScratchFile

def content (f : ScratchFile) : List UInt8 := f.pieces.reverse.flatten

def write (f : ScratchFile) (bytes : List UInt8) : Except Fault ScratchFile :=
  if f.isOpen then .ok { f with pieces := bytes :: f.pieces }
  else .error (.value "write to closed file")

end ScratchFile

namespace Scratch

variable {N : Type}

def logger : Text := "upload_bridge.scratch"

def drawLimit : Nat := 238328

def fileName (beginning clientName : Text) : Text := beginning ++ "_" ++ clientName

def checkName (name : Text) : Except Fault Unit :=
  if name.contains (CodePoint.ofChar '/') then
    .error (.ofErrno 22 "filename contains a path separator" name)
  else if name.contains (CodePoint.ofNat 0) then
    .error (.ofErrno 22 "filename contains a NUL byte" name)
  else .ok ()

def freePath (t : Tree) (directory : Path) (name : Text) (draw : Nat → Text) :
    (fuel drawn : Nat) → Except Fault (Path × Nat)
  | 0, _ => .error (.system "FileExistsError" [.int 17, Json.text "No usable temporary file name found"])
  | fuel + 1, drawn =>
    let path := directory.child (fileName (draw drawn) name)
    match Tree.unwritablePath? path with
    | some fault => .error fault
    | none =>
      match t.node? path with
      | some _ => freePath t directory name draw fuel (drawn + 1)
      | none =>
        if Tree.nameTooLong path.name then .error (Tree.tooLong path)
        else .ok (path, drawn + 1)

def setTree (t : Tree) : Work N Unit := Work.update fun s => { s with tree := t }

def create (store : Store) (user : UserId) (name : Text) : Work N ScratchFile := do
  let s ← Work.site
  match s.trouble.create with
  | some fault => throw fault
  | none =>
    Work.ofExcept (checkName name)
    let (made, t) := s.tree.reachDirectory (store.userDirectory user) s.directory
    setTree t
    Work.ofExcept made
    let (path, drawn) ← Work.ofExcept (freePath t (store.home s.directory user) name s.draw drawLimit s.drawn)
    Work.update fun s => { s with tree := t.put path (.file []), drawn := drawn }
    Work.log logger .debug ("Created scratch file " ++ path.text) [("user_id", user.json)]
    return ⟨path, [], true⟩

-- What was written to an open file is in the tree from now on.
def flush (f : ScratchFile) : Work N Unit :=
  Work.update fun s => { s with tree := s.tree.put f.path (.file f.content) }

def close (f : ScratchFile) : Work N ScratchFile := do
  flush f
  return { f with isOpen := false }

def discard (path : Path) : Work N Unit :=
  Work.update fun s => { s with tree := match s.tree.remove path with
    | .ok t => t
    | .error _ => s.tree }

end Scratch

end UploadRelay
