import UploadRelay.Scratch
-- Saving the file of an upload: a new scratch file with all of its bytes, or none.

namespace UploadRelay.Upload

variable {N : Type}

def formLogger : Text := "upload_bridge.http"

-- The form of the request in hand. It is read once; later questions get the same answer,
-- also after a fault.
def formOf (r : Http.Request) : Work N Form := do
  let s ← Work.site
  match s.form with
  | some form => return form
  | none =>
    let reading := readForm s.trouble.copy s.copies r
    Work.update fun s => { s with form := some reading.form, copies := reading.copies }
    match reading.ending with
    | .complete => return reading.form
    | .unreadable why =>
      Work.log formLogger .debug ("Unreadable multipart body: " ++ why.title)
        [("error_type", .str why.label)]
      return reading.form
    | .fault fault => throw fault

def canHandle (r : Http.Request) : Work N Bool := do
  let form ← formOf r
  return isUpload form

def pieceBytes : Nat := 65536

def copyPieces : (fuel : Nat) → List UInt8 → ScratchFile → Except Fault ScratchFile
  | 0, _, f => .ok f
  | fuel + 1, bytes, f =>
    if bytes.isEmpty then .ok f
    else
      match f.write (bytes.take pieceBytes) with
      | .ok f => copyPieces fuel (bytes.drop pieceBytes) f
      | .error fault => .error fault

def copyAll (bytes : List UInt8) (f : ScratchFile) : Except Fault ScratchFile :=
  copyPieces (bytes.length / pieceBytes + 1) bytes f

def copy (bytes : List UInt8) (f : ScratchFile) : Work N ScratchFile := do
  let s ← Work.site
  Work.update fun s => { s with copies := s.copies + 1 }
  match s.trouble.copy s.copies with
  | some (written, fault) =>
    Scratch.flush { f with pieces := written :: f.pieces }
    throw fault
  | none => Work.ofExcept (copyAll bytes f)

def failIf (fault : Option Fault) : Work N Unit :=
  match fault with
  | some f => throw f
  | none => return ()

def fill (bytes : List UInt8) (f : ScratchFile) : Work N Nat := do
  let s ← Work.site
  failIf s.trouble.seek
  let written ← copy bytes f
  failIf s.trouble.close
  let closed ← Scratch.close written
  return closed.content.length

def missingFile : Fault := .refusal .missingFile "no file part named 'file' in request"

def save (store : Store) (user : UserId) (logger : Log.Logger) (r : Http.Request) : Work N Path := do
  let form ← formOf r
  match form.file? fileField with
  | none => throw missingFile
  | some part =>
    let f ← Scratch.create store user part.fileName
    Work.logTo logger .info ("processing uploaded file " ++ part.fileName) [("user_id", user.json)]
    match ← Work.attempt (fill part.content f) with
    | .error fault =>
      Scratch.discard f.path
      throw fault
    | .ok written =>
      Work.logTo logger .info ("saved uploaded file " ++ f.path.text ++ " (" ++ Text.ofNat written ++
        " bytes written)") [("user_id", user.json)]
      return f.path

end UploadRelay.Upload
