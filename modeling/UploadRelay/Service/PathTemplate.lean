import UploadRelay.Fault
import UploadRelay.Service.FieldKind
-- Templates of paths: parts between slashes that are literal, a field in braces, or a mix of
-- both.

namespace UploadRelay.Service

structure PathField where
  name : Text
  kind : Option FieldKind
deriving DecidableEq

inductive PathPiece where
  | literal (t : Text)
  | field (f : PathField)
deriving DecidableEq

abbrev PathPart := List PathPiece

abbrev PathTemplate := List PathPart

namespace PathTemplate

structure Written where
  name : Text
  kind : Option Text
  arguments : Option Text

def isClosing (c : CodePoint) : Bool := c.val == 125

def written? : Text → Option (Written × Text)
  | [] => none
  | c :: rest =>
    if c.val != 123 then none
    else
      let name := rest.takeWhile fun c => !isClosing c && c.val != 58
      match rest.drop name.length with
      | [] => none
      | d :: rest =>
        if isClosing d then some (⟨name, none, none⟩, rest)
        else
          let kind := rest.takeWhile fun c => !isClosing c && c.val != 40
          match rest.drop kind.length with
          | [] => none
          | d :: rest =>
            if isClosing d then some (⟨name, some kind, none⟩, rest)
            else
              let arguments := rest.takeWhile fun c => !isClosing c
              match rest.drop arguments.length with
              | [] => none
              | _ :: rest =>
                if arguments.getLast? = some (CodePoint.ofChar ')') then
                  some (⟨name, some kind, some arguments.dropLast⟩, rest)
                else none

inductive Raw where
  | literal (t : Text)
  | field (w : Written)

def consLiteral (c : CodePoint) : List Raw → List Raw
  | .literal t :: rest => .literal (c :: t) :: rest
  | rest => .literal [c] :: rest

def rawLoop : (fuel : Nat) → Text → List Raw
  | _, [] => []
  | 0, _ :: _ => []
  | fuel + 1, c :: rest =>
    match written? (c :: rest) with
    | some (w, rest) => .field w :: rawLoop fuel rest
    | none => consLiteral c (rawLoop fuel rest)

def raw (t : Text) : List Raw := rawLoop t.length t

def unacceptable (message : Text) : Fault := .other "UnacceptableRouteError" [.str message]

def reserved : List String :=
  ["False", "None", "True", "and", "as", "assert", "async", "await", "break", "class", "continue", "def",
   "del", "elif", "else", "except", "finally", "for", "from", "global", "if", "import", "in", "is",
   "lambda", "nonlocal", "not", "or", "pass", "raise", "return", "try", "while", "with", "yield"]

def isFieldName (name : Text) : Bool :=
  FieldKind.isName name && !reserved.any fun r => Text.ofString r == name

def quotedName (t : Text) : Text := "\"" ++ t ++ "\""

def checkName (used : List Text) (name : Text) : Except Fault Unit :=
  if !isFieldName name then
    .error (unacceptable ("Field names must be valid identifiers (" ++ quotedName name ++ " is not valid)"))
  else if used.contains name then
    .error (unacceptable ("Field names may not be duplicated (" ++ quotedName name ++ " was used more than once)"))
  else .ok ()

def kindOf (w : Written) : Except Fault (Option FieldKind) :=
  match w.kind with
  | none => .ok none
  | some [] => .error (unacceptable ("Missing converter for field " ++ quotedName w.name))
  | some kind =>
    if !FieldKind.isKnown kind then .error (unacceptable ("Unknown converter: " ++ quotedName kind))
    else
      match FieldKind.ofName? kind (w.arguments.getD []) with
      | some kind => .ok (some kind)
      | none => .error (unacceptable ("Cannot instantiate converter " ++ quotedName kind))

def pieceOf (used : List Text) : Raw → Except Fault PathPiece
  | .literal t => .ok (.literal t)
  | .field w => do
    checkName used w.name
    return .field ⟨w.name, ← kindOf w⟩

def fieldOf? : PathPiece → Option PathField
  | .literal _ => none
  | .field f => some f

def partFields (part : PathPart) : List PathField := part.filterMap fieldOf?

def fields (t : PathTemplate) : List PathField := t.flatMap partFields

def piecesOf (used : List Text) : List Raw → Except Fault PathPart
  | [] => .ok []
  | r :: rest => do
    let piece ← pieceOf used r
    return piece :: (← piecesOf ((fieldOf? piece).toList.map PathField.name ++ used) rest)

def partsOf (used : List Text) : List Text → Except Fault PathTemplate
  | [] => .ok []
  | t :: rest => do
    let part ← piecesOf used (raw t)
    return part :: (← partsOf ((partFields part).map PathField.name ++ used) rest)

def single? : PathPart → Option PathField
  | [.field f] => some f
  | _ => none

def takingRest? (part : PathPart) : Option PathField := (partFields part).find? fun f => f.kind == some .remainder

def checkParts (template : Text) : PathTemplate → Except Fault Unit
  | [] => .ok ()
  | part :: rest =>
    match takingRest? part with
    | none => checkParts template rest
    | some f =>
      if (single? part).isNone then
        .error (unacceptable ("Cannot use converter \"path\" of variable " ++ quotedName f.name ++
          " in a template that includes other characters or variables."))
      else if rest.isEmpty then .ok ()
      else
        .error (unacceptable ("Cannot add route with template " ++ quotedName template ++ ". Field name " ++
          quotedName f.name ++ " uses the converter \"path\" that will consume all the path, " ++
          "making it impossible to match this route."))

def hasDoubleSlash : Text → Bool
  | a :: b :: rest => (a.val == 47 && b.val == 47) || hasDoubleSlash (b :: rest)
  | _ => false

def hasBlank (t : Text) : Bool :=
  (raw t).any fun
    | .literal l => l.any CodePoint.isBlank
    | .field _ => false

-- Slashes before a path do not count.
def partTexts (path : Text) : List Text := Text.splitOn '/' (path.dropWhile fun c => c.val == 47)

def read (t : Text) : Except Fault PathTemplate := do
  if !Text.startsWith t "/" then .error (.value "uri_template must start with '/'")
  if hasDoubleSlash t then .error (.value "uri_template may not contain '//'")
  if hasBlank t then .error (unacceptable "URI templates may not include whitespace.")
  let template ← partsOf [] (partTexts t)
  checkParts t template
  return template

-- The texts of the fields when a part fits as a mix, each as long as it can be.
def mixed? : PathPart → Text → Option (List (PathField × Text))
  | [], t => if t = [] ∨ t = [CodePoint.ofChar '\n'] then some [] else none
  | .literal l :: rest, t => (Text.dropStart? l t).bind (mixed? rest)
  | .field f :: rest, t =>
    let reach := (t.takeWhile fun c => c.val != 10).length
    (List.range reach).reverse.findSome? fun n =>
      (mixed? rest (t.drop (n + 1))).map fun found => (f, t.take (n + 1)) :: found

def fitsField (f : PathField) (t : Text) : Bool := f.kind.all fun kind => kind.fits t

def literalText (part : PathPart) : Text :=
  part.flatMap fun
    | .literal t => t
    | .field _ => []

def isBroken (part : PathPart) : Bool :=
  (partFields part).isEmpty &&
    ((literalText part).any (fun c => c.val == 39 || c.val == 0 || c.isSurrogate) ||
      (Text.Escape.decode? (literalText part)).isNone)

def fitsPart (part : PathPart) (t : Text) : Bool :=
  if (partFields part).isEmpty then Text.Escape.decode? (literalText part) == some t
  else
    match single? part with
    | some f => fitsField f t
    | none => (mixed? part t).any fun found => found.all fun f => fitsField f.1 f.2

def fitsAll : PathTemplate → List Text → Bool
  | [], [] => true
  | part :: rest, t :: ts => fitsPart part t && fitsAll rest ts
  | _, _ => false

def fits (template : PathTemplate) (path : Text) : Bool := fitsAll template (partTexts path)

end PathTemplate

end UploadRelay.Service
