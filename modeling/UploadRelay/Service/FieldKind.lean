import UploadRelay.Calendar.Pattern
import UploadRelay.Json.Value
import UploadRelay.Number.Decimal
import UploadRelay.Text.Escape
-- Kinds of fields in templates of paths: numbers, dates, identifiers and whole rests of paths.
-- A kind is written with arguments, by their place or by name.

namespace UploadRelay.Service

inductive FieldKind where
  | whole (digits least most : Option Num)
  | decimal (least most : Option Num) (onlyFinite : Bool)
  | date (pattern : Option Text)
  | identifier
  | remainder
deriving DecidableEq

namespace FieldKind

structure Argument where
  name : Option Text
  value : Json

def isNameStart (c : CodePoint) : Bool := c.isLetter || c.val == 95
def isNamePart (c : CodePoint) : Bool := isNameStart c || c.isDigit

def isName : Text → Bool
  | [] => false
  | c :: rest => isNameStart c && rest.all isNamePart

def pieces (mark : Option CodePoint) : Text → List Text
  | [] => [[]]
  | c :: rest =>
    if mark.isNone && c.val == 44 then [] :: pieces none rest
    else
      let mark := match mark with
        | none => if c.val = 34 ∨ c.val = 39 then some c else none
        | some m => if c = m then none else some m
      match pieces mark rest with
      | [] => [[c]]
      | p :: more => (c :: p) :: more

def isPlainWhole (t : Text) : Bool :=
  match t with
  | c :: _ => c.isDigit && t.all (fun c => c.isDigit || c.val == 95) && (c.val != 48 || t.all fun c => c.val == 48 || c.val == 95)
  | [] => false

def isPlainDecimal (t : Text) : Bool :=
  t.any CodePoint.isDigit && t.all fun c => c.isDigit || c.val == 46 || c.val == 95 || c.val == 101 || c.val == 69 ||
    c.val == 43 || c.val == 45

def value? (t : Text) : Option Json :=
  let t := Text.trim t
  if t = ("None" : Text) then some .null
  else if t = ("True" : Text) then some (.bool true)
  else if t = ("False" : Text) then some (.bool false)
  else
    match t with
    | [] => none
    | c :: rest =>
      if c.val = 34 ∨ c.val = 39 then
        if rest.getLast? = some c ∧ !rest.dropLast.contains c then (Text.Escape.decode? rest.dropLast).map .str else none
      else
        let body := if c.val = 45 ∨ c.val = 43 then rest else t
        if isPlainWhole body then (Whole.read? t).map .int
        else if isPlainDecimal body then (Decimal.read? t).map .float
        else none

def argument? (t : Text) : Option Argument :=
  match Text.splitAtFirst '=' t with
  | (_, none) => (value? t).map (⟨none, ·⟩)
  | (name, some value) =>
    let name := Text.trim name
    if isName name then (value? value).map (⟨some name, ·⟩) else (value? t).map (⟨none, ·⟩)

def arguments? (t : Text) : Option (List Argument) :=
  let ps := pieces none t
  let ps := if (ps.getLastD []).all CodePoint.isBlank then ps.dropLast else ps
  ps.mapM argument?

def bound? (names : List String) (given : List Argument) : Option Members :=
  let placed := given.takeWhile fun a => a.name.isNone
  let named := (given.drop placed.length).mapM fun a => a.name.map fun n => (n, a.value)
  match named with
  | none => none
  | some named =>
    let all := (names.map Text.ofString).zip (placed.map Argument.value) ++ named
    let known := named.all fun a => names.any fun n => Text.ofString n == a.1
    if placed.length ≤ names.length ∧ known ∧ (all.map (·.1)).eraseDups.length = all.length then some all else none

def number? : Json → Option (Option Num)
  | .null => some none
  | v => v.num?.map some

def wholeOf? (given : Members) : Option FieldKind := do
  let digits ← number? (Members.getD given "num_digits" .null)
  if digits.any fun d => d.less (.int 1) then none
  let least ← number? (Members.getD given "min" .null)
  let most ← number? (Members.getD given "max" .null)
  return .whole digits least most

def decimalOf? (given : Members) : Option FieldKind := do
  let least ← number? (Members.getD given "min" .null)
  let most ← number? (Members.getD given "max" .null)
  return .decimal least most (Members.getD given "finite" (.bool true)).truthy

def dateOf (given : Members) : FieldKind :=
  match Members.getD given "format_string" (.str Calendar.Pattern.standard) with
  | .str t => .date (some t)
  | _ => .date none

def known : List String := ["int", "float", "dt", "uuid", "path"]

def isKnown (name : Text) : Bool := known.any fun k => Text.ofString k == name

def ofName? (name : Text) (arguments : Text) : Option FieldKind :=
  match arguments? arguments with
  | none => none
  | some given =>
    if name = ("int" : Text) then (bound? ["num_digits", "min", "max"] given).bind wholeOf?
    else if name = ("float" : Text) then (bound? ["min", "max", "finite"] given).bind decimalOf?
    else if name = ("dt" : Text) then (bound? ["format_string"] given).map dateOf
    else if name = ("uuid" : Text) then (bound? [] given).map fun _ => .identifier
    else if name = ("path" : Text) then (bound? [] given).map fun _ => .remainder
    else none

def isAtLeast (least : Option Num) (n : Num) : Bool := least.all fun m => !n.less m
def isAtMost (most : Option Num) (n : Num) : Bool := most.all fun m => !m.less n

def removed (part : Text) : (skip : Nat) → Text → Text
  | _, [] => []
  | 0, c :: rest =>
    if Text.startsWith (c :: rest) part then removed part (part.length - 1) rest else c :: removed part 0 rest
  | n + 1, _ :: rest => removed part n rest

def isHexadecimal (afterDigit : Bool) : Text → Bool
  | [] => afterDigit
  | c :: rest =>
    if c.val = 95 then afterDigit && isHexadecimal false rest
    else (c.hexValue?.isSome || c.digitValue?.isSome) && isHexadecimal true rest

def isHexadecimalNumber (t : Text) : Bool :=
  let t := Text.trim t
  let t := if t.head?.any fun c => c.val == 43 || c.val == 45 then t.drop 1 else t
  match Text.dropStart? "0x" (Text.lower t) with
  | none => isHexadecimal false t
  | some (c :: rest) => isHexadecimal false (if c.val = 95 then rest else c :: rest)
  | some [] => false

def isIdentifier (t : Text) : Bool :=
  let t := removed "uuid:" 0 (removed "urn:" 0 t)
  let t := Text.trimBy (fun c => c.val == 123 || c.val == 125) t
  let t := t.filter fun c => c.val != 45
  t.length == 32 && isHexadecimalNumber t

def isBare (t : Text) : Bool := Text.trim t == t

def fits (kind : FieldKind) (t : Text) : Bool :=
  match kind with
  | .whole digits least most =>
    digits.all (fun d => d.same (.int t.length)) && isBare t &&
      (Whole.read? t).any fun n => isAtLeast least (.int n) && isAtMost most (.int n)
  | .decimal least most onlyFinite =>
    isBare t && (Decimal.read? t).any fun x =>
      (x.isFinite || !onlyFinite) && isAtLeast least (.float x) && isAtMost most (.float x)
  | .date pattern => pattern.any fun p => Calendar.Pattern.fits p t
  | .identifier => isIdentifier t
  | .remainder => true

end FieldKind

end UploadRelay.Service
