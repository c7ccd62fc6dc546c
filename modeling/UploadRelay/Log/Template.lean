import UploadRelay.Number.Places
import UploadRelay.Json.Display
import UploadRelay.Fault
-- Message templates: text with conversions such as `%s`, `%5d` and `%(name)r`, which take
-- their values in order from a list or by name from an object.

namespace UploadRelay.Log

inductive Arguments where
  | listed (values : List Json)
  | named (members : Members)
  | single (value : Json)

namespace Arguments

def ofList : List Json → Option Arguments
  | [] => none
  | [.obj (m :: members)] => some (.named (m :: members))
  | values => some (.listed values)

def ofValue (v : Json) : Option Arguments :=
  if v.truthy then
    match v with
    | .obj members => some (.named members)
    | v => some (.single v)
  else none

end Arguments

namespace Template

structure Flags where
  left : Bool := false
  plus : Bool := false
  blank : Bool := false
  alternate : Bool := false
  zero : Bool := false

inductive Amount where
  | written (n : Nat)
  | taken

structure Conversion where
  flags : Flags
  width : Option Amount
  precision : Option Amount
  letter : Option CodePoint

-- The name in front of a conversion: up to the bracket that closes the first one. `nested`
-- counts the brackets that are open inside.
def name? (nested : Nat) (read : Text) : Text → Option (Text × Text)
  | [] => none
  | c :: rest =>
    if c.val = 41 then
      match nested with
      | 0 => some (read.reverse, rest)
      | n + 1 => name? n (c :: read) rest
    else name? (if c.val = 40 then nested + 1 else nested) (c :: read) rest

def flagsOf (f : Flags) : Text → Flags × Text
  | [] => (f, [])
  | c :: rest =>
    if c.val = 45 then flagsOf { f with left := true } rest
    else if c.val = 43 then flagsOf { f with plus := true } rest
    else if c.val = 32 then flagsOf { f with blank := true } rest
    else if c.val = 35 then flagsOf { f with alternate := true } rest
    else if c.val = 48 then flagsOf { f with zero := true } rest
    else (f, c :: rest)

def amount (t : Text) : Option Amount × Text :=
  match t with
  | c :: rest =>
    if c.val = 42 then (some .taken, rest)
    else if c.isDigit then
      (some (.written (Text.digitsValue (t.takeWhile CodePoint.isDigit))), t.dropWhile CodePoint.isDigit)
    else (none, t)
  | [] => (none, [])

def precision (t : Text) : Option Amount × Text :=
  match t with
  | c :: rest =>
    if c.val = 46 then
      match amount rest with
      | (some a, rest) => (some a, rest)
      | (none, rest) => (some (.written 0), rest)
    else (none, t)
  | [] => (none, [])

def isSizeLetter (c : CodePoint) : Bool := c.val == 104 || c.val == 108 || c.val == 76

def dropSize (t : Text) : Text :=
  match t with
  | c :: rest => if isSizeLetter c then rest else t
  | [] => []

def conversion (t : Text) : Conversion × Text :=
  let (flags, t) := flagsOf {} t
  let (width, t) := amount t
  let (places, t) := precision t
  match dropSize t with
  | c :: rest => (⟨flags, width, places, some c⟩, rest)
  | [] => (⟨flags, width, places, none⟩, [])

inductive Supply where
  | list (rest : List Json)
  | one (value : Json)
  | used

def tooFew : Fault := .type "not enough arguments for format string"

def Supply.next : Supply → Except Fault (Json × Supply)
  | .list (v :: rest) => .ok (v, .list rest)
  | .one v => .ok (v, .used)
  | _ => .error tooFew

def padding (n : Nat) (c : Char) (t : Text) : Text := List.replicate (n - t.length) (CodePoint.ofChar c)

def filled (flags : Flags) (width : Nat) (t : Text) : Text :=
  if flags.left then t ++ padding width ' ' t else padding width ' ' t ++ t

def signOf (flags : Flags) : Text → Text × Text
  | [] => (if flags.plus then "+" else if flags.blank then " " else [], [])
  | c :: rest =>
    if c.val = 45 ∨ c.val = 43 then ([c], rest)
    else (if flags.plus then "+" else if flags.blank then " " else [], c :: rest)

def filledNumber (flags : Flags) (width markLength : Nat) (t : Text) : Text :=
  let (sign, digits) := signOf flags t
  let head := sign ++ digits.take markLength
  let digits := digits.drop markLength
  if flags.zero && !flags.left then head ++ padding (width - head.length) '0' digits ++ digits
  else filled flags width (head ++ digits)

def inBase (base : Nat) (n : Nat) : Text := (Nat.toDigits base n).map CodePoint.ofChar

def baseMark (letter : CodePoint) : Text := if letter.val = 111 then "0o" else "0x"

def isMarked (letter : CodePoint) : Bool := letter.val == 111 || letter.val == 120 || letter.val == 88

def baseOf (letter : CodePoint) : Nat :=
  if letter.val = 111 then 8 else if letter.val = 120 ∨ letter.val = 88 then 16 else 10

def wholeText (flags : Flags) (precision : Option Nat) (letter : CodePoint) (n : Int) : Text :=
  let digits := inBase (baseOf letter) n.natAbs
  let digits := padding (precision.getD 0) '0' digits ++ digits
  let body := if flags.alternate && isMarked letter then baseMark letter ++ digits else digits
  let t := if n < 0 then CodePoint.ofChar '-' :: body else body
  if letter.val = 88 then Text.upper t else t

def notANumber (letter : CodePoint) (v : Json) : Fault :=
  .type (CodePoint.ofChar '%' :: letter :: (if isMarked letter then (" format: an integer is required, not " : Text)
    else " format: a real number is required, not ") ++ v.kind)

def wholeOf (letter : CodePoint) : Json → Except Fault Int
  | .int n => .ok n
  | .bool b => .ok (if b then 1 else 0)
  | .float x =>
    if isMarked letter then .error (notANumber letter (.float x))
    else
      match x, x.truncated? with
      | _, some n => .ok n
      | .nan, none => .error (.value "cannot convert float NaN to integer")
      | _, none => .error (.other "OverflowError" [.str "cannot convert float infinity to integer"])
  | v => .error (notANumber letter v)

def doubleOf (v : Json) : Except Fault Double :=
  match v.num? with
  | some n => n.toDouble.mapError fun _ => Fault.overflow
  | none => .error (.type ("must be real number, not " ++ v.kind))

def fixedText (places : Nat) (keepsPoint : Bool) (x : Double) : Text :=
  if keepsPoint && places == 0 && x.isFinite then x.fixed 0 ++ "." else x.fixed places

def floatText (flags : Flags) (precision : Option Nat) (letter : CodePoint) (x : Double) : Text :=
  let places := precision.getD 6
  let small := letter.lower.val
  let t := if small = 102 then fixedText places flags.alternate x
    else if small = 101 then x.exponential places flags.alternate
    else x.general places flags.alternate
  if letter.isUpper then Text.upper t else t

def characterOf (v : Json) : Except Fault Text :=
  match v with
  | .str [c] => .ok [c]
  | .int n =>
    if 0 ≤ n ∧ n < 0x110000 then .ok [CodePoint.ofNat n.toNat]
    else .error (.other "OverflowError" [.str "%c arg not in range(0x110000)"])
  | .bool b => .ok [CodePoint.ofNat (if b then 1 else 0)]
  | _ => .error (.type "%c requires int or char")

def escaped (t : Text) : Text :=
  t.flatMap fun c =>
    if c.isAscii then [c] else Text.numbered c

def cutTo (precision : Option Nat) (t : Text) : Text :=
  match precision with
  | some n => t.take n
  | none => t

def unsupported (letter : CodePoint) (index : Nat) : Fault :=
  let shown := if 31 ≤ letter.val ∧ letter.val ≤ 126 then letter else CodePoint.ofChar '?'
  .value ("unsupported format character '" ++ [shown] ++ "' (0x" ++ inBase 16 letter.val ++ ") at index " ++
    Text.ofNat index)

def converted (flags : Flags) (width : Nat) (precision : Option Nat) (letter : CodePoint) (index : Nat)
    (v : Json) : Except Fault Text :=
  if letter.val = 115 then .ok (filled flags width (cutTo precision v.shown))
  else if letter.val = 114 then .ok (filled flags width (cutTo precision v.quoted))
  else if letter.val = 97 then .ok (filled flags width (cutTo precision (escaped v.quoted)))
  else if [100, 105, 117, 111, 120, 88].contains letter.val then do
    let n ← wholeOf letter v
    let markLength := if flags.alternate && isMarked letter then 2 else 0
    return filledNumber flags width markLength (wholeText flags precision letter n)
  else if [101, 69, 102, 70, 103, 71].contains letter.val then do
    let x ← doubleOf v
    return filledNumber flags width 0 (floatText flags precision letter x)
  else if letter.val = 99 then do
    let t ← characterOf v
    return filled flags width t
  else .error (unsupported letter index)

def widthLimit : Nat := 9223372036854775807
def precisionLimit : Nat := 2147483647

def takenAmount (limit : Nat) (unit : Text) (supply : Supply) : Except Fault (Int × Supply) := do
  let (v, supply) ← supply.next
  match v with
  | .int n =>
    if -(limit : Int) - 1 ≤ n ∧ n ≤ limit then return (n, supply)
    else throw (Fault.other "OverflowError" [.str ("Python int too large to convert to C " ++ unit)])
  | .bool b => return (if b then 1 else 0, supply)
  | _ => throw (Fault.type "* wants int")

def widthOf (c : Conversion) (supply : Supply) : Except Fault (Flags × Nat × Supply) :=
  match c.width with
  | none => .ok (c.flags, 0, supply)
  | some (.written n) =>
    if widthLimit < n then .error (.value "width too big") else .ok (c.flags, n, supply)
  | some .taken => do
    let (n, supply) ← takenAmount widthLimit "ssize_t" supply
    return (if n < 0 then { c.flags with left := true } else c.flags, n.natAbs, supply)

def precisionOf (c : Conversion) (supply : Supply) : Except Fault (Option Nat × Supply) :=
  match c.precision with
  | none => .ok (none, supply)
  | some (.written n) =>
    if precisionLimit < n then .error (.value "precision too big") else .ok (some n, supply)
  | some .taken => do
    let (n, supply) ← takenAmount precisionLimit "int" supply
    return (some n.toNat, supply)

def apply (c : Conversion) (index : Nat) (supply : Supply) : Except Fault (Text × Supply) := do
  let (flags, width, supply) ← widthOf c supply
  let (precision, supply) ← precisionOf c supply
  match c.letter with
  | none => throw (Fault.value "incomplete format")
  | some letter =>
    let (v, supply) ← supply.next
    let t ← converted flags width precision letter index v
    return (t, supply)

abbrev Lookup := Text → Except Fault Json

def lookupIn (members : Members) : Lookup := fun name =>
  match Members.get? members name with
  | some v => .ok v
  | none => .error (.other "KeyError" [.str name])

def picked (lookup : Option Lookup) (supply : Supply) (t : Text) : Except Fault (Supply × Text) :=
  match t with
  | c :: rest =>
    if c.val = 40 then
      match lookup with
      | none => .error (.type "format requires a mapping")
      | some find =>
        match name? 0 [] rest with
        | none => .error (.value "incomplete format key")
        | some (name, rest) => (find name).map fun v => (.one v, rest)
    else .ok (supply, t)
  | [] => .ok (supply, t)

def fill (lookup : Option Lookup) (length : Nat) : (fuel : Nat) → Supply → Text →
    Except Fault (Text × Supply)
  | 0, supply, _ => .ok ([], supply)
  | _ + 1, supply, [] => .ok ([], supply)
  | fuel + 1, supply, c :: rest =>
    if c.val = 37 ∧ rest.head? ≠ some c then do
      let (supply, rest) ← picked lookup supply rest
      let (conversion, rest) := conversion rest
      let (t, supply) ← apply conversion (length - rest.length - 1) supply
      let (more, supply) ← fill lookup length fuel supply rest
      return (t ++ more, supply)
    else do
      let rest := if c.val = 37 then rest.tail else rest
      let (more, supply) ← fill lookup length fuel supply rest
      return (c :: more, supply)

def supplyOf : Arguments → Supply
  | .listed values => .list values
  | .named members => .one (.obj members)
  | .single v => .one v

def lookupOf : Arguments → Option Lookup
  | .named members => some (lookupIn members)
  | .single (.arr _) => some fun _ => .error (.type "list indices must be integers or slices, not str")
  | .single (.foreign f) =>
    if f.bytes.isSome then
      some fun _ => .error (.type "byte indices must be integers or slices, not str")
    else none
  | _ => none

def isLeft : Supply → Bool
  | .list (_ :: _) => true
  | .one _ => true
  | _ => false

def tooMany : Fault := .type "not all arguments converted during string formatting"

end Template

def message (template : Text) (arguments : Arguments) : Except Fault Text := do
  let lookup := Template.lookupOf arguments
  let (t, supply) ← Template.fill lookup template.length template.length
    (Template.supplyOf arguments) template
  if lookup.isNone && Template.isLeft supply then throw Template.tooMany
  return t

end UploadRelay.Log
