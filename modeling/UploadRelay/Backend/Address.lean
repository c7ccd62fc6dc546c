import UploadRelay.Backend.Host
import UploadRelay.Number.Decimal
import UploadRelay.Fault
-- Addresses of backends: the parts of a URL, the faults that make one unusable, and its
-- normal form.

namespace UploadRelay.Backend

structure Address where
  -- In lower case; empty when there is none.
  scheme : Text
  user : Text
  -- Without the square brackets that eight-part numbers stand in.
  host : Text
  port : Option Nat
  path : Text
  query : Option Text
  fragment : Option Text

namespace Address

inductive Fault where
  | tooLong
  | control (c : CodePoint) (position : Nat)
  | badFour (host : Text)
  | badEight (host : Text)
  | badName (host : Text)
  | badPort (port : Text)
  | rootless
  | doubleSlash
  | leadingColon
  -- Half of a pair has no bytes.
  | unpaired (c : CodePoint)
deriving DecidableEq

def Fault.message : Fault → Text
  | .tooLong => "URL too long"
  | .control c position =>
    "Invalid non-printable ASCII character in URL, " ++ Text.quoted [c] ++ " at position " ++
      Text.ofNat position ++ "."
  | .badFour host => "Invalid IPv4 address: " ++ Text.quoted host
  | .badEight host => "Invalid IPv6 address: " ++ Text.quoted host
  | .badName host => "Invalid IDNA hostname: " ++ Text.quoted host
  | .badPort port => "Invalid port: " ++ Text.quoted port
  | .rootless => "For absolute URLs, path must be empty or begin with '/'"
  | .doubleSlash => "Relative URLs cannot have a path starting with '//'"
  | .leadingColon => "Relative URLs cannot have a path starting with ':'"
  | .unpaired c => "surrogates not allowed: " ++ Text.numbered c

def Fault.fault : Fault → UploadRelay.Fault
  | .unpaired c =>
    (UploadRelay.Fault.unwritable? "utf-8" "surrogates not allowed" (fun d => !d.isSurrogate) [c]).getD (.transport .invalidUrl [])
  | reason => .transport .invalidUrl reason.message

def upperHex (b : UInt8) : Text := Text.upper (Text.hex 2 b.toNat)

def escaped (safe : CodePoint → Bool) : Text → Text
  | [] => []
  | p :: a :: b :: rest =>
    if p.val = 37 ∧ a.hexValue?.isSome ∧ b.hexValue?.isSome then
      p :: a :: b :: escaped safe rest
    else if safe p then p :: escaped safe (a :: b :: rest)
    else (Utf8.encodeOne p).flatMap (fun x => CodePoint.ofChar '%' :: upperHex x) ++
      escaped safe (a :: b :: rest)
  | p :: rest =>
    if safe p then p :: escaped safe rest
    else (Utf8.encodeOne p).flatMap (fun x => CodePoint.ofChar '%' :: upperHex x) ++ escaped safe rest

def escape (safe : CodePoint → Bool) (t : Text) : Except Fault Text :=
  match t.find? CodePoint.isSurrogate with
  | some c => .error (.unpaired c)
  | none => .ok (escaped safe t)

def visible (c : CodePoint) : Bool := decide (0x20 ≤ c.val ∧ c.val < 0x7F)

def querySafe (c : CodePoint) : Bool := visible c && !([0x20, 0x22, 0x23, 0x3C, 0x3E].contains c.val)
def pathSafe (c : CodePoint) : Bool := querySafe c && !([0x3F, 0x60, 0x7B, 0x7D].contains c.val)
def fragmentSafe (c : CodePoint) : Bool := visible c && !([0x20, 0x22, 0x3C, 0x3E, 0x60].contains c.val)
def userSafe (c : CodePoint) : Bool :=
  pathSafe c && !([0x2F, 0x3B, 0x3D, 0x40, 0x5B, 0x5C, 0x5D, 0x5E, 0x7C].contains c.val)
def hostSafe (c : CodePoint) : Bool :=
  c.isLetter || c.isDigit || [45, 46, 95, 126].contains c.val ||
    [33, 36, 38, 39, 40, 41, 42, 43, 44, 59, 61].contains c.val ||
    [34, 96, 123, 125, 37, 124, 92].contains c.val

def upTo (marks : List Char) (t : Text) : Text × Text :=
  t.span fun c => !marks.any fun m => c == CodePoint.ofChar m

def schemeChar (c : CodePoint) : Bool := c.isLetter || c.isDigit || [43, 46, 45].contains c.val

def splitScheme (t : Text) : Text × Text :=
  let name := t.takeWhile schemeChar
  let startsWell := match name with
    | [] => true
    | c :: _ => c.isLetter
  match t.drop name.length with
  | c :: rest => if startsWell && c.val == 58 then (name, rest) else ([], t)
  | [] => ([], t)

structure Parts where
  scheme : Text
  user : Text
  host : Text
  port : Text
  path : Text
  query : Option Text
  fragment : Option Text

-- The user stands before the last at sign, the port behind the first colon of the rest; a
-- host in square brackets holds colons of its own.
def splitAuthority (t : Text) : Text × Text × Text :=
  let (user, rest) := match (t.reverse.findIdx? fun c => c.val == 64) with
    | some i => (t.take (t.length - i - 1), t.drop (t.length - i))
    | none => ([], t)
  let bracketed := match rest with
    | c :: _ => if c.val == 91 then (rest.reverse.findIdx? fun d => d.val == 93) else none
    | [] => none
  let (host, after) := match bracketed with
    | some i => (rest.take (rest.length - i), rest.drop (rest.length - i))
    | none => rest.span fun c => c.val != 58 && c.val != 64
  let port := match after with
    | c :: p => if c.val == 58 then p else after
    | [] => []
  (user, host, port)

def split (t : Text) : Parts :=
  let (scheme, rest) := splitScheme t
  let (authority, rest) := match rest with
    | a :: b :: r => if a.val = 47 ∧ b.val = 47 then upTo ['/', '?', '#'] r else ([], rest)
    | _ => ([], rest)
  let (path, rest) := upTo ['?', '#'] rest
  let (query, rest) := match rest with
    | c :: r => if c.val = 63 then let (q, r) := upTo ['#'] r; (some q, r) else (none, rest)
    | [] => (none, rest)
  let fragment := match rest with
    | _ :: r => some r
    | [] => none
  let (user, host, port) := splitAuthority authority
  ⟨scheme, user, host, port, path, query, fragment⟩

def readHost (host : Text) : Except Fault Text :=
  if host.isEmpty then .ok []
  else if Host.looksNumeric host then
    if (Host.octets? host).isSome then .ok host else .error (.badFour host)
  else if Host.isBracketed host then
    let inner := host.tail.dropLast
    if Host.isEightPartWithZone inner then .ok inner else .error (.badEight host)
  else if Text.isAscii host then .ok (escaped hostSafe (Text.lower host))
  else (Domain.encode (Text.lowered host)).mapError fun _ => .badName host

def usualPort? (scheme : Text) : Option Nat :=
  if scheme = ("http" : Text) then some 80
  else if scheme = ("https" : Text) then some 443
  else if scheme = ("ftp" : Text) then some 21
  else if scheme = ("ws" : Text) then some 80
  else if scheme = ("wss" : Text) then some 443
  else none

def readPort (scheme t : Text) : Except Fault (Option Nat) :=
  match t with
  | [] => .ok none
  | _ =>
    match Whole.read? t with
    | some n =>
      if 0 ≤ n ∧ n ≤ 65535 then
        .ok (if usualPort? scheme = some n.toNat then none else some n.toNat)
      else .error (.badPort t)
    | none => .error (.badPort t)

def withoutDots (path : Text) : Text :=
  let pieces := Text.splitOn '/' path
  if pieces.contains ("." : Text) || pieces.contains (".." : Text) then
    let kept := pieces.foldl (fun (out : List Text) piece =>
      if piece = ("." : Text) then out
      else if piece = (".." : Text) then (if out.isEmpty || out = [[]] then out else out.dropLast)
      else out ++ [piece]) []
    Text.joined "/" kept
  else path

-- Behind an authority a path starts with a slash; with neither scheme nor authority it must
-- not look like one of them.
def checkPath (hasScheme hasAuthority : Bool) (path : Text) : Except Fault Unit :=
  if hasAuthority then
    if path.isEmpty || Text.startsWith path "/" then .ok () else .error .rootless
  else if hasScheme then .ok ()
  else if Text.startsWith path "//" then .error .doubleSlash
  else if Text.startsWith path ":" then .error .leadingColon
  else .ok ()

def longest : Nat := 65536

def checkText (t : Text) : Except Fault Unit :=
  if longest < t.length then .error .tooLong
  else
    match t.findIdx? fun c => c.isAscii && !visible c with
    | some i => .error (.control (t.getD i (CodePoint.ofNat 0)) i)
    | none => .ok ()

def escapeAll (safe : CodePoint → Bool) : Option Text → Except Fault (Option Text)
  | none => .ok none
  | some t => (escape safe t).map some

def ofParts (p : Parts) : Except Fault Address := do
  let user ← escape userSafe p.user
  let host ← readHost p.host
  let port ← readPort p.scheme p.port
  let hasScheme := !p.scheme.isEmpty
  let hasAuthority := !user.isEmpty || !host.isEmpty || port.isSome
  checkPath hasScheme hasAuthority p.path
  let path ← escape pathSafe (if hasScheme || hasAuthority then withoutDots p.path else p.path)
  let query ← escapeAll querySafe p.query
  let fragment ← escapeAll fragmentSafe p.fragment
  return ⟨Text.lower p.scheme, user, host, port, path, query, fragment⟩

def parse (t : Text) : Except Fault Address := do
  checkText t
  ofParts (split t)

def shownHost (a : Address) : Text :=
  if a.host.any fun c => c.val == 58 then "[" ++ a.host ++ "]" else a.host

def place (a : Address) : Text :=
  a.shownHost ++ (match a.port with
    | some n => CodePoint.ofChar ':' :: Text.ofNat n
    | none => [])

def authority (a : Address) : Text := (if a.user.isEmpty then a.user else a.user ++ ("@" : Text)) ++ a.place

def marked (mark : Char) : Option Text → Text
  | some t => CodePoint.ofChar mark :: t
  | none => []

def text (a : Address) : Text :=
  (if a.scheme.isEmpty then a.scheme else a.scheme ++ (":" : Text)) ++
    (if a.authority.isEmpty then a.authority else ("//" : Text) ++ a.authority) ++ a.path ++ marked '?' a.query ++
    marked '#' a.fragment

-- Without a scheme or without a host an address does not say where to go.
def isRelative (a : Address) : Bool := a.scheme.isEmpty || a.host.isEmpty

def rooted (a : Address) : Address :=
  if a.isRelative then
    ⟨[], [], [], none, ("/" : Text) ++ a.path.dropWhile (fun c => c.val == 47), a.query, none⟩
  else a

def target (t : Text) : Except Fault Address := (parse t).map rooted

def checkHost (a : Address) : Except UploadRelay.Fault Unit :=
  if Text.startsWith a.host Domain.asciiMark then
    match Domain.decode a.host with
    | .ok _ => .ok ()
    | .error fault => .error (.other fault.kind [.str fault.message])
  else .ok ()

end Address

end UploadRelay.Backend
