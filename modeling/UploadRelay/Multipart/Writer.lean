import UploadRelay.Multipart.Reader
import UploadRelay.Multipart.FileType
import UploadRelay.Fault
-- Writing forms: the bodies that clients send. Values come before files; without files the
-- values are written as a query.

namespace UploadRelay.Multipart

structure FileField where
  name : Text
  fileName : Text
  content : List UInt8

def nameOne (c : CodePoint) : Text :=
  if c.val = 34 then "%22"
  else if c.val = 92 then "\\\\"
  else if c.val < 32 ∧ c.val ≠ 27 then CodePoint.ofChar '%' :: Text.upper (Text.hex 2 c.val)
  else [c]

def quotedName (t : Text) : Text := "\"" ++ t.flatMap nameOne ++ "\""

def disposition (name : Text) : Text := "Content-Disposition: form-data; name=" ++ quotedName name

def valueHead (name : Text) : Text := disposition name ++ "\r\n\r\n"

def fileHead (f : FileField) : Text :=
  disposition f.name ++
    (if f.fileName.isEmpty then ("" : Text)
      else "; filename=" ++ quotedName f.fileName ++ "\r\nContent-Type: " ++ typeOf f.fileName) ++
    "\r\n\r\n"

def piece (boundary : Text) (head : Text) (content : List UInt8) : List UInt8 :=
  Utf8.encode ("--" ++ boundary ++ "\r\n" ++ head) ++ content ++ crlf

def lastLine (boundary : Text) : List UInt8 := Utf8.encode ("--" ++ boundary ++ "--\r\n")

def formBody (boundary : Text) (values : List (Text × Text)) (files : List FileField) : List UInt8 :=
  (values.flatMap fun v => piece boundary (valueHead v.1) (Utf8.encode v.2)) ++
    (files.flatMap fun f => piece boundary (fileHead f) f.content) ++ lastLine boundary

def formType (boundary : Text) : Text := "multipart/form-data; boundary=" ++ boundary

def querySafe (c : CodePoint) : Bool :=
  c.isLetter || c.isDigit || c.val == 95 || c.val == 46 || c.val == 45 || c.val == 126

def queryByte (b : UInt8) : Text :=
  let c := CodePoint.ofByte b
  if querySafe c then [c]
  else if c.val = 32 then "+"
  else CodePoint.ofChar '%' :: Text.upper (Text.hex 2 b.toNat)

def queryText (t : Text) : Text := (Utf8.encode t).flatMap queryByte

def query (values : List (Text × Text)) : Text :=
  Text.joined "&" (values.map fun v => queryText v.1 ++ "=" ++ queryText v.2)

structure Encoded where
  contentType : Text
  body : List UInt8

def encode (boundary : Text) (values : List (Text × Text)) (files : List FileField) :
    Except Fault Encoded :=
  match files, values with
  | [], [] => .error (.other "KeyError" [.str "Content-Type"])
  | [], _ => .ok ⟨"application/x-www-form-urlencoded", Utf8.encode (query values)⟩
  | _, _ => .ok ⟨formType boundary, formBody boundary values files⟩

def upload (boundary : Text) (payload : Option (Text × Text)) (file : Option FileField) : Encoded :=
  ⟨formType boundary, formBody boundary payload.toList file.toList⟩

end UploadRelay.Multipart
