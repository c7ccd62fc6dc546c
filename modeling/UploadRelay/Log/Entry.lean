import UploadRelay.Json.Value
import UploadRelay.Text.CodePoint
-- Log records as the service leaves them, at one of five named levels or any other, and loggers that bind fields to
-- all they write.

namespace UploadRelay.Log

structure Level where
  number : Int
deriving DecidableEq

namespace Level

def debug : Level := ⟨10⟩
def info : Level := ⟨20⟩
def warning : Level := ⟨30⟩
def error : Level := ⟨40⟩

def name (l : Level) : Text :=
  if l.number = 50 then "CRITICAL"
  else if l.number = 40 then "ERROR"
  else if l.number = 30 then "WARNING"
  else if l.number = 20 then "INFO"
  else if l.number = 10 then "DEBUG"
  else if l.number = 0 then "NOTSET"
  else "Level " ++ Text.ofInt l.number

def names : List (String × Int) :=
  [("CRITICAL", 50), ("FATAL", 50), ("ERROR", 40), ("WARN", 30), ("WARNING", 30), ("INFO", 20),
   ("DEBUG", 10), ("NOTSET", 0)]

def ofName? (name : Text) : Option Level :=
  (names.find? fun entry => Text.ofString entry.1 == name).map fun entry => ⟨entry.2⟩

end Level

structure Entry where
  logger : Text
  level : Level
  message : Text
  extra : Members
  -- The class of the fault that the record is about.
  raised : Option Text

def merged (extra bound : Members) : Members := Members.putAll extra bound

structure Logger where
  name : Text
  bound : Members

end UploadRelay.Log
