import UploadRelay.CommandLine.Numeral
import UploadRelay.Fault
-- Command lines: options by name, with values from the line or from the environment, and words that stand for
-- themselves; and the commands of the program and how they end.

namespace UploadRelay.CommandLine

inductive Kind where
  | text
  | whole
  | decimal
  | choice (names : List Text)
  -- Takes no value; its other spellings switch it off.
  | switch
deriving DecidableEq

structure Setting where
  name : Text
  spellings : List Text
  negations : List Text := []
  kind : Kind := .text
  -- The variable of the environment that stands in for the option.
  variableName : Option Text := none
  isRequired : Bool := false

inductive Misuse where
  | noSuchOption (word : Text)
  | badValueCount (word : Text)
  | missing (name : Text)
  | badValue (message : Text)
  | unexpectedWord (word : Text)
  | noSuchCommand (word : Text)
  | noCommand
deriving DecidableEq

def Misuse.label : Misuse → Text
  | .noSuchOption _ => "NoSuchOption"
  | .badValueCount _ => "BadOptionUsage"
  | .missing _ => "MissingParameter"
  | .badValue _ => "BadParameter"
  | .unexpectedWord _ => "UsageError"
  | .noSuchCommand _ => "UsageError"
  | .noCommand => "NoArgsIsHelpError"

def Misuse.message : Misuse → Text
  | .noSuchOption word => "No such option: " ++ word
  | .badValueCount word => "Option '" ++ word ++ "' does not take that many values."
  | .missing name => "Missing parameter: " ++ name
  | .badValue message => message
  | .unexpectedWord word => "Got unexpected extra argument (" ++ word ++ ")"
  | .noSuchCommand word => "No such command '" ++ word ++ "'."
  | .noCommand => "Missing command."

abbrev Environment := List (Text × Text)

def Environment.get? (env : Environment) (name : Text) : Option Text :=
  match (env.find? fun e => e.1 == name).map (·.2) with
  | some (c :: rest) => some (c :: rest)
  | _ => none

def on : Text := "on"
def off : Text := "off"

structure Spelled where
  setting : Setting
  value : Option Text

def bySpelling? (settings : List Setting) (word : Text) : Option Spelled :=
  settings.findSome? fun s =>
    if s.spellings.contains word then some ⟨s, if s.kind = .switch then some on else none⟩
    else if s.negations.contains word then some ⟨s, some off⟩
    else none

def isLong (word : Text) : Bool := Text.startsWith word "--"

def longOption (settings : List Setting) (word : Text) : Except Misuse Spelled :=
  let (name, attached) := Text.splitAtFirst '=' word
  match if isLong name then bySpelling? settings name else none with
  | none => .error (.noSuchOption name)
  | some spelled =>
    match attached with
    | none => .ok spelled
    | some value =>
      if spelled.setting.kind = .switch then .error (.badValueCount name) else .ok ⟨spelled.setting, some value⟩

def shortOption (settings : List Setting) (word : Text) : Except Misuse Spelled :=
  match bySpelling? settings (word.take 2) with
  | none => .error (.noSuchOption (word.take 2))
  | some spelled =>
    match word.drop 2 with
    | [] => .ok spelled
    | value => .ok ⟨spelled.setting, some value⟩

def spelled (settings : List Setting) (word : Text) : Except Misuse Spelled :=
  if isLong word then longOption settings word else shortOption settings word

def isOption (word : Text) : Bool := Text.startsWith word "-" && 1 < word.length

structure Words where
  given : List (Text × Text)
  rest : List Text

def Words.withOption (w : Words) (name value : Text) : Words := { w with given := (name, value) :: w.given }
def Words.withWord (w : Words) (word : Text) : Words := { w with rest := word :: w.rest }

def readWords (settings : List Setting) : List Text → Except Misuse Words
  | [] => .ok ⟨[], []⟩
  | word :: more =>
    if word = ("--" : Text) then .ok ⟨[], more⟩
    else if isOption word then
      match spelled settings word with
      | .error misuse => .error misuse
      | .ok option =>
        match option.value with
        | some value => (readWords settings more).map fun w => w.withOption option.setting.name value
        | none =>
          match more with
          | [] => .error (.badValueCount word)
          | value :: behind =>
            (readWords settings behind).map fun w => w.withOption option.setting.name value
    else (readWords settings more).map fun w => w.withWord word

structure Line where
  settings : List Setting
  env : Environment
  words : Words

namespace Line

-- The last value on the line counts; without one the environment is asked.
def value? (l : Line) (s : Setting) : Option Text :=
  match (l.words.given.reverse.find? fun g => g.1 == s.name).map (·.2) with
  | some value => some value
  | none => s.variableName.bind l.env.get?

def text (l : Line) (s : Setting) (fallback : Text) : Text := (l.value? s).getD fallback
def whole (l : Line) (s : Setting) (fallback : Int) : Int := ((l.value? s).bind Numeral.whole?).getD fallback
def decimal (l : Line) (s : Setting) (fallback : Double) : Double :=
  ((l.value? s).bind Numeral.decimal?).getD fallback

def isOn (l : Line) (s : Setting) (fallback : Bool) : Bool :=
  match l.value? s with
  | some value => value == on
  | none => fallback

end Line

def accepts (kind : Kind) (value : Text) : Bool :=
  match kind with
  | .text => true
  | .switch => true
  | .whole => (Numeral.whole? value).isSome
  | .decimal => (Numeral.decimal? value).isSome
  | .choice names => names.contains value

def badValue (s : Setting) (value : Text) : Misuse :=
  .badValue ("Invalid value for " ++ s.name ++ ": " ++ Text.quoted value)

def checkSetting (l : Line) (s : Setting) : Except Misuse Unit :=
  match l.value? s with
  | some value => if accepts s.kind value then .ok () else .error (badValue s value)
  | none => if s.isRequired then .error (.missing s.name) else .ok ()

-- Options on the line are checked in the order in which they first stand there; the others
-- come after the words between them, in the order in which they are declared.
def onLine (l : Line) : List Setting :=
  l.words.given.filterMap fun g => l.settings.find? fun s => s.name == g.1

def offLine (l : Line) : List Setting :=
  l.settings.filter fun s => !l.words.given.any fun g => g.1 == s.name

structure Operands where
  count : Nat
  check : List Text → Except Misuse Unit

def noOperands : Operands := ⟨0, fun _ => .ok ()⟩

def checkCount (operands : Operands) (words : List Text) : Except Misuse Unit :=
  match words.drop operands.count with
  | [] => .ok ()
  | word :: _ => .error (.unexpectedWord word)

def Line.read (settings : List Setting) (operands : Operands) (env : Environment) (words : List Text) :
    Except Misuse Line := do
  let words ← readWords settings words
  let line : Line := ⟨settings, env, words⟩
  (onLine line).forM (checkSetting line)
  operands.check words.rest
  (offLine line).forM (checkSetting line)
  checkCount operands words.rest
  return line

inductive Ending where
  -- With an exit code, and the texts for the two outputs.
  | ended (code : Nat) (output errors : Text)
  | misused (misuse : Misuse)
  | broken (fault : Fault)

namespace Ending

def code : Ending → Nat
  | .ended code _ _ => code
  | .misused _ => 2
  | .broken _ => 1

def output : Ending → Text
  | .ended _ output _ => output
  | _ => []

def errors : Ending → Text
  | .ended _ _ errors => errors
  | _ => []

def failed (reason : Text) : Ending := .ended 1 [] ("Error: " ++ reason ++ "\n")

end Ending

inductive Command where
  | serve
  | publish
deriving DecidableEq

namespace Command

def byName (name : Text) : Except Misuse Command :=
  if name = ("serve" : Text) then .ok .serve
  else if name = ("publish" : Text) then .ok .publish
  else .error (.noSuchCommand name)

def named : List Text → Except Misuse (Command × List Text)
  | [] => .error (.noSuchCommand [])
  | name :: words => (byName name).map fun c => (c, words)

def read : List Text → Except Misuse (Command × List Text)
  | [] => .error .noCommand
  | word :: words =>
    if word = ("--" : Text) then named words
    else if isOption word then .error (.noSuchOption word)
    else named (word :: words)

end Command

end UploadRelay.CommandLine
