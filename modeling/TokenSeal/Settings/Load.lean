import TokenSeal.EnvFile.Interpolation
import TokenSeal.Settings.Basic
import TokenSeal.Text.Utf8

/-!
# Loading settings

Each field takes its value from the first source that has one: an argument, an environment
variable, the settings file, the default. An argument that is null counts as given, an empty
variable counts as given, and a name without a value in the file does not. Variables match their
field in any mixture of cases. The values are validated after they are chosen, all four of them, so
one failed load reports every invalid field.
-/

namespace TokenSeal.Settings

/-- Where values come from. -/
structure Sources where
  arguments : Entries Value
  environment : Entries Text
  file : Entries (Option Text)

namespace Sources

/-- The value that a field takes from the arguments. -/
def argument? (s : Sources) (f : Field) : Option Value :=
  s.arguments.get? (Text.ofString f.name)

/-- The value that a field takes from the environment. -/
def inEnvironment? (s : Sources) (f : Field) : Option Text :=
  s.environment.foldCase.get? f.variableName

/-- The value that a field takes from the file. -/
def inFile? (s : Sources) (f : Field) : Option Text :=
  (s.file.foldCase.get? f.variableName).join

/-- The value of a field from the first source that has one. -/
def select (s : Sources) (f : Field) : Option Value :=
  s.argument? f <|> (s.inEnvironment? f).map .text <|> (s.inFile? f).map .text

end Sources

/-! ### Validation -/

/-- A text that an algorithm name may be compared with, or read as a boolean. -/
def unicodeText (t : Text) : Except Cause Text :=
  if t.isScalar then .ok t else .error .noUnicode

/-- An algorithm by its exact name. -/
def validAlgorithm (v : Value) : Except Cause Algorithm := do
  match v.asText? with
  | none => throw .noAlgorithm
  | some t =>
    match Algorithm.ofName? (← unicodeText t) with
    | some a => pure a
    | none => throw .noAlgorithm

/-- A text, or octets that are UTF-8; `invalid` is the cause for octets that are not. -/
def validText (invalid : Cause) (v : Value) : Except Cause Text :=
  match v.asText?, v with
  | some t, _ => .ok t
  | none, .bytes .memoryview _ => .error .noText
  | none, .bytes _ content =>
    match Utf8.decode? content with
    | some t => .ok t
    | none => .error invalid
  | none, _ => .error .noText

/-- A secret: null, or a text. -/
def validSecret : Value → Except Cause (Option Text)
  | .null => .ok none
  | v => (validText .noText v).map some

/-- A log level: any text at all. -/
def validLevel (v : Value) : Except Cause Text := validText .noUnicode v

/-- The words for true and false. -/
def trueWords : List Text := ["1", "on", "t", "true", "y", "yes"].map Text.ofString

/-- The words for false. -/
def falseWords : List Text := ["0", "off", "f", "false", "n", "no"].map Text.ofString

/-- A boolean written as a word, in any mixture of cases. -/
def booleanWord (t : Text) : Except Cause Bool :=
  let word := t.map CodePoint.toLowerAscii
  if trueWords.contains word then .ok true
  else if falseWords.contains word then .ok false
  else .error .unreadableBoolean

/-- A boolean given as a whole number, for which 64 bits have to be enough. -/
def booleanNumber (n : Int) : Except Cause Bool :=
  if n = 0 then .ok false
  else if n = 1 then .ok true
  else if Int64.minValue.toInt ≤ n ∧ n ≤ Int64.maxValue.toInt then .error .unreadableBoolean
  else .error .noBoolean

/-- A boolean: itself, zero or one, or a word. -/
def validBoolean (v : Value) : Except Cause Bool :=
  match v.asText?, v with
  | some t, _ => (unicodeText t).bind booleanWord
  | none, .bool b => .ok b
  | none, .int n => booleanNumber n
  | none, .float decimal =>
    match Value.wholeNumber? decimal with
    | some n => booleanNumber n
    | none => .error .noBoolean
  | none, .bytes .bytes content =>
    match Utf8.decode? content with
    | some t => booleanWord t
    | none => .error .unreadableBoolean
  | none, _ => .error .noBoolean

/-- The validated value of a field, its default where no source has one. -/
def field {α : Type} (s : Sources) (f : Field) (valid : Value → Except Cause α) (default : α) :
    Except Cause α :=
  match s.select f with
  | some v => valid v
  | none => .ok default

/-- The problem of a field, if it has one. -/
def problem {α : Type} (f : Field) : Except Cause α → List Problem
  | .ok _ => []
  | .error cause => [⟨f, cause⟩]

/-- The settings that the sources give, or every invalid field in order. -/
def load (s : Sources) : Except (List Problem) Settings :=
  let algorithm := field s .algorithm validAlgorithm ({} : Settings).algorithm
  let secret := field s .secret validSecret ({} : Settings).secret
  let logLevel := field s .logLevel validLevel ({} : Settings).logLevel
  let logJson := field s .logJson validBoolean ({} : Settings).logJson
  match algorithm, secret, logLevel, logJson with
  | .ok algorithm, .ok secret, .ok logLevel, .ok logJson =>
    .ok { algorithm, secret, logLevel, logJson }
  | _, _, _, _ =>
    .error (problem .algorithm algorithm ++ problem .secret secret ++
      problem .logLevel logLevel ++ problem .logJson logJson)

/-! ### The system that a program runs in -/

/-- An environment and the text of a settings file, if there is one. -/
structure System where
  environment : Entries Text := []
  file : Option (List Char) := none

/-- The argument that switches the settings file off when it is null. -/
def fileArgument : Text := Text.ofString "_env_file"

/-- The sources that a load with these arguments consults. -/
def System.sources (system : System) (arguments : Entries Value) : Sources where
  arguments := arguments
  environment := system.environment
  file :=
    match arguments.get? fileArgument, system.file with
    | some .null, _ => []
    | _, none => []
    | _, some text => EnvFile.values system.environment (EnvFile.read text)

/-- A fresh load with these arguments. -/
def System.load (system : System) (arguments : Entries Value := []) :
    Except (List Problem) Settings :=
  Settings.load (system.sources arguments)

end TokenSeal.Settings
