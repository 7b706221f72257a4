import TokenSeal.Value

/-!
# Settings

What a program is configured with: the algorithm, the shared secret, and how it logs. `Settings` is
a value that has passed validation. Its shown form never depends on a non-empty secret.
-/

namespace TokenSeal

/-- A validated configuration. -/
structure Settings where
  algorithm : Algorithm := .hs256
  secret : Option Text := none
  logLevel : Text := Text.ofString "INFO"
  logJson : Bool := false
  deriving DecidableEq

namespace Settings

/-- The fields, in the order in which they are reported. -/
inductive Field
  | algorithm
  | secret
  | logLevel
  | logJson
  deriving DecidableEq, Repr

/-- The field's name as an argument and in messages. -/
def Field.name : Field → String
  | .algorithm => "algorithm"
  | .secret => "secret"
  | .logLevel => "log_level"
  | .logJson => "log_json"

/-- The field's name as a variable, in lower case. -/
def Field.variableName (f : Field) : Text := Text.ofString ("tokensign_" ++ f.name)

/-- Why a field's value is invalid. -/
inductive Cause
  | noAlgorithm
  | noText
  | noUnicode
  | noBoolean
  | unreadableBoolean
  deriving DecidableEq, Repr

/-- The wording of each cause. -/
def Cause.message : Cause → String
  | .noAlgorithm => "Input should be 'HS256', 'HS384' or 'HS512'"
  | .noText => "Input should be a valid string"
  | .noUnicode => "Input should be a valid string, unable to parse raw data as a unicode string"
  | .noBoolean => "Input should be a valid boolean"
  | .unreadableBoolean => "Input should be a valid boolean, unable to interpret input"

/-- An invalid field. -/
structure Problem where
  field : Field
  cause : Cause
  deriving DecidableEq, Repr

/-- All invalid fields in one text. -/
def problemsMessage (ps : List Problem) : String :=
  "; ".intercalate (ps.map fun p => p.field.name ++ ": " ++ p.cause.message)

/-- A secret shown by a mask, which tells only whether it is empty. -/
def shownSecret : Option Text → String
  | none => "None"
  | some [] => "SecretStr('')"
  | some (_ :: _) => "SecretStr('**********')"

/-- The settings shown whole, the secret masked. -/
def shown (s : Settings) : String :=
  "Settings(algorithm='" ++ s.algorithm.name ++ "', secret=" ++ shownSecret s.secret ++
    ", log_level=" ++ Quoted.text s.logLevel ++ ", log_json=" ++
    (if s.logJson then "True" else "False") ++ ")"

end Settings

end TokenSeal
