import TokenSeal.Failure
import TokenSeal.Text.Case

/-!
# Log levels

A threshold is named by a level in any mixture of cases. Each of two severities has a second name,
and one level lets every event pass.
-/

namespace TokenSeal.Log

/-- Why a level is refused. -/
inductive LevelError
  /-- A value that cannot be upper-cased. -/
  | noText (owner : String)
  /-- A class of what can be upper-cased, which would need an instance for that. -/
  | noArgument (className : String)
  /-- Octets, shown after upper-casing. -/
  | noName (shown : String)
  /-- A name that is no level, shown after upper-casing. -/
  | unknown (shown : String)
  deriving DecidableEq, Repr

/-- The wording of each cause. -/
def LevelError.message : LevelError → String
  | .noText owner => Failure.missingMember owner "upper"
  | .noArgument className => "unbound method " ++ className ++ ".upper() needs an argument"
  | .noName shown => "Level not an integer or a valid string: " ++ shown
  | .unknown shown => "Unknown level: " ++ shown

/-- What each cause is raised as. -/
def LevelError.kind : LevelError → ErrorKind
  | .noText _ => .attribute
  | .noArgument _ | .noName _ => .type
  | .unknown _ => .value

/-- The level names with the least rank that each lets pass. -/
def levels : List (String × Nat) :=
  [("NOTSET", 0), ("DEBUG", 10), ("INFO", 20), ("WARN", 30), ("WARNING", 30), ("ERROR", 40),
    ("CRITICAL", 50), ("FATAL", 50)]

/-- The least rank that a level of this name lets pass. -/
def threshold (name : Text) : Except LevelError Nat :=
  match levels.find? fun l => Text.ofString l.1 == name.toUpper with
  | some l => .ok l.2
  | none => .error (.unknown (Quoted.text name.toUpper))

/-- An ASCII small letter's capital; any other octet is left as it is. -/
def upperOctet (b : UInt8) : UInt8 := if 0x61 ≤ b ∧ b ≤ 0x7A then b - 0x20 else b

/-- The built-in classes whose instances can be upper-cased. -/
def upperCasing : List String := ["str", "bytes", "bytearray"]

/-- The least rank that a level lets pass, for a level of any type. -/
def thresholdOfValue (v : Value) : Except LevelError Nat :=
  match v.asText?, v with
  | some name, _ => threshold name
  | none, .bytes .memoryview _ => .error (.noText v.owner)
  | none, .bytes kind content =>
    .error (.noName (Value.bytes kind (content.map upperOctet)).shown)
  | none, .builtinClass name =>
    if upperCasing.contains name then .error (.noArgument name) else .error (.noText v.owner)
  | none, _ => .error (.noText v.owner)

end TokenSeal.Log
