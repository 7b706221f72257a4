import TokenSeal.Text.Utf8
import TokenSeal.Value.Limits

/-!
# Failures of signing and verification

Each way in which a call can fail is a cause with what its message needs; `Failure.message` holds
the wording of all of them and `Failure.kind` what they are raised as. Most causes belong to one of
three classes of signing errors below a common base, and a caller can catch them together by that
base; the causes without such a class are faults in a call's arguments, raised as errors of the
platform, that nothing catches.
-/

namespace TokenSeal

/-- The classes of signing errors: a base and three refinements of it. -/
inductive ErrorClass
  | base
  | keyInitialization
  | unsupportedAlgorithm
  | encoding
  deriving DecidableEq, Repr

namespace ErrorClass

/-- All classes, the base first. -/
def all : List ErrorClass := [.base, .keyInitialization, .unsupportedAlgorithm, .encoding]

/-- The code that a program reports for the class. -/
def code : ErrorClass → String
  | .base => "tokensign_error"
  | .keyInitialization => "key_initialization"
  | .unsupportedAlgorithm => "unsupported_algorithm"
  | .encoding => "encoding"

/-- The name of the class. -/
def name : ErrorClass → String
  | .base => "TokenSignError"
  | .keyInitialization => "KeyInitializationError"
  | .unsupportedAlgorithm => "UnsupportedAlgorithmError"
  | .encoding => "EncodingError"

/-- A class is part of itself and of the base. -/
def isPartOf (c d : ErrorClass) : Bool := c == d || d == .base

/-- The classes that a class is part of, the base first. -/
def ancestors (c : ErrorClass) : List ErrorClass := all.filter c.isPartOf

end ErrorClass

/-- What an error is raised as: a signing error of some class, or one of the platform's own. -/
inductive ErrorKind
  | signing (c : ErrorClass)
  /-- A member that a value does not have. -/
  | attribute
  /-- A value of another type than is needed. -/
  | type
  /-- A value of the right type that will not do. -/
  | value
  /-- A text that has no encoding. -/
  | unicodeEncode
  /-- Calls that are nested too deep. -/
  | recursion
  /-- Fields that did not pass validation. -/
  | validation
  /-- A name that means nothing. -/
  | lookup
  deriving DecidableEq, Repr

/-- The name of the class of such errors. -/
def ErrorKind.name : ErrorKind → String
  | .signing c => c.name
  | .attribute => "AttributeError"
  | .type => "TypeError"
  | .value => "ValueError"
  | .unicodeEncode => "UnicodeEncodeError"
  | .recursion => "RecursionError"
  | .validation => "ValidationError"
  | .lookup => "KeyError"

/-- The two segments of a signing input. -/
inductive Segment
  | header
  | claims
  deriving DecidableEq, Repr

/-- The segment's name in messages. -/
def Segment.name : Segment → String
  | .header => "header"
  | .claims => "claims"

/-- Why a call failed. -/
inductive Failure
  /-- Signature text is of another type. -/
  | signatureNotText (typeName : String)
  /-- Signature text has a character outside the URL-safe alphabet. -/
  | foreignCharacter
  /-- No byte sequence has an encoding of the signature text's length. -/
  | impossibleLength
  /-- A raw signature is no container of octets. -/
  | signatureNotBytes (typeName : String)
  /-- A segment holds a surrogate. -/
  | segmentNotScalar (segment : Segment)
  /-- A segment cannot be encoded, being neither a text nor the class of texts. -/
  | segmentNotText (owner : String)
  /-- A raw signature is a view whose octets are gone. -/
  | signatureReleased
  /-- An encoder's input is no container of octets. -/
  | dataNotBytes (typeName : String)
  /-- An algorithm name outside the supported set, shown whole. -/
  | unsupportedAlgorithm (shown : String)
  /-- An algorithm name outside the supported set that cannot be shown. -/
  | nameNotShown (obstacle : Obstacle)
  /-- A hash class without an algorithm. -/
  | unregisteredHash (className : String)
  /-- A secret text holds surrogates. -/
  | secretNotScalar (run : SurrogateRun)
  /-- A secret is neither text nor bytes. -/
  | secretNotBytes (typeName : String)
  | secretEmpty
  | secretMissing
  | keyClosed
  deriving DecidableEq, Repr

namespace Failure

/-- What the cause is raised as. -/
def kind : Failure → ErrorKind
  | .signatureNotText _ | .foreignCharacter | .impossibleLength | .signatureNotBytes _
  | .segmentNotScalar _ => .signing .encoding
  | .unsupportedAlgorithm _ | .unregisteredHash _ => .signing .unsupportedAlgorithm
  | .secretNotBytes _ | .secretEmpty | .secretMissing | .keyClosed => .signing .keyInitialization
  | .segmentNotText _ => .attribute
  | .dataNotBytes _ => .type
  | .secretNotScalar _ => .unicodeEncode
  | .nameNotShown (.tooManyDigits _) | .signatureReleased => .value
  | .nameNotShown .tooDeep => .recursion

/-- The class of signing errors that the cause belongs to, if any. -/
def errorClass? (e : Failure) : Option ErrorClass :=
  match e.kind with
  | .signing c => some c
  | _ => none

/-- A cause belongs to a class of signing errors if it is raised as an error of that class. -/
theorem errorClass?_eq_some_iff {e : Failure} {c : ErrorClass} :
    e.errorClass? = some c ↔ e.kind = .signing c := by
  unfold errorClass?
  cases e.kind <;> simp

/-- Where the surrogates are: one by its number and position, several by their positions. -/
def unencodable (run : SurrogateRun) : String :=
  let place :=
    if run.length = 1 then
      "character '" ++ String.ofList (Quoted.numbered run.first.val) ++ "' in position " ++
        toString run.start
    else
      "characters in position " ++ toString run.start ++ "-" ++
        toString (run.start + run.length - 1)
  "'utf-8' codec can't encode " ++ place ++ ": surrogates not allowed"

/-- A value, called as `Value.owner` has it, has no member of that name. -/
def missingMember (owner member : String) : String :=
  owner ++ " has no attribute '" ++ member ++ "'"

/-- The wording of each cause. -/
def message : Failure → String
  | .signatureNotText typeName => "Expected str, got " ++ typeName
  | .foreignCharacter => "Invalid base64url character"
  | .impossibleLength => "Invalid base64url length"
  | .signatureNotBytes typeName => "Signature must be bytes, got " ++ typeName
  | .segmentNotScalar segment => segment.name ++ " is not valid UTF-8 text"
  | .segmentNotText owner => missingMember owner "encode"
  | .signatureReleased => "operation forbidden on released memoryview object"
  | .dataNotBytes typeName => "a bytes-like object is required, not '" ++ typeName ++ "'"
  | .unsupportedAlgorithm shown => "Unsupported algorithm: " ++ shown
  | .nameNotShown obstacle => obstacle.message
  | .unregisteredHash className => "No algorithm registered for digest " ++ className
  | .secretNotScalar run => unencodable run
  | .secretNotBytes typeName => "HMAC secret must be bytes or str, got " ++ typeName
  | .secretEmpty => "HMAC secret must not be empty"
  | .secretMissing => "No signing secret configured"
  | .keyClosed => "HMAC key has been closed"

end Failure

/-- How a call fails that asks the platform below it for something: by a failure of its own, by an
objection of the platform that it reports as an error of a class, or by one that it lets through. -/
inductive Raised
  | failure (cause : Failure)
  | reported (kind : ErrorClass) (message : String)
  | escaped
  deriving DecidableEq, Repr

end TokenSeal
