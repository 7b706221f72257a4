import TokenSeal.Base64Url

/-!
# The signing input

What is signed is the UTF-8 encoding of the header, a dot, and the UTF-8 encoding of the claims.
Both segments are taken as they are, without trimming or normalization. Where both are unfit, the
header is reported.

A segment is not asked for its type but to encode itself, in an encoding that it is given the name
of. Texts do that, and so does the class of texts, which takes that name for the text to encode.
-/

namespace TokenSeal

/-- The text that is encoded if a value is asked to encode itself. -/
def Value.encodedText? : Value → Option Text
  | .builtinClass name => if name = "str" then some (Text.ofString "utf-8") else none
  | v => v.asText?

/-- A text encodes itself. -/
theorem Value.encodedText?_of_asText {v : Value} {t : Text} (h : v.asText? = some t) :
    v.encodedText? = some t := by
  cases v with
  | builtinClass name => cases h
  | _ => exact h

/-- What can be encoded is a text or the class of texts. -/
theorem Value.encodedText?_eq_none_iff {v : Value} :
    v.encodedText? = none ↔ v.asText? = none ∧ v ≠ .textClass := by
  cases v with
  | builtinClass name => simp [encodedText?, asText?, textClass]
  | _ => simp [encodedText?, textClass]

namespace SigningInput

/-- The octet between the segments. -/
def separator : UInt8 := 0x2E

/-- The octets of a segment. -/
def ofSegment (segment : Segment) (v : Value) : Except Failure Bytes :=
  match v.encodedText? with
  | none => .error (.segmentNotText v.owner)
  | some t =>
    match Utf8.encode t with
    | .ok bs => .ok bs
    | .error _ => .error (.segmentNotScalar segment)

/-- The octets to sign. -/
def build (header claims : Value) : Except Failure Bytes :=
  match ofSegment .header header with
  | .error e => .error e
  | .ok h =>
    match ofSegment .claims claims with
    | .error e => .error e
    | .ok c => .ok (h ++ separator :: c)

end SigningInput

end TokenSeal
