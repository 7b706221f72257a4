import TokenSeal.Base64

/-!
# The codec over padded base64

A platform has padded base64 in the standard alphabet. The unpadded URL-safe codec can be had from
it: writing exchanges two letters and takes the equals signs off again, reading puts equals signs on
and exchanges the letters back. The platform's reader is lenient, so a text is looked at before it
gets there; what that reader might still object to would be reported, and a text that is not ASCII
would not even reach it.
-/

namespace TokenSeal

namespace Text

/-- The octets of a text, if it is ASCII. -/
def ascii? (t : Text) : Option Bytes :=
  t.mapM fun c => if c.val < 0x80 then some (.ofNat c.val) else none

/-- The text of octets of ASCII. -/
def ofAscii (bs : Bytes) : Text := bs.map fun b => .ofNat b.toNat

end Text

namespace Base64Url

/-- The URL-safe letter for a letter of the standard alphabet. -/
def urlSafe (b : UInt8) : UInt8 := if b = 0x2B then 0x2D else if b = 0x2F then 0x5F else b

/-- The letter of the standard alphabet for a URL-safe letter. -/
def standard (b : UInt8) : UInt8 := if b = 0x2D then 0x2B else if b = 0x5F then 0x2F else b

/-- The encoding of a byte sequence with its equals signs. -/
def encodePadded (bs : Bytes) : Text := Text.ofAscii ((Base64.encode bs).map urlSafe)

/-- Whether a character is a capital, a small letter, a digit, an underscore or a hyphen of
ASCII. -/
def isLetter (c : CodePoint) : Bool :=
  (0x41 ≤ c.val && c.val ≤ 0x5A) || (0x61 ≤ c.val && c.val ≤ 0x7A) ||
    (0x30 ≤ c.val && c.val ≤ 0x39) || c == '_' || c == '-'

/-- A text filled up with equals signs. -/
def padded (t : Text) : Text := t ++ List.replicate (Base64.fill t.length) ('=' : CodePoint)

/-- What the platform reads in a text that is filled up. -/
def decodePadded (t : Text) : Except Raised Bytes :=
  match (padded t).ascii? with
  | none => .error .escaped
  | some octets =>
    match Base64.decode (octets.map standard) with
    | .ok bs => .ok bs
    | .error fault => .error (.reported .encoding ("Invalid base64url data: " ++ fault.message))

/-- The byte sequence that a value encodes, read by the platform after three checks. -/
def decodeThroughPadding (v : Value) : Except Raised Bytes :=
  match v.asText? with
  | none => .error (.failure (.signatureNotText v.typeName))
  | some t =>
    if t.all isLetter = false then .error (.failure .foreignCharacter)
    else if t.length % 4 = 1 then .error (.failure .impossibleLength)
    else decodePadded t

end Base64Url

end TokenSeal
