import TokenSeal.Failure
import TokenSeal.Value

/-!
# Unpadded URL-safe base64

The encoding of RFC 4648 section 5 without padding. Three octets are four sextets, most significant
bits first; a tail of one or two octets is two or three sextets whose unused low bits are zero when
written and ignored when read. The two halves of the codec are stated apart: octets against sextets
(`sextets`, `octets`), and sextets against the alphabet (`letter`, `sextet?`).
-/

namespace TokenSeal

/-- Six bits. -/
abbrev Sextet := Fin 64

namespace Sextet

/-- The lowest six bits of a number. -/
def ofNat (n : Nat) : Sextet := Fin.ofNat _ n

@[simp] theorem val_ofNat (n : Nat) : (ofNat n).val = n % 64 := rfl

end Sextet

namespace Base64Url

/-- The letter of a sextet: capitals, small letters, digits, hyphen, underscore. -/
def letter (s : Sextet) : CodePoint :=
  if s.val < 26 then .ofNat (0x41 + s.val)
  else if s.val < 52 then .ofNat (0x61 + (s.val - 26))
  else if s.val < 62 then .ofNat (0x30 + (s.val - 52))
  else if s.val = 62 then '-'
  else '_'

/-- The sextet of a letter of the alphabet. -/
def sextet? (c : CodePoint) : Option Sextet :=
  if 0x41 ≤ c.val ∧ c.val ≤ 0x5A then some (.ofNat (c.val - 0x41))
  else if 0x61 ≤ c.val ∧ c.val ≤ 0x7A then some (.ofNat (c.val - 0x61 + 26))
  else if 0x30 ≤ c.val ∧ c.val ≤ 0x39 then some (.ofNat (c.val - 0x30 + 52))
  else if c = '-' then some 62
  else if c = '_' then some 63
  else none

/-- The sextets of a byte sequence, the last one filled up with zero bits. -/
def sextets : Bytes → List Sextet
  | a :: b :: c :: r =>
    .ofNat (a.toNat / 4) :: .ofNat (a.toNat % 4 * 16 + b.toNat / 16) ::
      .ofNat (b.toNat % 16 * 4 + c.toNat / 64) :: .ofNat (c.toNat % 64) :: sextets r
  | [a, b] =>
    [.ofNat (a.toNat / 4), .ofNat (a.toNat % 4 * 16 + b.toNat / 16),
      .ofNat (b.toNat % 16 * 4)]
  | [a] => [.ofNat (a.toNat / 4), .ofNat (a.toNat % 4 * 16)]
  | [] => []

/-- The whole octets in a sequence of sextets; bits left over are dropped. -/
def octets : List Sextet → Bytes
  | a :: b :: c :: d :: r =>
    .ofNat (a.val * 4 + b.val / 16) :: .ofNat (b.val % 16 * 16 + c.val / 4) ::
      .ofNat (c.val % 4 * 64 + d.val) :: octets r
  | [a, b, c] => [.ofNat (a.val * 4 + b.val / 16), .ofNat (b.val % 16 * 16 + c.val / 4)]
  | [a, b] => [.ofNat (a.val * 4 + b.val / 16)]
  | _ => []

/-- The encoding of a byte sequence. -/
def encode (bs : Bytes) : Text := (sextets bs).map letter

/-- The byte sequence that a text encodes. A foreign character is reported before a length that no
encoding has. -/
def decode (t : Text) : Except Failure Bytes :=
  match t.mapM sextet? with
  | none => .error .foreignCharacter
  | some ss => if ss.length % 4 = 1 then .error .impossibleLength else .ok (octets ss)

/-- The encoding of a value that is a container of octets. -/
def encodeValue (v : Value) : Except Failure Text :=
  match v.asBytes? with
  | some bs => .ok (encode bs)
  | none => .error (.dataNotBytes v.typeName)

/-- The byte sequence that a value encodes, if the value is a text that encodes one. -/
def decodeValue (v : Value) : Except Failure Bytes :=
  match v.asText? with
  | some t => decode t
  | none => .error (.signatureNotText v.typeName)

theorem sextet?_letter (s : Sextet) : sextet? (letter s) = some s := by
  revert s
  decide

end Base64Url

end TokenSeal
