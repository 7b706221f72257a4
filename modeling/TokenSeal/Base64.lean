import TokenSeal.Base64Url

/-!
# Padded base64

The encoding of RFC 4648 section 4 on octets of ASCII, the way platforms provide it. Writing fills
the last group of four letters up with equals signs. Reading is lenient: an octet that stands for
nothing is skipped, so is an equals sign where no group can end, and whatever follows a group that
its equals signs have closed is not looked at. A reader objects to one thing only, a text that ends
inside a group. That it accepts a text therefore says little about the text, and whoever wants to
know has to look before reading.
-/

namespace TokenSeal.Base64

/-- The letters, in the order of the sextets that they stand for. -/
def alphabet : Bytes :=
  "ABCDEFGHIJKLMNOPQRSTUVWXYZabcdefghijklmnopqrstuvwxyz0123456789+/".toList.map fun c =>
    .ofNat c.toNat

/-- The sign that fills up the last group. -/
def equals : UInt8 := 0x3D

/-- The letter of a sextet. -/
def letter (s : Sextet) : UInt8 := alphabet.getD s.val equals

/-- The sextet of an octet, if the octet is a letter. -/
def sextet? (b : UInt8) : Option Sextet := (alphabet.idxOf? b).map .ofNat

/-- How many equals signs fill up the last group of `n` letters. -/
def fill (n : Nat) : Nat := (4 - n % 4) % 4

/-! ### Writing -/

/-- The padded encoding of a byte sequence. -/
def encode (bs : Bytes) : Bytes :=
  let letters := (Base64Url.sextets bs).map letter
  letters ++ List.replicate (fill letters.length) equals

/-! ### Reading -/

/-- What a reader objects to. -/
inductive Fault
  /-- A last letter on its own, after this many letters. -/
  | loneLetter (before : Nat)
  /-- A last group that is neither complete nor filled up. -/
  | openGroup
  deriving DecidableEq, Repr

/-- The wording of each objection. -/
def Fault.message : Fault → String
  | .loneLetter before =>
    "Invalid base64-encoded string: number of data characters (" ++ toString (before + 1) ++
      ") cannot be 1 more than a multiple of 4"
  | .openGroup => "Incorrect padding"

/-- A text on its way through a reader. -/
structure Reader where
  /-- The octets that are complete. -/
  octets : Bytes := []
  /-- How many letters of the current group have come. -/
  place : Fin 4 := 0
  /-- The bits of the last letter that no complete octet holds. -/
  held : Nat := 0
  /-- Equals signs in the current group since its last letter. -/
  equalsSigns : Nat := 0

namespace Reader

/-- Takes a letter: its bits go to the octet that waits for them, and what is left of them waits. -/
def take (r : Reader) (s : Sextet) : Reader :=
  match r.place with
  | 0 => ⟨r.octets, 1, s.val, 0⟩
  | 1 => ⟨r.octets ++ [.ofNat (r.held * 4 + s.val / 16)], 2, s.val % 16, 0⟩
  | 2 => ⟨r.octets ++ [.ofNat (r.held * 16 + s.val / 4)], 3, s.val % 4, 0⟩
  | 3 => ⟨r.octets ++ [.ofNat (r.held * 64 + s.val)], 0, 0, 0⟩

/-- What a text that ends here stands for. -/
def finish (r : Reader) : Except Fault Bytes :=
  match r.place with
  | 0 => .ok r.octets
  | 1 => .error (.loneLetter (r.octets.length / 3 * 4))
  | 2 | 3 => .error .openGroup

/-- Reads the rest of a text. -/
def read (r : Reader) : Bytes → Except Fault Bytes
  | [] => r.finish
  | b :: rest =>
    if b = equals then
      if r.place < 2 then read r rest
      else if 4 ≤ r.place.val + (r.equalsSigns + 1) then .ok r.octets
      else read { r with equalsSigns := r.equalsSigns + 1 } rest
    else
      match sextet? b with
      | some s => read (r.take s) rest
      | none => read r rest

end Reader

/-- The byte sequence that a padded text stands for. -/
def decode (text : Bytes) : Except Fault Bytes := ({} : Reader).read text

/-- A line end in a group and whatever follows a closed group are not noticed, while a group that is
not filled up is. -/
example : decode [0x41, 0x0A, 0x41, equals, equals, 0x5A] = .ok [0] ∧
    decode [0x41, 0x41, equals] = .error .openGroup := ⟨rfl, rfl⟩

end TokenSeal.Base64
