import TokenSeal.Algorithm
import TokenSeal.Sha2.Hasher

/-!
# HMAC

The keyed hash of RFC 2104 over a member of the SHA-2 family. `Hmac.mac` is the definition in one
piece: the key is brought to one block, and the message is hashed twice, each time behind the key
masked by a constant. `Hmac.Keyed` is the same in parts. It keeps the two hashers that have taken
the masked key, so keying is done once; as a value it can be continued for any number of messages.
What it holds is told by the key and the message so far (`Keyed.Absorbed`).
-/

namespace TokenSeal

namespace Hmac

variable (h : Sha2)

/-- The key as one block: hashed first if it is longer, then filled up with zeros. -/
def blockKey (key : Bytes) : Bytes :=
  let short := if key.length ≤ h.blockSize then key else h.digest key
  short ++ List.replicate (h.blockSize - short.length) 0

/-- The key's block under a mask. -/
def masked (mask : UInt8) (key : Bytes) : Bytes := (blockKey h key).map (· ^^^ mask)

/-- The mask of the inner hash. -/
def innerMask : UInt8 := 0x36

/-- The mask of the outer hash. -/
def outerMask : UInt8 := 0x5C

/-- The code of a message under a key. -/
def mac (key message : Bytes) : Bytes :=
  h.digest (masked h outerMask key ++ h.digest (masked h innerMask key ++ message))

@[simp] theorem length_mac (key message : Bytes) : (mac h key message).length = h.digestSize :=
  h.length_digest _

/-- A code on its way: the two hashes, each with the masked key taken in. -/
structure Keyed (h : Sha2) where
  inner : Hasher h
  outer : Hasher h

namespace Keyed

variable {h : Sha2}

/-- The state for a key, before any of the message. -/
def ofKey (h : Sha2) (key : Bytes) : Keyed h :=
  ⟨(Hasher.start h).update (masked h innerMask key),
    (Hasher.start h).update (masked h outerMask key)⟩

/-- One more part of the message. -/
def update (k : Keyed h) (part : Bytes) : Keyed h := { k with inner := k.inner.update part }

/-- The code of all parts so far. -/
def finish (k : Keyed h) : Bytes := (k.outer.update k.inner.finish).finish

/-! ### What a keyed state holds -/

/-- A state that has absorbed a message under a key, whatever the parts were that it came in. -/
structure Absorbed (k : Keyed h) (key m : Bytes) : Prop where
  inner : k.inner.Absorbed (masked h innerMask key ++ m)
  /-- The message does not reach the outer hash before the end. -/
  outer : k.outer.Absorbed (masked h outerMask key)

/-- A new state has absorbed the key and nothing else. -/
theorem absorbed_ofKey (key : Bytes) : (ofKey h key).Absorbed key [] where
  inner := by
    rw [List.append_nil]
    exact Hasher.absorbed_start.update _
  outer := Hasher.absorbed_start.update _

namespace Absorbed

variable {k : Keyed h} {key m : Bytes}

/-- A part is absorbed behind what has been. -/
theorem update (hk : k.Absorbed key m) (part : Bytes) :
    (k.update part).Absorbed key (m ++ part) where
  inner := by
    rw [← List.append_assoc]
    exact hk.inner.update part
  outer := hk.outer

/-- Parts in a row are absorbed as the message that they make up. -/
theorem foldl_update (hk : k.Absorbed key m) (parts : List Bytes) :
    (parts.foldl Keyed.update k).Absorbed key (m ++ parts.flatten) := by
  induction parts generalizing k m with
  | nil => rwa [List.flatten_nil, List.append_nil]
  | cons part parts ih =>
    rw [List.flatten_cons, ← List.append_assoc]
    exact ih (hk.update part)

/-- What a state gives at the end depends on the key and the message alone. -/
theorem finish_eq (hk : k.Absorbed key m) : k.finish = mac h key m := by
  unfold finish mac
  rw [hk.inner.finish_eq, (hk.outer.update _).finish_eq]

end Absorbed

/-- A state keyed beforehand gives the code of the message. -/
theorem finish_update_ofKey (key m : Bytes) : ((ofKey h key).update m).finish = mac h key m :=
  ((absorbed_ofKey key).update m).finish_eq

end Keyed

end Hmac

namespace Algorithm

/-- The hash of the algorithm. -/
def hash : Algorithm → Sha2
  | .hs256 => .sha256
  | .hs384 => .sha384
  | .hs512 => .sha512

/-- Octets in a raw signature. -/
def signatureLength (a : Algorithm) : Nat := a.hash.digestSize

end Algorithm

end TokenSeal
