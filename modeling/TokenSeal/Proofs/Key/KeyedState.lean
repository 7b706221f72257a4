import TokenSeal.Proofs.Key.EquivalentSecrets

/-!
# One keyed state for every message

A key takes its secret in once, and every signature goes on from the state that this leaves. The
state's inner hash has then absorbed a whole block, and each part of a message goes through whatever
part of a block is waiting. `Hmac.Keyed.Absorbed` says what a state holds after any parts, so its
code is that of RFC 2104 for the secret and the message, computed afresh, and it does not matter how
the message is cut (`Key.keyedState_computes_mac`). Which of the RFC's two rules for secrets applies
is told by the secret's length alone (`Hmac.mac_of_le`, `Hmac.mac_of_lt`).
-/

namespace TokenSeal

namespace Hmac

variable (h : Sha2)

/-! ### The code by the length of the secret -/

/-- The two nested hashes over a secret that has been brought to one block. -/
def nested (block m : Bytes) : Bytes :=
  h.digest (block.map (· ^^^ 0x5C) ++ h.digest (block.map (· ^^^ 0x36) ++ m))

/-- The code is the nested hash over the key in one block. -/
theorem mac_eq_nested (key m : Bytes) :
    mac h key m = nested h (shortened h key ++ zeros (h.blockSize - (shortened h key).length)) m :=
  rfl

/-- A secret that fits into a block is filled up. -/
theorem mac_of_le {key : Bytes} (hk : key.length ≤ h.blockSize) (m : Bytes) :
    mac h key m = nested h (key ++ zeros (h.blockSize - key.length)) m := by
  rw [mac_eq_nested, shortened_of_le h hk]

/-- Of a secret that is longer than a block, the digest is filled up. -/
theorem mac_of_lt {key : Bytes} (hk : h.blockSize < key.length) (m : Bytes) :
    mac h key m = nested h (h.digest key ++ zeros (h.blockSize - h.digestSize)) m := by
  rw [mac_eq_nested, shortened_of_lt h hk, h.length_digest]

/-- From the state that a key leaves, the parts of a message give its code. -/
theorem Keyed.finish_foldl_update_ofKey (key : Bytes) (parts : List Bytes) :
    (parts.foldl update (ofKey h key)).finish = mac h key parts.flatten :=
  ((absorbed_ofKey key).foldl_update parts).finish_eq

end Hmac

namespace Key

open Hmac (zeros)

/-- **A keyed state computes the code.** A secret with an octet leaves a state, which the key holds.
After any parts the state has absorbed the secret and the message that they make up, and at the end
it gives the code of that message under the secret. So the signature of a header and claims is the
code of their octets around a dot, and the same comes from a copy of the state that takes the
header, the dot and the claims one after the other, or these octets cut in any other way. The code
is that of RFC 2104: two nested hashes under the secret filled up with zeros to a block, and under
its digest filled up where the secret is longer than a block. -/
theorem keyedState_computes_mac {a : Algorithm} {v hash : Value} {secret : Bytes}
    (hv : v.Holds secret) (hne : secret ≠ []) (hhash : hash.algorithmOfHash = .ok a) :
    ∃ pristine : Hmac.Keyed a.hash,
      ofSecret v hash = .ok ⟨a, some pristine⟩ ∧
      (∀ parts : List Bytes,
        (parts.foldl .update pristine).Absorbed secret parts.flatten ∧
        (parts.foldl .update pristine).finish = Hmac.mac a.hash secret parts.flatten) ∧
      (∀ (header claims : Value) (h c : Text), header.asText? = some h → claims.asText? = some c →
        h.isScalar = true → c.isScalar = true →
        ∃ code, code = Hmac.mac a.hash secret
            (h.flatMap CodePoint.utf8 ++ 0x2E :: c.flatMap CodePoint.utf8) ∧
          rawSignature ⟨a, some pristine⟩ header claims = .ok code ∧
          sign ⟨a, some pristine⟩ header claims = .ok (Base64Url.encode code) ∧
          (((pristine.update (h.flatMap CodePoint.utf8)).update [0x2E]).update
            (c.flatMap CodePoint.utf8)).finish = code ∧
          ∀ parts : List Bytes,
            parts.flatten = h.flatMap CodePoint.utf8 ++ 0x2E :: c.flatMap CodePoint.utf8 →
            (parts.foldl .update pristine).finish = code) ∧
      (secret.length ≤ a.blockLength → ∀ m, Hmac.mac a.hash secret m =
        Hmac.nested a.hash (secret ++ zeros (a.blockLength - secret.length)) m) ∧
      (a.blockLength < secret.length → ∀ m, Hmac.mac a.hash secret m =
        Hmac.nested a.hash
          (a.hash.digest secret ++ zeros (a.blockLength - a.signatureLength)) m) := by
  have hfinish := Hmac.Keyed.finish_foldl_update_ofKey a.hash secret
  refine ⟨.ofKey a.hash secret, ofSecret_of_holds hv hne hhash, ?_, ?_, ?_, ?_⟩
  · intro parts
    exact ⟨(Hmac.Keyed.absorbed_ofKey secret).foldl_update parts, hfinish parts⟩
  · intro header claims h c hheader hclaims hh hc
    have hraw := rawSignature_ofBytes a secret header claims
    rw [SigningInput.build_of_asText hheader hclaims hh hc] at hraw
    refine ⟨_, rfl, hraw, sign_of_rawSignature hraw, ?_, ?_⟩
    · have hthree := hfinish [h.flatMap CodePoint.utf8, [0x2E], c.flatMap CodePoint.utf8]
      simpa using hthree
    · intro parts hparts
      rw [hfinish, hparts]
  · rw [← a.blockSize_hash]
    exact Hmac.mac_of_le a.hash
  · rw [← a.blockSize_hash]
    exact Hmac.mac_of_lt a.hash

/-- For HS256, 65 octets are one more than a block, and so their digest is filled up; `k` is filled
up itself. With either of them the segments `a` and `é` are signed as the octets 61 2E C3 A9, which
can be cut within the `é`. -/
theorem keyedState_computes_mac_hs256 :
    (∃ pristine : Hmac.Keyed Algorithm.hs256.hash,
      ofSecret (.bytes .bytes (List.replicate 65 0x6B)) (.hashClass Algorithm.hs256.hashClass) =
        .ok ⟨.hs256, some pristine⟩ ∧
      (((pristine.update [0x61, 0x2E, 0xC3]).update []).update [0xA9]).finish =
        Hmac.nested Algorithm.hs256.hash
          (Algorithm.hs256.hash.digest (List.replicate 65 0x6B) ++ zeros 32)
          [0x61, 0x2E, 0xC3, 0xA9]) ∧
    ∃ pristine : Hmac.Keyed Algorithm.hs256.hash,
      ofSecret (.text (Text.ofString "k")) (.hash Algorithm.hs256.hashClass) =
        .ok ⟨.hs256, some pristine⟩ ∧
      sign ⟨.hs256, some pristine⟩ (.text (Text.ofString "a")) (.text (Text.ofString "é")) =
        .ok (Base64Url.encode
          (Hmac.nested Algorithm.hs256.hash ([0x6B] ++ zeros 63) [0x61, 0x2E, 0xC3, 0xA9])) := by
  have hclass : (Value.hashClass Algorithm.hs256.hashClass).algorithmOfHash = .ok .hs256 := rfl
  have hinstance : (Value.hash Algorithm.hs256.hashClass).algorithmOfHash = .ok .hs256 := rfl
  constructor
  · obtain ⟨pristine, hkey, hparts, -, -, hlong⟩ := keyedState_computes_mac
      (.bytes (List.replicate 65 0x6B)) (List.cons_ne_nil _ _) hclass
    have hcut := (hparts [[0x61, 0x2E, 0xC3], [], [0xA9]]).2
    exact ⟨pristine, hkey, hcut.trans (hlong (by decide) _)⟩
  · have htext : (Value.text (Text.ofString "k")).Holds [0x6B] :=
      .text (t := Text.ofString "k") rfl (by decide)
    obtain ⟨pristine, hkey, -, hsign, hshort, -⟩ :=
      keyedState_computes_mac htext (List.cons_ne_nil _ _) hinstance
    obtain ⟨code, hcode, -, hs, -⟩ := hsign (.text (Text.ofString "a")) (.text (Text.ofString "é"))
      _ _ rfl rfl (by decide) (by decide)
    rw [hcode, hshort (by decide)] at hs
    exact ⟨pristine, hkey, hs⟩

/-- A known answer, for the secret `secret` and the default hash. -/
example :
    (do
      let header := Value.text (Text.ofString "eyJhbGciOiJIUzI1NiIsInR5cCI6IkpXVCJ9")
      let claims := Value.text (Text.ofString
        "eyJzdWIiOiIxMjM0NTY3ODkwIiwibmFtZSI6IkpvaG4gRG9lIiwiYWRtaW4iOnRydWV9")
      let k ← ofSecret (.text (Text.ofString "secret"))
      let signature ← k.sign header claims
      let valid ← (k.verify header claims (.text signature) []).1
      return (signature, valid)) =
    Except.ok (Text.ofString "TJVA95OrM7E2cBab30RMHrHDcEfxjoYZgeFONFh7HgQ", true) := by
  decide +kernel

end Key

end TokenSeal
