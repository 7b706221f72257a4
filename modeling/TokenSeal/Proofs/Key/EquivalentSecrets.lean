import TokenSeal.Proofs.Key.Signature

/-!
# Secrets that make the same key

HMAC takes a secret in as one block: a secret longer than a block is hashed first, and what is
shorter than a block is filled up with zeros. So secrets are told apart only as far as their blocks
differ, `Hmac.blockKey_eq_blockKey_iff`: those that differ in trailing zeros, and a long secret and
its digest, make keys that no signature and no comparison tells apart
(`Key.sameAnswers_of_blockKey`). A secret has to have an octet, but the block of the empty secret
can be had all the same, by a secret of zeros.
-/

namespace TokenSeal

namespace Hmac

variable (h : Sha2)

/-! ### Blocks -/

/-- A secret as it is filled up: itself if it fits into a block, else its digest. -/
def shortened (key : Bytes) : Bytes := if key.length ≤ h.blockSize then key else h.digest key

/-- Octets that are all zero. -/
abbrev zeros (n : Nat) : Bytes := List.replicate n 0

/-- A digest fits into a block, so a shortened key can be filled up. -/
theorem digestSize_le_blockSize : h.digestSize ≤ h.blockSize := by
  have := h.digestSize_le
  unfold Sha2.blockSize
  omega

theorem shortened_of_le {key : Bytes} (hk : key.length ≤ h.blockSize) : shortened h key = key :=
  if_pos hk

theorem shortened_of_lt {key : Bytes} (hk : h.blockSize < key.length) :
    shortened h key = h.digest key :=
  if_neg (Nat.not_le.2 hk)

theorem length_shortened_le (key : Bytes) : (shortened h key).length ≤ h.blockSize := by
  unfold shortened
  split_ifs with hk
  · exact hk
  · rw [h.length_digest]
    exact digestSize_le_blockSize h

/-- Octets that are equal up to trailing zeros are equal when they are filled up. -/
theorem append_zeros_eq {s t : Bytes} {m n size : Nat} (hs : s.length ≤ size)
    (ht : t.length ≤ size) (h : s ++ zeros m = t ++ zeros n) :
    s ++ zeros (size - s.length) = t ++ zeros (size - t.length) := by
  -- with a whole block of zeros more, both sides reach past the block that they are cut down to
  have hmore : s ++ zeros (m + size) = t ++ zeros (n + size) := by
    rw [zeros, zeros, List.replicate_add, List.replicate_add, ← List.append_assoc,
      ← List.append_assoc, h]
  have htake (u : Bytes) (k : Nat) (hu : u.length ≤ size) :
      (u ++ zeros (k + size)).take size = u ++ zeros (size - u.length) := by
    rw [List.take_append, List.take_of_length_le hu, List.take_replicate,
      Nat.min_eq_left (by omega)]
  rw [← htake s m hs, hmore, htake t n ht]

/-- **Which secrets have one block.** Secrets have the same block iff they differ in trailing zeros
alone, those longer than a block being replaced by their digests. -/
theorem blockKey_eq_blockKey_iff {key key' : Bytes} :
    blockKey h key = blockKey h key' ↔
      ∃ m n, shortened h key ++ zeros m = shortened h key' ++ zeros n := by
  constructor
  · intro heq
    exact ⟨_, _, heq⟩
  · rintro ⟨m, n, heq⟩
    show shortened h key ++ zeros _ = shortened h key' ++ zeros _
    exact append_zeros_eq (length_shortened_le h key) (length_shortened_le h key') heq

/-- Zeros behind a short key are what it is filled up with anyway. -/
theorem blockKey_append_zeros {key : Bytes} {n : Nat} (hn : key.length + n ≤ h.blockSize) :
    blockKey h (key ++ zeros n) = blockKey h key := by
  rw [blockKey_eq_blockKey_iff, shortened_of_le h (by simpa using hn),
    shortened_of_le h (Nat.le_of_add_right_le hn)]
  exact ⟨0, n, List.append_nil _⟩

/-- A key that is too long and its filled up digest come to the same block. -/
theorem blockKey_digest_append_zeros {key : Bytes} {n : Nat} (hk : h.blockSize < key.length)
    (hn : h.digestSize + n ≤ h.blockSize) :
    blockKey h (h.digest key ++ zeros n) = blockKey h key := by
  rw [blockKey_eq_blockKey_iff, shortened_of_lt h hk, shortened_of_le h (by simpa using hn)]
  exact ⟨0, n, List.append_nil _⟩

/-- The code of a message sees a key only through its block. -/
theorem mac_eq_of_blockKey_eq {key key' : Bytes} (hk : blockKey h key = blockKey h key') :
    mac h key = mac h key' := by
  funext m
  simp only [mac, masked, hk]

end Hmac

open Hmac (zeros)

/-- Octets in a block of the algorithm's hash. -/
def Algorithm.blockLength : Algorithm → Nat
  | .hs256 => 64
  | .hs384 => 128
  | .hs512 => 128

theorem Algorithm.blockSize_hash (a : Algorithm) : a.hash.blockSize = a.blockLength := by
  cases a <;> rfl

/-! ### Secrets by their octets -/

/-- A value that gives octets as a secret: a container of them, or a text that is encoded. -/
inductive Value.Holds : Value → Bytes → Prop
  | bytes (octets : Bytes) : Holds (.bytes .bytes octets) octets
  | bytearray (octets : Bytes) : Holds (.bytes .bytearray octets) octets
  | text {v : Value} {t : Text} (h : v.asText? = some t) (hs : t.isScalar = true) :
    Holds v (t.flatMap CodePoint.utf8)

theorem Value.secret_of_holds {v : Value} {octets : Bytes} (h : v.Holds octets) :
    secretBytes.secret v = .ok octets := by
  cases h with
  | bytes => rfl
  | bytearray => rfl
  | text h hs => simp only [secretBytes.secret, h, Utf8.encode_of_isScalar hs]

theorem Value.secretBytes_of_holds {v : Value} {octets : Bytes} (h : v.Holds octets)
    (hne : octets ≠ []) : v.secretBytes = .ok octets := by
  obtain ⟨b, bs, rfl⟩ := List.exists_cons_of_ne_nil hne
  rw [secretBytes, secret_of_holds h]

theorem Value.secretBytes_of_holds_nil {v : Value} (h : v.Holds []) :
    v.secretBytes = .error .secretEmpty := by
  rw [secretBytes, secret_of_holds h]

namespace Key

/-! ### Keys that answer alike -/

/-- Two keys that answer every call that needs the secret alike, and log alike. -/
structure SameAnswers (k k' : Key) : Prop where
  sign : ∀ header claims, k.sign header claims = k'.sign header claims
  verify : ∀ header claims signature journal,
    k.verify header claims signature journal = k'.verify header claims signature journal
  verifyBytes : ∀ header claims signature journal,
    k.verifyBytes header claims signature journal = k'.verifyBytes header claims signature journal

/-- Keys of one algorithm are told apart by their raw signatures only. -/
theorem sameAnswers_of_rawSignature {k k' : Key} (ha : k.algorithm = k'.algorithm)
    (hraw : ∀ header claims, k.rawSignature header claims = k'.rawSignature header claims) :
    SameAnswers k k' := by
  have hcompare : k.compare = k'.compare := by
    funext header claims raw journal
    rw [compare, hraw, ha, ← compare]
  have hverifyBytes : k.verifyBytes = k'.verifyBytes := by
    funext header claims signature journal
    rw [Key.verifyBytes, hcompare, ← Key.verifyBytes]
  refine ⟨?_, ?_, ?_⟩
  · intro header claims
    rw [Key.sign, hraw, ← Key.sign]
  · intro header claims signature journal
    rw [Key.verify, verifier, hverifyBytes, ← verifier, ← Key.verify]
  · intro header claims signature journal
    rw [hverifyBytes]

/-- Secrets with one block make keys that answer alike. -/
theorem sameAnswers_of_blockKey {a : Algorithm} {secret secret' : Bytes}
    (h : Hmac.blockKey a.hash secret = Hmac.blockKey a.hash secret') :
    SameAnswers (ofBytes a secret) (ofBytes a secret') := by
  refine sameAnswers_of_rawSignature rfl fun header claims => ?_
  rw [rawSignature_ofBytes, rawSignature_ofBytes, Hmac.mac_eq_of_blockKey_eq a.hash h]

/-- Octets that as secrets of an algorithm cannot be told apart: both make a key, however they are
given, and the two keys answer alike, open and closed. -/
def Interchangeable (a : Algorithm) (secret secret' : Bytes) : Prop :=
  ∀ v v' hash hash' : Value, v.Holds secret → v'.Holds secret' →
    hash.algorithmOfHash = .ok a → hash'.algorithmOfHash = .ok a →
    ∃ k k', ofSecret v hash = .ok k ∧ ofSecret v' hash' = .ok k' ∧
      SameAnswers k k' ∧ SameAnswers k.close k'.close

theorem ofSecret_of_holds {a : Algorithm} {v hash : Value} {octets : Bytes} (h : v.Holds octets)
    (hne : octets ≠ []) (hhash : hash.algorithmOfHash = .ok a) :
    ofSecret v hash = .ok (ofBytes a octets) :=
  ofSecret_eq_ok_iff.2 ⟨a, octets, hhash, Value.secretBytes_of_holds h hne, rfl⟩

/-- Only the block that a secret comes to counts. -/
theorem interchangeable_of_blockKey {a : Algorithm} {secret secret' : Bytes} (hne : secret ≠ [])
    (hne' : secret' ≠ []) (h : Hmac.blockKey a.hash secret = Hmac.blockKey a.hash secret') :
    Interchangeable a secret secret' := by
  intro v v' hash hash' hv hv' hhash hhash'
  refine ⟨_, _, ofSecret_of_holds hv hne hhash, ofSecret_of_holds hv' hne' hhash',
    sameAnswers_of_blockKey h, sameAnswers_of_rawSignature rfl fun header claims => rfl⟩

theorem digest_append_ne_nil (a : Algorithm) (secret rest : Bytes) :
    a.hash.digest secret ++ rest ≠ [] := by
  have hlen : 0 < (a.hash.digest secret).length := by
    rw [Sha2.length_digest]
    cases a <;> decide
  exact List.append_ne_nil_of_left_ne_nil (List.length_pos_iff.1 hlen) rest

/-- **Different secrets, one key.** What a key of an algorithm takes of a secret is one block of 64
or 128 octets, and secrets have one block iff they differ in trailing zeros alone, those longer than
a block being replaced by their digests. Secrets with one block are interchangeable: so a secret is
with the same secret and zeros after it, as far as both fit into a block, and a longer secret is
with its digest, with and without zeros after it. The empty secret is refused, but a secret of zeros
that fits into a block is not, and its key signs everything with the code under the empty secret. -/
theorem interchangeable_of_one_block (a : Algorithm) :
    a.hash.blockSize = a.blockLength ∧
    (∀ s s' : Bytes, Hmac.blockKey a.hash s = Hmac.blockKey a.hash s' ↔
      ∃ m n, Hmac.shortened a.hash s ++ zeros m = Hmac.shortened a.hash s' ++ zeros n) ∧
    (∀ s s' : Bytes, s ≠ [] → s' ≠ [] → Hmac.blockKey a.hash s = Hmac.blockKey a.hash s' →
      Interchangeable a s s') ∧
    (∀ (s : Bytes) n, s ≠ [] → s.length + n ≤ a.blockLength → Interchangeable a s (s ++ zeros n)) ∧
    (∀ s : Bytes, a.blockLength < s.length →
      Interchangeable a s (a.hash.digest s) ∧
      ∀ n, a.signatureLength + n ≤ a.blockLength →
        Interchangeable a s (a.hash.digest s ++ zeros n)) ∧
    (∀ n (v hash : Value), 0 < n → n ≤ a.blockLength → v.Holds (zeros n) →
      hash.algorithmOfHash = .ok a →
      ∃ k, ofSecret v hash = .ok k ∧ k.closed = false ∧ ∀ header claims,
        k.sign header claims = (SigningInput.build header claims).map fun m =>
          Base64Url.encode (Hmac.mac a.hash [] m)) ∧
    (∀ v hash : Value, v.Holds [] → hash.algorithmOfHash = .ok a →
      ofSecret v hash = .error .secretEmpty) := by
  rw [← a.blockSize_hash]
  refine ⟨rfl, ?_, ?_, ?_, ?_, ?_, ?_⟩
  · intro s s'
    exact Hmac.blockKey_eq_blockKey_iff a.hash
  · intro s s' hne hne' hblock
    exact interchangeable_of_blockKey hne hne' hblock
  · intro s n hs hn
    have hne : s ++ zeros n ≠ [] := List.append_ne_nil_of_left_ne_nil hs _
    exact interchangeable_of_blockKey hs hne (Hmac.blockKey_append_zeros a.hash hn).symm
  · intro s hs
    have hne : s ≠ [] := List.length_pos_iff.1 (Nat.zero_lt_of_lt hs)
    have hzeros (n : Nat) (hn : a.hash.digestSize + n ≤ a.hash.blockSize) :
        Interchangeable a s (a.hash.digest s ++ zeros n) :=
      interchangeable_of_blockKey hne (digest_append_ne_nil a s _)
        (Hmac.blockKey_digest_append_zeros a.hash hs hn).symm
    refine ⟨?_, hzeros⟩
    simpa using hzeros 0 (Hmac.digestSize_le_blockSize a.hash)
  · intro n v hash hpos hn hv hhash
    have hne : zeros n ≠ [] := List.length_pos_iff.1 (by simpa using hpos)
    -- the block of the empty secret is the one that the zeros fill, too
    have hfits : ([] : Bytes).length + n ≤ a.hash.blockSize := (Nat.zero_add n).symm ▸ hn
    have hblock : Hmac.blockKey a.hash (zeros n) = Hmac.blockKey a.hash [] :=
      Hmac.blockKey_append_zeros a.hash hfits
    refine ⟨_, ofSecret_of_holds hv hne hhash, rfl, fun header claims => ?_⟩
    rw [Key.sign, rawSignature_ofBytes, Hmac.mac_eq_of_blockKey_eq a.hash hblock]
    cases SigningInput.build header claims with
    | error e => rfl
    | ok m => rfl
  · intro v hash hv hhash
    simp only [ofSecret, hhash, Value.secretBytes_of_holds_nil hv]
    rfl

/-- The text `k` and the octets of `k` and a zero make keys of HS256 that answer alike, and so do 65
octets and their digest with 32 zeros after it, which fill the block to the last octet; a single
zero is a secret, and no octets are none. -/
theorem interchangeable_of_one_block_hs256 :
    (∃ k k', ofSecret (.text (Text.ofString "k")) (.hashClass Algorithm.hs256.hashClass) = .ok k ∧
      ofSecret (.bytes .bytearray [0x6B, 0]) (.hash Algorithm.hs256.hashClass) = .ok k' ∧
      SameAnswers k k') ∧
    Interchangeable .hs256 (List.replicate 65 0x6B)
      (Sha2.sha256.digest (List.replicate 65 0x6B) ++ zeros 32) ∧
    (∃ k, ofSecret (.bytes .bytes [0]) (.hashClass Algorithm.hs256.hashClass) = .ok k ∧
      k.sign (.text []) (.text []) = .ok (Base64Url.encode (Hmac.mac .sha256 [] [0x2E]))) ∧
    ofSecret (.bytes .bytes []) (.hashClass Algorithm.hs256.hashClass) = .error .secretEmpty := by
  obtain ⟨-, -, -, hpadded, hlong, hzero, hempty⟩ := interchangeable_of_one_block .hs256
  have hclass : (Value.hashClass Algorithm.hs256.hashClass).algorithmOfHash = .ok .hs256 := rfl
  have hinstance : (Value.hash Algorithm.hs256.hashClass).algorithmOfHash = .ok .hs256 := rfl
  refine ⟨?_, (hlong (List.replicate 65 0x6B) (by decide)).2 32 (by decide), ?_,
    hempty _ _ (.bytes []) hclass⟩
  · have htext : (Value.text (Text.ofString "k")).Holds [0x6B] :=
      .text (t := Text.ofString "k") rfl (by decide)
    obtain ⟨k, k', hk, hk', hsame, -⟩ := hpadded [0x6B] 1 (List.cons_ne_nil _ _) (by decide) _ _ _ _
      htext (.bytearray [0x6B, 0]) hclass hinstance
    exact ⟨k, k', hk, hk', hsame⟩
  · obtain ⟨k, hk, -, hsign⟩ := hzero 1 _ _ Nat.one_pos (by decide) (.bytes [0]) hclass
    exact ⟨k, hk, hsign (.text []) (.text [])⟩

end Key

end TokenSeal
