import TokenSeal.Proofs.Base64Url.SpareBits
import TokenSeal.Proofs.Key.Signature

/-!
# Which texts verify

A signature text is a raw signature written in base64url, and verifying reads the text and compares
octets. So the texts that verify are the readings of one byte sequence: the signature itself and the
texts that differ from it in the spare bits of the last letter. How many these are depends on the
algorithm alone, since the algorithm fixes the length (`signatureLetters`) and the length fixes the
spare bits. Signatures of different algorithms have different lengths, so none passes for one of
another.
-/

namespace TokenSeal

open Base64Url

namespace Algorithm

/-- Letters in a signature text. -/
def signatureLetters : Algorithm → Nat
  | .hs256 => 43
  | .hs384 => 64
  | .hs512 => 86

/-- How many high bits of the last letter of a signature text belong to an octet. -/
def usedBits : Algorithm → Nat
  | .hs256 => 4
  | .hs384 => 6
  | .hs512 => 2

/-- How many texts stand for one raw signature. -/
def signatureTexts : Algorithm → Nat
  | .hs256 => 4
  | .hs384 => 1
  | .hs512 => 16

theorem signatureLetters_eq (a : Algorithm) :
    a.signatureLetters = (8 * a.signatureLength + 5) / 6 := by cases a <;> rfl

/-- No two algorithms have signatures of one length. -/
theorem signatureLength_injective : Function.Injective signatureLength := by
  intro a b h
  cases a <;> cases b <;> first | rfl | cases h

theorem spareBits_signatureLetters (a : Algorithm) :
    spareBits a.signatureLetters = 6 - a.usedBits := by cases a <;> rfl

/-- One text for each value of the unused bits. -/
theorem signatureTexts_eq (a : Algorithm) : a.signatureTexts = 2 ^ (6 - a.usedBits) := by
  cases a <;> rfl

end Algorithm

namespace Key

variable {secret hash : Value} {k : Key} {h c : Text}

/-! ### The length law -/

/-- A built key's signature text is the writing of a raw signature of the algorithm's length. -/
theorem exists_sign (hk : ofSecret secret hash = .ok k) (hh : h.isScalar = true)
    (hc : c.isScalar = true) :
    ∃ raw, k.rawSignature (.text h) (.text c) = .ok raw ∧
      raw.length = k.algorithm.signatureLength ∧
      k.sign (.text h) (.text c) = .ok (encode raw) ∧
      (encode raw).length = k.algorithm.signatureLetters := by
  obtain ⟨raw, hraw, hlen⟩ := exists_rawSignature hk hh hc
  refine ⟨raw, hraw, hlen, sign_of_rawSignature hraw, ?_⟩
  rw [length_encode, hlen, Algorithm.signatureLetters_eq]
  rfl

/-! ### Texts that verify -/

/-- A text verifies iff it agrees with the signature up to spare bits. -/
theorem verify_eq_ok_true_iff {header claims : Value} {raw : Bytes}
    (hraw : k.rawSignature header claims = .ok raw) (t : Text) (journal : Log.Journal) :
    (k.verify header claims (.text t) journal).1 = .ok true ↔
      AgreeAbove (spareBits (encode raw).length) (encode raw) t := by
  cases ht : decode t with
  | ok r =>
    rw [verify_of_decode_ok ht, compare_of_rawSignature hraw,
      ← eq_iff_agreeAbove (decode_encode raw) ht]
    simp [eq_comm]
  | error e =>
    rw [verify_of_decode_error ht]
    refine ⟨(nomatch ·), fun h => ?_⟩
    -- a text that agrees with an encoding is well formed, so it would have been accepted
    obtain ⟨r, hr⟩ := exists_decode_eq_ok_iff.2 (h.wellFormed (wellFormed_encode raw))
    rw [ht] at hr
    cases hr

/-- The texts that verify are as many as the values of the spare bits. -/
theorem ncard_verify_eq_ok_true {header claims : Value} {raw : Bytes}
    (hraw : k.rawSignature header claims = .ok raw)
    (hlen : (encode raw).length = k.algorithm.signatureLetters) (journal : Log.Journal) :
    {t | (k.verify header claims (.text t) journal).1 = .ok true}.ncard =
      k.algorithm.signatureTexts := by
  have hspare : spareBits (encode raw).length = 6 - k.algorithm.usedBits := by
    rw [hlen, Algorithm.spareBits_signatureLetters]
  simp only [verify_eq_ok_true_iff hraw, hspare, Algorithm.signatureTexts_eq]
  rcases eq_nil_or_concat_letter (wellFormed_encode raw) with hnil | ⟨u, s, hu⟩
  · -- no algorithm signs with the empty text
    rw [hnil] at hlen
    cases ha : k.algorithm <;> simp [ha, Algorithm.signatureLetters] at hlen
  · rw [hu]
    exact ncard_agreeAbove (Nat.sub_le _ _) u s

/-- **The texts that verify.** Of an open key, a header and claims, the texts that verify are the
signature and the texts that agree with it in every letter before the last and in the last letter's
used bits: 4, 1 or 16 texts by algorithm. Any other text is a mismatch if it is well formed and an
encoding error if it is not. Octets verify, in any container, iff they are the raw signature. -/
theorem verify_iff_agrees_in_used_bits (hk : ofSecret secret hash = .ok k)
    (hh : h.isScalar = true) (hc : c.isScalar = true) (journal : Log.Journal) :
    ∃ signature, k.sign (.text h) (.text c) = .ok signature ∧
      (∀ t, (k.verify (.text h) (.text c) (.text t) journal).1 = .ok true ↔
        AgreeAbove (6 - k.algorithm.usedBits) signature t) ∧
      (k.verify (.text h) (.text c) (.text signature) journal).1 = .ok true ∧
      {t | (k.verify (.text h) (.text c) (.text t) journal).1 = .ok true}.ncard =
        k.algorithm.signatureTexts ∧
      (∀ t, ¬ AgreeAbove (6 - k.algorithm.usedBits) signature t → WellFormed t →
        (k.verify (.text h) (.text c) (.text t) journal).1 = .ok false) ∧
      (∀ t, ¬ WellFormed t → ∃ e,
        (k.verify (.text h) (.text c) (.text t) journal).1 = .error e ∧
          e.errorClass? = some .encoding) ∧
      ∃ raw, decode signature = .ok raw ∧ raw.length = k.signatureLength ∧
        ∀ kind r, (k.verifyBytes (.text h) (.text c) (.bytes kind r) journal).1 =
          .ok (decide (r = raw)) := by
  obtain ⟨raw, hraw, hrawlen, hsign, hlen⟩ := exists_sign hk hh hc
  have hspare : spareBits (encode raw).length = 6 - k.algorithm.usedBits := by
    rw [hlen, Algorithm.spareBits_signatureLetters]
  have hiff := verify_eq_ok_true_iff hraw
  rw [hspare] at hiff
  refine ⟨encode raw, hsign, fun t => hiff t journal, ?_,
    ncard_verify_eq_ok_true hraw hlen journal, ?_, ?_, raw, decode_encode raw, hrawlen, ?_⟩
  · exact (hiff _ journal).2 ⟨rfl, rfl, rfl⟩
  · intro t hne ht
    -- a well-formed text is compared, so the answer is a verdict and not an error
    obtain ⟨r, hr⟩ := exists_decode_eq_ok_iff.2 ht
    have hfalse := mt (hiff t journal).1 hne
    rw [verify_of_decode_ok hr, compare_of_rawSignature hraw] at hfalse ⊢
    simpa using hfalse
  · intro t ht
    obtain ⟨e, he, hclass⟩ := exists_decode_eq_error ht
    exact ⟨e, by rw [verify_of_decode_error he], hclass⟩
  · intro kind r
    rw [verifyBytes_of_rawSignature hraw]

/-- Sixteen texts verify for a key of HS512 with a secret of one octet. -/
theorem verify_iff_agrees_in_used_bits_hs512 :
    ofSecret (.bytes .bytearray [0x6B]) (.hash Algorithm.hs512.hashClass) =
        .ok (ofBytes .hs512 [0x6B]) ∧
      {t | ((ofBytes .hs512 [0x6B]).verify (.text (Text.ofString "a.b"))
        (.text (Text.ofString "é")) (.text t) []).1 = .ok true}.ncard = 16 := by
  have hk : ofSecret (.bytes .bytearray [0x6B]) (.hash Algorithm.hs512.hashClass) =
      .ok (ofBytes .hs512 [0x6B]) := rfl
  obtain ⟨_, -, -, -, hcount, -⟩ := verify_iff_agrees_in_used_bits (h := Text.ofString "a.b")
    (c := Text.ofString "é") hk (by decide) (by decide) []
  exact ⟨hk, hcount⟩

/-! ### Signatures of another algorithm -/

/-- **No signature passes under another algorithm.** A built key signs with as many letters of the
alphabet as its algorithm says, which stand for as many octets as its digest has; and every built
key of another algorithm, whatever its secret and whatever it is asked about, answers that the
signature does not match. -/
theorem verify_eq_false_of_other_algorithm (hk : ofSecret secret hash = .ok k)
    (hh : h.isScalar = true) (hc : c.isScalar = true) :
    ∃ signature, k.sign (.text h) (.text c) = .ok signature ∧
      signature.length = k.algorithm.signatureLetters ∧
      (∀ x ∈ signature, x ∈ alphabet) ∧
      (∃ raw, decode signature = .ok raw ∧ raw.length = k.algorithm.signatureLength ∧
        raw.length = k.signatureLength) ∧
      ∀ {secret' hash' : Value} {k' : Key} {h' c' : Text} (journal : Log.Journal),
        ofSecret secret' hash' = .ok k' → k'.algorithm ≠ k.algorithm →
        h'.isScalar = true → c'.isScalar = true →
        k'.verify (.text h') (.text c') (.text signature) journal =
          (.ok false, journal ++ [mismatch k'.algorithm]) := by
  obtain ⟨raw, hraw, hrawlen, hsign, hlen⟩ := exists_sign hk hh hc
  refine ⟨encode raw, hsign, hlen, (wellFormed_encode raw).letters,
    ⟨raw, decode_encode raw, hrawlen, hrawlen⟩, ?_⟩
  intro secret' hash' k' h' c' journal hk' hne hh' hc'
  obtain ⟨raw', hraw', hrawlen', -, -⟩ := exists_sign hk' hh' hc'
  -- the raw signatures cannot be equal, since already their lengths differ
  have hdiff : raw ≠ raw' := by
    rintro rfl
    exact hne (Algorithm.signatureLength_injective (hrawlen'.symm.trans hrawlen))
  rw [verify_of_decode_ok (decode_encode raw), compare_of_rawSignature hraw']
  simp [hdiff]

/-- A signature of HS256 does not pass under HS384, also with the same secret and segments. -/
theorem verify_eq_false_of_other_algorithm_same_secret :
    ∃ signature,
      (ofBytes .hs256 [0x6B]).sign (.text (Text.ofString "h")) (.text (Text.ofString "c")) =
        .ok signature ∧
      signature.length = 43 ∧
      (ofBytes .hs384 [0x6B]).verify (.text (Text.ofString "h")) (.text (Text.ofString "c"))
        (.text signature) [] = (.ok false, [mismatch .hs384]) := by
  have hk : ofSecret (.text (Text.ofString "k")) (.hashClass Algorithm.hs256.hashClass) =
      .ok (ofBytes .hs256 [0x6B]) := rfl
  have hk' : ofSecret (.bytes .bytes [0x6B]) (.hashClass Algorithm.hs384.hashClass) =
      .ok (ofBytes .hs384 [0x6B]) := rfl
  obtain ⟨signature, hsign, hlen, -, -, hcross⟩ := verify_eq_false_of_other_algorithm
    (h := Text.ofString "h") (c := Text.ofString "c") hk (by decide) (by decide)
  exact ⟨signature, hsign, hlen, hcross [] hk' (by decide) (by decide) (by decide)⟩

end Key

end TokenSeal
