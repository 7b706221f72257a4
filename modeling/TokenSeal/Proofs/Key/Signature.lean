import TokenSeal.Key
import TokenSeal.Proofs.Base64Url.Grammar

/-!
# What a key signs and what it compares

One lemma for each operation of a key, so that nothing later looks inside. A key that has been built
is `ofBytes` of its algorithm and its secret octets (`ofSecret_eq_ok_iff`). While it is open, its
raw signature is the code of the signing input under that secret (`rawSignature_ofBytes`), which is
as long as the algorithm says; and once the raw signature of a header and claims is known, signing
and both ways of comparing are known too (`sign_of_rawSignature`, `verify_of_decode_ok`,
`verifyBytes_of_rawSignature`).
-/

namespace TokenSeal

/-- Segments without surrogates are joined by a dot. -/
theorem SigningInput.build_of_asText {header claims : Value} {h c : Text}
    (hheader : header.asText? = some h) (hclaims : claims.asText? = some c)
    (hh : h.isScalar = true) (hc : c.isScalar = true) :
    build header claims =
      .ok (h.flatMap CodePoint.utf8 ++ separator :: c.flatMap CodePoint.utf8) := by
  simp [build, ofSegment, Value.encodedText?_of_asText hheader,
    Value.encodedText?_of_asText hclaims, Utf8.encode_of_isScalar hh, Utf8.encode_of_isScalar hc]

/-- Texts without surrogates are joined by the separator in UTF-8. -/
theorem SigningInput.build_text {h c : Text} (hh : h.isScalar = true) (hc : c.isScalar = true) :
    build (.text h) (.text c) =
      .ok (h.flatMap CodePoint.utf8 ++ separator :: c.flatMap CodePoint.utf8) :=
  build_of_asText rfl rfl hh hc

/-- Segments of which one has surrogates are refused, by the name of that one. -/
theorem SigningInput.exists_build_text_eq_error {h c : Text}
    (hs : ¬ (h.isScalar = true ∧ c.isScalar = true)) :
    ∃ segment, build (.text h) (.text c) = .error (.segmentNotScalar segment) := by
  rw [← Utf8.firstSurrogateRun_eq_none_iff, ← Utf8.firstSurrogateRun_eq_none_iff] at hs
  cases hh : Utf8.firstSurrogateRun h with
  | some run =>
    refine ⟨.header, ?_⟩
    simp [build, ofSegment, Value.encodedText?, Value.asText?, Utf8.encode, hh]
  | none =>
    cases hc : Utf8.firstSurrogateRun c with
    | some run =>
      refine ⟨.claims, ?_⟩
      simp [build, ofSegment, Value.encodedText?, Value.asText?, Utf8.encode, hh, hc]
    | none => exact absurd ⟨hh, hc⟩ hs

/-! ### Algorithms -/

/-- A hash determines its algorithm by its class. -/
theorem Value.algorithmOfHash_eq_ok_iff {v : Value} {a : Algorithm} :
    v.algorithmOfHash = .ok a ↔ v.hashClassOf = a.hashClass := by
  rw [← Algorithm.ofHashClass?_eq_some_iff, algorithmOfHash]
  cases Algorithm.ofHashClass? v.hashClassOf <;> simp

theorem Value.algorithmOfHash_hashClass (a : Algorithm) :
    algorithmOfHash (.hashClass a.hashClass) = .ok a :=
  algorithmOfHash_eq_ok_iff.2 rfl

/-- A text names the algorithm that has it as its name, whatever a platform shows. -/
theorem Value.algorithmNamed_eq_ok_iff {v : Value} {limits : Limits} {a : Algorithm} :
    v.algorithmNamed limits = .ok a ↔ v.asText? = some (Text.ofString a.name) := by
  have hname : v.asText?.bind Algorithm.ofName? = some a ↔
      v.asText? = some (Text.ofString a.name) := by
    simp [Option.bind_eq_some_iff, Algorithm.ofName?_eq_some_iff]
  rw [← hname, algorithmNamed]
  cases v.asText?.bind Algorithm.ofName? with
  | some a => simp
  | none => cases v.shownWithin limits <;> simp

theorem Value.algorithmNamed_name (a : Algorithm) (limits : Limits := {}) :
    algorithmNamed (.text (Text.ofString a.name)) limits = .ok a :=
  algorithmNamed_eq_ok_iff.2 rfl

/-! ### Secrets -/

/-- There is no empty secret. -/
theorem Value.secretBytes_ne_nil {v : Value} {secret : Bytes} (h : v.secretBytes = .ok secret) :
    secret ≠ [] := by
  unfold secretBytes at h
  split at h
  · cases h
  · next hne =>
    rintro rfl
    exact hne h

theorem CodePoint.utf8_ne_nil (c : CodePoint) : c.utf8 ≠ [] := by
  unfold utf8
  split_ifs <;> exact List.cons_ne_nil _ _

/-- A text that is not empty has octets. -/
theorem Text.flatMap_utf8_ne_nil {t : Text} (h : t ≠ []) : t.flatMap CodePoint.utf8 ≠ [] := by
  cases t with
  | nil => exact absurd rfl h
  | cons c t => simp [CodePoint.utf8_ne_nil]

/-- A text without surrogates that is not empty is the secret of its UTF-8. -/
theorem Value.secretBytes_text {t : Text} (hs : t.isScalar = true) (hne : t ≠ []) :
    (Value.text t).secretBytes = .ok (t.flatMap CodePoint.utf8) := by
  obtain ⟨b, bs, hb⟩ := List.exists_cons_of_ne_nil (Text.flatMap_utf8_ne_nil hne)
  simp only [secretBytes, secretBytes.secret, asText?, Utf8.encode_of_isScalar hs, hb]

/-- Surrogates are reported before anything else is looked at. -/
theorem Value.secretBytes_text_of_surrogates {t : Text} {run : SurrogateRun}
    (h : Utf8.firstSurrogateRun t = some run) :
    (Value.text t).secretBytes = .error (.secretNotScalar run) := by
  simp [secretBytes, secretBytes.secret, asText?, Utf8.encode, h]

namespace Key

/-! ### Built keys -/

/-- A key is made iff the hash is registered and there are secret octets, and it is the key of
both. -/
theorem ofSecret_eq_ok_iff {secret hash : Value} {k : Key} :
    ofSecret secret hash = .ok k ↔
      ∃ a bs, hash.algorithmOfHash = .ok a ∧ secret.secretBytes = .ok bs ∧ k = ofBytes a bs := by
  unfold ofSecret
  constructor
  · intro h
    split at h
    · cases h
    · next a ha =>
      cases hs : secret.secretBytes with
      | error e => simp [hs, Except.map] at h
      | ok bs =>
        rw [hs] at h
        exact ⟨a, bs, ha, rfl, (Except.ok.inj h).symm⟩
  · rintro ⟨a, bs, ha, hs, rfl⟩
    simp only [ha, hs]
    rfl

/-- What names an algorithm leads to its keys. -/
theorem ofAlgorithm_of_named {tag : Value} {limits : Limits} {a : Algorithm}
    (h : tag.algorithmNamed limits = .ok a) (secret : Value) :
    ofAlgorithm tag secret limits = secret.secretBytes.map (ofBytes a) := by
  simp only [ofAlgorithm, h, ofSecret, Value.algorithmOfHash_hashClass]

theorem ofAlgorithm_name (a : Algorithm) (secret : Value) :
    ofAlgorithm (.text (Text.ofString a.name)) secret = secret.secretBytes.map (ofBytes a) :=
  ofAlgorithm_of_named (Value.algorithmNamed_name a) secret

theorem ofSettings_of_secret {s : Settings} {t : Text} (h : s.secret = some t) :
    ofSettings s = (Value.text t).secretBytes.map (ofBytes s.algorithm) := by
  rw [ofSettings, h]
  exact ofAlgorithm_name s.algorithm (.text t)

/-- Every built key is the open key of some secret. -/
theorem eq_ofBytes_of_ofSecret {secret hash : Value} {k : Key} (h : ofSecret secret hash = .ok k) :
    ∃ a bs, bs ≠ [] ∧ k = ofBytes a bs := by
  obtain ⟨a, bs, -, hs, rfl⟩ := ofSecret_eq_ok_iff.1 h
  exact ⟨a, bs, Value.secretBytes_ne_nil hs, rfl⟩

/-- Closing a closed key changes nothing. -/
theorem close_eq_self {k : Key} (h : k.closed = true) : k.close = k := by
  obtain ⟨a, state⟩ := k
  obtain rfl : state = none := Option.isNone_iff_eq_none.1 h
  rfl

/-! ### Raw signatures -/

/-- An open key's raw signature is the code of the signing input: the state that was keyed once
gives what keying afresh would give. -/
theorem rawSignature_ofBytes (a : Algorithm) (secret : Bytes) (header claims : Value) :
    (ofBytes a secret).rawSignature header claims =
      (SigningInput.build header claims).map (Hmac.mac a.hash secret) := by
  show (SigningInput.build header claims).map
    (fun m => ((Hmac.Keyed.ofKey a.hash secret).update m).finish) = _
  congr 1
  funext m
  exact Hmac.Keyed.finish_update_ofKey secret m

/-- A fresh key signs with the code in one piece. -/
theorem sign_ofBytes (a : Algorithm) (secret : Bytes) (header claims : Value) :
    (ofBytes a secret).sign header claims =
      (SigningInput.build header claims).map fun m =>
        Base64Url.encode (Hmac.mac a.hash secret m) := by
  rw [sign, rawSignature_ofBytes]
  cases SigningInput.build header claims <;> rfl

/-- A built key has a raw signature for any segments without surrogates, and its length is fixed by
the algorithm alone. -/
theorem exists_rawSignature {secret hash : Value} {k : Key} (hk : ofSecret secret hash = .ok k)
    {h c : Text} (hh : h.isScalar = true) (hc : c.isScalar = true) :
    ∃ raw, k.rawSignature (.text h) (.text c) = .ok raw ∧ raw.length = k.signatureLength := by
  obtain ⟨a, bs, -, rfl⟩ := eq_ofBytes_of_ofSecret hk
  rw [rawSignature_ofBytes, SigningInput.build_text hh hc]
  exact ⟨_, rfl, Hmac.length_mac a.hash bs _⟩

/-! ### Signing and comparing -/

variable {k : Key} {header claims : Value} {raw : Bytes}

theorem sign_of_rawSignature (h : k.rawSignature header claims = .ok raw) :
    k.sign header claims = .ok (Base64Url.encode raw) := by
  simp [sign, h, Except.map]

/-- Comparing octets compares them with the raw signature; the one thing that is logged is a
mismatch. -/
theorem compare_of_rawSignature (h : k.rawSignature header claims = .ok raw) (r : Bytes)
    (journal : Log.Journal) :
    k.compare header claims r journal =
      (.ok (decide (r = raw)), if r = raw then journal else journal ++ [mismatch k.algorithm]) := by
  by_cases hr : r = raw
  · simp [compare, h, hr]
  · simp [compare, h, hr]

theorem compare_of_rawSignature_error {e : Failure} (h : k.rawSignature header claims = .error e)
    (r : Bytes) (journal : Log.Journal) :
    k.compare header claims r journal = (.error e, journal) := by
  simp [compare, h]

/-- Once the code is known, octets are compared with it and a mismatch is logged. -/
theorem verifyBytes_of_rawSignature (h : k.rawSignature header claims = .ok raw) (kind : BytesKind)
    (r : Bytes) (journal : Log.Journal) :
    k.verifyBytes header claims (.bytes kind r) journal =
      (.ok (decide (r = raw)), if r = raw then journal else journal ++ [mismatch k.algorithm]) :=
  compare_of_rawSignature h r journal

/-- A signature that cannot be read is an error before anything is compared. -/
theorem verify_of_decodeValue_error {signature : Value} {e : Failure}
    (h : Base64Url.decodeValue signature = .error e) (journal : Log.Journal) :
    k.verify header claims signature journal = (.error e, journal) := by
  rw [verify, Verifier.verify_of_error h]
  rfl

/-- A signature that can be read is compared as the octets that it stands for. -/
theorem verify_of_decodeValue_ok {signature : Value} {r : Bytes}
    (h : Base64Url.decodeValue signature = .ok r) (journal : Log.Journal) :
    k.verify header claims signature journal = k.compare header claims r journal := by
  rw [verify, Verifier.verify_of_ok h]
  rfl

theorem verify_of_decode_error {t : Text} {e : Failure} (h : Base64Url.decode t = .error e)
    (journal : Log.Journal) :
    k.verify header claims (.text t) journal = (.error e, journal) :=
  verify_of_decodeValue_error (show Base64Url.decodeValue (.text t) = .error e from h) journal

theorem verify_of_decode_ok {t : Text} {r : Bytes} (h : Base64Url.decode t = .ok r)
    (journal : Log.Journal) :
    k.verify header claims (.text t) journal = k.compare header claims r journal :=
  verify_of_decodeValue_ok (show Base64Url.decodeValue (.text t) = .ok r from h) journal

/-- An open key finds no signature of another length right. -/
theorem verify_ofBytes_of_length_ne (a : Algorithm) (secret : Bytes) {h c t : Text}
    (hh : h.isScalar = true) (hc : c.isScalar = true) (ht : Base64Url.decode t = .ok raw)
    (hlen : raw.length ≠ a.signatureLength) (journal : Log.Journal) :
    (ofBytes a secret).verify (.text h) (.text c) (.text t) journal =
      (.ok false, journal ++ [mismatch a]) := by
  have hraw := rawSignature_ofBytes a secret (.text h) (.text c)
  rw [SigningInput.build_text hh hc] at hraw
  have hne : raw ≠ Hmac.mac a.hash secret
      (h.flatMap CodePoint.utf8 ++ SigningInput.separator :: c.flatMap CodePoint.utf8) := by
    rintro rfl
    exact hlen (Hmac.length_mac a.hash secret _)
  rw [verify_of_decode_ok ht, compare_of_rawSignature hraw, decide_eq_false hne, if_neg hne]
  rfl

/-- What a key signs it verifies. -/
theorem verify_of_sign {signature : Text} (h : k.sign header claims = .ok signature)
    (journal : Log.Journal) :
    k.verify header claims (.text signature) journal = (.ok true, journal) := by
  cases hraw : k.rawSignature header claims with
  | error e =>
    rw [sign, hraw] at h
    cases h
  | ok raw =>
    rw [sign_of_rawSignature hraw] at h
    cases h
    rw [verify_of_decode_ok (Base64Url.decode_encode raw), compare_of_rawSignature hraw]
    simp

end Key

end TokenSeal
