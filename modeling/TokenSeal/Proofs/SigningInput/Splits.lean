import Mathlib.Data.Set.Card
import TokenSeal.Proofs.Key.Verification
import TokenSeal.Proofs.Text.SelfSynchronization

/-!
# Which segments have a signing input in common

A signing input is the encoding of one text, header and claims joined by a dot, so it says what the
joined text is and nothing about where the header ends: it has one pair of segments for each
separator octet (`bijOn_cuts`). That no octet of a longer group can be mistaken for the separator is
what makes the count exact. Segments with the same joined text are one and the same message to a key
(`Key.sign_congr`, `Key.verify_congr`); a header without a dot ends at the first one, which is what
keeps such segments apart.
-/

namespace TokenSeal

namespace SigningInput

/-- The code point between the segments. -/
def dot : CodePoint := CodePoint.ofChar '.'

/-- Header and claims as one text. -/
def joined (h c : Text) : Text := h ++ dot :: c

/-- The segments whose signing input an octet sequence is. -/
def segments (m : Bytes) : Set (Text × Text) := {p | build (.text p.1) (.text p.2) = .ok m}

/-- Where an octet sequence has a separator. -/
def cuts (m : Bytes) : Set Nat := {i | m[i]? = some separator}

/-! ### The signing input of two texts -/

theorem isScalar_joined (h c : Text) :
    (joined h c).isScalar = (h.isScalar && c.isScalar) := by
  rw [joined, Text.isScalar_append]
  rfl

/-- The signing input of two texts is the UTF-8 of both around the separator. -/
theorem utf8_joined (h c : Text) :
    (joined h c).flatMap CodePoint.utf8 =
      h.flatMap CodePoint.utf8 ++ separator :: c.flatMap CodePoint.utf8 := by
  rw [joined, List.flatMap_append]
  rfl

/-- Two texts have a signing input iff they are scalar, and it encodes them joined. -/
theorem build_eq_ok_iff {h c : Text} {m : Bytes} :
    build (.text h) (.text c) = .ok m ↔ Utf8.decode? m = some (joined h c) := by
  rw [Utf8.decode?_eq_some_iff]
  constructor
  · intro hm
    have scalar : h.isScalar = true ∧ c.isScalar = true := by
      by_contra hs
      obtain ⟨segment, herror⟩ := exists_build_text_eq_error hs
      rw [herror] at hm
      cases hm
    rw [build_text scalar.1 scalar.2, ← utf8_joined] at hm
    rw [Utf8.encode_of_isScalar (by rw [isScalar_joined, scalar.1, scalar.2]; rfl),
      Except.ok.inj hm]
  · intro hm
    have hs : (joined h c).isScalar = true := (Utf8.encode_of_decode?
      (Utf8.decode?_eq_some_iff.2 hm)).1
    rw [Utf8.encode_of_isScalar hs] at hm
    rw [isScalar_joined, Bool.and_eq_true] at hs
    rw [build_text hs.1 hs.2, ← utf8_joined, Except.ok.inj hm]

/-- Segments have the signing input of segments without surrogates iff they are the same text
joined. -/
theorem build_eq_build_iff {h c h' c' : Text} (hh' : h'.isScalar = true)
    (hc' : c'.isScalar = true) :
    build (.text h) (.text c) = build (.text h') (.text c') ↔ joined h c = joined h' c' := by
  rw [build_text hh' hc', build_eq_ok_iff, ← utf8_joined,
    Utf8.decode?_flatMap_utf8 (by rw [isScalar_joined, hh', hc']; rfl), Option.some.injEq, eq_comm]

/-- A header without a dot ends at the first dot. -/
theorem joined_injective {h c h' c' : Text} (hh : dot ∉ h) (hh' : dot ∉ h')
    (heq : joined h c = joined h' c') : h = h' ∧ c = c' := by
  rcases List.append_eq_append_iff.1 heq with ⟨more, rfl, hmore⟩ | ⟨more, rfl, hmore⟩
  · cases more with
    | nil => exact ⟨(List.append_nil h).symm, (List.cons.inj hmore).2⟩
    | cons d more =>
      -- the longer header would have to go on with the dot
      obtain rfl : dot = d := (List.cons.inj hmore).1
      simp at hh'
  · cases more with
    | nil => exact ⟨List.append_nil h', (List.cons.inj hmore).2.symm⟩
    | cons d more =>
      obtain rfl : dot = d := (List.cons.inj hmore).1
      simp at hh

/-! ### Counting the segments of a signing input -/

/-- How many octets the header has. -/
def headerOctets (p : Text × Text) : Nat := (p.1.flatMap CodePoint.utf8).length

variable {m : Bytes} {t : Text}

/-- Octets that are no UTF-8 have no segments. -/
theorem segments_eq_empty (h : Utf8.decode? m = none) : segments m = ∅ := by
  ext p
  simp [segments, build_eq_ok_iff, h]

/-- The segments of a well-formed octet sequence are its cuts: a header's octets lead up to a
separator, and from any separator both sides are read back. -/
theorem bijOn_cuts (h : Utf8.decode? m = some t) :
    Set.BijOn headerOctets (segments m) (cuts m) := by
  have hm : t.flatMap CodePoint.utf8 = m := (Utf8.encode_of_decode? h).2
  have hmem : ∀ p : Text × Text, p ∈ segments m ↔ joined p.1 p.2 = t := by
    intro p
    show build (.text p.1) (.text p.2) = .ok m ↔ _
    rw [build_eq_ok_iff, h, Option.some.injEq, eq_comm]
  have hoctets : ∀ p ∈ segments m,
      m = p.1.flatMap CodePoint.utf8 ++ separator :: p.2.flatMap CodePoint.utf8 := by
    intro p hp
    rw [← utf8_joined, (hmem p).1 hp, hm]
  refine ⟨fun p hp => ?_, fun p hp q hq hpq => ?_, fun i hi => ?_⟩
  · show m[headerOctets p]? = some separator
    rw [hoctets p hp, headerOctets, List.getElem?_append_right (Nat.le_refl _), Nat.sub_self]
    rfl
  · -- headers of one length are the same beginning of the octets, and so the same text
    have hsame := (hoctets p hp).symm.trans (hoctets q hq)
    obtain ⟨hfront, -⟩ := List.append_inj hsame hpq
    have hs : (joined p.1 p.2).isScalar = true ∧ (joined q.1 q.2).isScalar = true := by
      rw [(hmem p).1 hp, (hmem q).1 hq]
      exact ⟨(Utf8.encode_of_decode? h).1, (Utf8.encode_of_decode? h).1⟩
    simp only [isScalar_joined, Bool.and_eq_true] at hs
    have hheader : p.1 = q.1 := by
      have hp1 := Utf8.decode?_flatMap_utf8 hs.1.1
      rw [hfront, Utf8.decode?_flatMap_utf8 hs.2.1] at hp1
      exact (Option.some.inj hp1).symm
    have hclaims : joined p.1 p.2 = joined p.1 q.2 := by
      rw [(hmem p).1 hp, hheader, (hmem q).1 hq]
    exact Prod.ext hheader (List.cons.inj (List.append_cancel_left hclaims)).2
  · have hi' : m[i]? = some separator := hi
    obtain ⟨hlt, hget⟩ := List.getElem?_eq_some_iff.1 hi'
    have hcut : t.flatMap CodePoint.utf8 = m.take i ++ separator :: m.drop (i + 1) := by
      rw [hm, ← hget, List.getElem_cons_drop, List.take_append_drop]
    obtain ⟨u, v, rfl, hu, -⟩ := (Utf8.flatMap_utf8_eq_append_cons_iff (c := dot)
      (by decide) (by decide)).1 hcut
    refine ⟨(u, v), (hmem (u, v)).2 rfl, ?_⟩
    show (u.flatMap CodePoint.utf8).length = i
    rw [hu, List.length_take, Nat.min_eq_left (Nat.le_of_lt hlt)]

/-- An octet sequence has as many cuts as separators. -/
theorem encard_cuts (m : Bytes) : (cuts m).encard = m.count separator := by
  have hcuts : cuts m = ((m.idxsOf separator).toFinset : Set Nat) := by
    ext i
    simp [cuts, List.getElem?_eq_some_iff]
  rw [hcuts, Set.encard_coe_eq_coe_finsetCard, List.toFinset_card_of_nodup List.nodup_idxsOf,
    List.length_idxsOf]

/-- A text has one cut for each separator in it. -/
theorem encard_segments (h : Utf8.decode? m = some t) :
    (segments m).encard = m.count separator := by
  rw [← encard_cuts, ← (bijOn_cuts h).image_eq, (bijOn_cuts h).injOn.encard_image]

end SigningInput

namespace Key

variable {header claims header' claims' : Value}

/-! ### One signing input, one message -/

/-- A key sees a header and claims only through their signing input. -/
theorem rawSignature_congr (k : Key)
    (h : SigningInput.build header claims = SigningInput.build header' claims') :
    k.rawSignature header claims = k.rawSignature header' claims' := by
  rw [rawSignature, h, ← rawSignature]

/-- A key signs the joined segments, however they were cut. -/
theorem sign_congr (k : Key)
    (h : SigningInput.build header claims = SigningInput.build header' claims') :
    k.sign header claims = k.sign header' claims' := by
  rw [sign, k.rawSignature_congr h, ← sign]

theorem compare_congr (k : Key)
    (h : SigningInput.build header claims = SigningInput.build header' claims') :
    k.compare header claims = k.compare header' claims' := by
  funext raw journal
  rw [compare, k.rawSignature_congr h, ← compare]

theorem verify_congr (k : Key)
    (h : SigningInput.build header claims = SigningInput.build header' claims') :
    k.verify header claims = k.verify header' claims' := by
  funext signature journal
  cases hs : Base64Url.decodeValue signature with
  | error e => rw [verify_of_decodeValue_error hs, verify_of_decodeValue_error hs]
  | ok raw =>
    rw [verify_of_decodeValue_ok hs, verify_of_decodeValue_ok hs, k.compare_congr h]

theorem verifyBytes_congr (k : Key)
    (h : SigningInput.build header claims = SigningInput.build header' claims') :
    k.verifyBytes header claims = k.verifyBytes header' claims' := by
  funext signature journal
  rw [verifyBytes, k.compare_congr h, ← verifyBytes]

end Key

namespace SigningInput

/-- **How ambiguous a signing input is.** The signing input of segments without surrogates is the
encoding of the joined text. An octet sequence is the signing input of no segments if it is not well
formed, and otherwise of as many as it has separators, one for each, told apart by how many octets
the header has. So segments have the same signing input iff they are the same text when joined;
those whose headers have no dot are then the same; and no key, open or closed, tells segments with
the same joined text apart: what it signs for the one verifies for the other. -/
theorem segments_are_the_cuts :
    (∀ h c : Text, h.isScalar = true → c.isScalar = true →
      ∃ m, build (.text h) (.text c) = .ok m ∧ Utf8.decode? m = some (joined h c)) ∧
    (∀ m, Utf8.decode? m = none → segments m = ∅) ∧
    (∀ m t, Utf8.decode? m = some t →
      (segments m).encard = m.count separator ∧
        Set.BijOn headerOctets (segments m) (cuts m)) ∧
    (∀ h c h' c' : Text, h.isScalar = true → c.isScalar = true → h'.isScalar = true →
      c'.isScalar = true →
        (build (.text h) (.text c) = build (.text h') (.text c') ↔ joined h c = joined h' c') ∧
        (dot ∉ h → dot ∉ h' → build (.text h) (.text c) = build (.text h') (.text c') →
          h = h' ∧ c = c') ∧
        (joined h c = joined h' c' →
          (∀ k : Key, k.sign (.text h) (.text c) = k.sign (.text h') (.text c') ∧
            k.verify (.text h) (.text c) = k.verify (.text h') (.text c') ∧
            k.verifyBytes (.text h) (.text c) = k.verifyBytes (.text h') (.text c')) ∧
          ∀ (secret hash : Value) (k : Key), Key.ofSecret secret hash = .ok k →
            ∃ signature, k.sign (.text h) (.text c) = .ok signature ∧ ∀ journal,
              k.verify (.text h') (.text c') (.text signature) journal = (.ok true, journal))) := by
  refine ⟨fun h c hh hc => ?_, fun m => segments_eq_empty,
    fun m t hm => ⟨encard_segments hm, bijOn_cuts hm⟩, ?_⟩
  · have hbuild := build_text hh hc
    exact ⟨_, hbuild, build_eq_ok_iff.1 hbuild⟩
  · intro h c h' c' hh hc hh' hc'
    have hiff := build_eq_build_iff (h := h) (c := c) hh' hc'
    refine ⟨hiff, fun hd hd' heq => joined_injective hd hd' (hiff.1 heq), fun heq => ?_⟩
    have hbuild := hiff.2 heq
    refine ⟨fun k => ⟨k.sign_congr hbuild, k.verify_congr hbuild, k.verifyBytes_congr hbuild⟩, ?_⟩
    intro secret hash k hk
    obtain ⟨raw, -, -, hsign, -⟩ := Key.exists_sign hk hh hc
    refine ⟨_, hsign, fun journal => ?_⟩
    rw [← k.verify_congr hbuild, Key.verify_of_sign hsign]

/-- A signature for the header `a.b` and the claims `c` verifies for the header `a` and the claims
`b.c`; the signing input has two pairs of segments. -/
theorem segments_are_the_cuts_two_dots :
    (segments [0x61, 0x2E, 0x62, 0x2E, 0x63]).encard = 2 ∧
    ∃ signature,
      (Key.ofBytes .hs256 [0x6B]).sign (.text (Text.ofString "a.b")) (.text (Text.ofString "c")) =
        .ok signature ∧
      (Key.ofBytes .hs256 [0x6B]).verify (.text (Text.ofString "a")) (.text (Text.ofString "b.c"))
        (.text signature) [] = (.ok true, []) := by
  obtain ⟨-, -, hcount, hpairs⟩ := segments_are_the_cuts
  have hk : Key.ofSecret (.text (Text.ofString "k")) (.hashClass Algorithm.hs256.hashClass) =
      .ok (Key.ofBytes .hs256 [0x6B]) := rfl
  obtain ⟨-, -, hsame⟩ := hpairs (Text.ofString "a.b") (Text.ofString "c") (Text.ofString "a")
    (Text.ofString "b.c") (by decide) (by decide) (by decide) (by decide)
  obtain ⟨signature, hsign, hverify⟩ := (hsame (by decide)).2 _ _ _ hk
  exact ⟨(hcount _ (Text.ofString "a.b.c") (by decide +kernel)).1, signature, hsign, hverify []⟩

end SigningInput

end TokenSeal
