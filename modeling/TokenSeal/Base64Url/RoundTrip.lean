import TokenSeal.Base64Url

/-!
# Base64 read and written

The alphabet and the sextets are in bijection (`sextet?_eq_some_iff`), and the octets of the sextets
of a byte sequence are that sequence (`octets_sextets`), whatever the length of its tail. Together
they give `decode_encode`. The converse fails by design: the last letter of a text may have low bits
that no octet holds.
-/

namespace TokenSeal.Base64Url

/-! ### The alphabet -/

/-- The alphabet has no letter twice, so a letter is the one of its sextet. -/
theorem letter_of_sextet? {c : CodePoint} {s : Sextet} (h : sextet? c = some s) :
    letter s = c := by
  have hc := c.isLt
  unfold sextet? at h
  split at h
  · next hr =>
    cases h
    apply Fin.ext
    have : (c.val - 0x41) % 64 = c.val - 0x41 := Nat.mod_eq_of_lt (by omega)
    simp only [letter, Sextet.val_ofNat, this]
    rw [if_pos (by omega)]
    show (0x41 + (c.val - 0x41)) % 0x110000 = c.val
    omega
  · split at h
    · next hr =>
      cases h
      apply Fin.ext
      have : (c.val - 0x61 + 26) % 64 = c.val - 0x61 + 26 := Nat.mod_eq_of_lt (by omega)
      simp only [letter, Sextet.val_ofNat, this]
      rw [if_neg (by omega), if_pos (by omega)]
      show (0x61 + (c.val - 0x61 + 26 - 26)) % 0x110000 = c.val
      omega
    · split at h
      · next hr =>
        cases h
        apply Fin.ext
        have : (c.val - 0x30 + 52) % 64 = c.val - 0x30 + 52 := Nat.mod_eq_of_lt (by omega)
        simp only [letter, Sextet.val_ofNat, this]
        rw [if_neg (by omega), if_neg (by omega), if_pos (by omega)]
        show (0x30 + (c.val - 0x30 + 52 - 52)) % 0x110000 = c.val
        omega
      · split at h
        · next hr =>
          cases h
          rw [hr]
          rfl
        · split at h
          · next hr =>
            cases h
            rw [hr]
            rfl
          · cases h

theorem sextet?_eq_some_iff {c : CodePoint} {s : Sextet} : sextet? c = some s ↔ c = letter s :=
  ⟨fun h => (letter_of_sextet? h).symm, fun h => h ▸ sextet?_letter s⟩

/-- A text has sextets iff it is written in the alphabet. -/
theorem mapM_sextet?_eq_some_iff {t : Text} {ss : List Sextet} :
    t.mapM sextet? = some ss ↔ t = ss.map letter := by
  constructor
  · intro h
    induction t generalizing ss with
    | nil =>
      simp only [List.mapM_nil, Option.pure_def, Option.some.injEq] at h
      rw [← h]
      rfl
    | cons c t ih =>
      simp only [List.mapM_cons, Option.bind_eq_bind, Option.bind_eq_some_iff, Option.pure_def,
        Option.some.injEq] at h
      obtain ⟨s, hs, rest, hrest, rfl⟩ := h
      rw [List.map_cons, ← ih hrest, letter_of_sextet? hs]
  · rintro rfl
    induction ss with
    | nil => rfl
    | cons s ss ih => simp [sextet?_letter, ih]

/-! ### The groups -/

/-- Regrouping octets into sextets and back is lossless; the bits that fill the last sextet are
dropped. -/
theorem octets_sextets (bs : Bytes) : octets (sextets bs) = bs := by
  fun_induction sextets bs with
  | case1 a b c r ih =>
    have ha := a.toNat_lt
    have hb := b.toNat_lt
    have hc := c.toNat_lt
    simp only [octets, ih]
    congr 1
    · apply UInt8.toNat_inj.1
      simp
      omega
    · congr 1
      · apply UInt8.toNat_inj.1
        simp
        omega
      · congr 1
        apply UInt8.toNat_inj.1
        simp
        omega
  | case2 a b =>
    have ha := a.toNat_lt
    have hb := b.toNat_lt
    simp only [octets]
    congr 1
    · apply UInt8.toNat_inj.1
      simp
      omega
    · congr 1
      apply UInt8.toNat_inj.1
      simp
      omega
  | case3 a =>
    have ha := a.toNat_lt
    simp only [octets]
    congr 1
    apply UInt8.toNat_inj.1
    simp
    omega
  | case4 => rfl

/-- As many sextets as the bits need. -/
theorem length_sextets (bs : Bytes) : (sextets bs).length = (8 * bs.length + 5) / 6 := by
  fun_induction sextets bs with
  | case1 a b c r ih =>
    simp only [List.length_cons, ih]
    omega
  | case2 => simp
  | case3 => simp
  | case4 => rfl

/-- **Decoding undoes encoding.** -/
theorem decode_encode (bs : Bytes) : decode (encode bs) = .ok bs := by
  have hl := length_sextets bs
  unfold decode encode
  rw [mapM_sextet?_eq_some_iff.2 rfl]
  dsimp only
  rw [if_neg (by omega), octets_sextets]

end TokenSeal.Base64Url
