import TokenSeal.Text.Utf8

/-!
# UTF-8 read and written

`decode?` and `encode` are two views of one relation: `decode?_eq_some_iff`. So `decode?` accepts
the encodings of scalar texts and nothing else, and no two texts have the same encoding. The steps
are one code point long. What `point?` accepts is its encoding, which gives one direction; the
encoding of a code point is cut off whole by `decode?`, which gives the other.
-/

namespace TokenSeal.Utf8

/-- A code point is taken if it is no surrogate and has not been written longer than it has to
be. -/
theorem point?_eq_some_iff {value : Nat} {bytes : Bytes} {c : CodePoint} :
    point? value bytes = some c ↔ c.val = value ∧ c.isSurrogate = false ∧ bytes = c.utf8 := by
  unfold point?
  constructor
  · intro h
    split at h
    · next hv =>
      dsimp only at h
      split at h
      · next hc =>
        cases h
        simp only [Bool.and_eq_true, Bool.not_eq_true', beq_iff_eq] at hc
        exact ⟨rfl, hc.1, hc.2.symm⟩
      · cases h
    · cases h
  · rintro ⟨rfl, hs, rfl⟩
    simp [hs]

/-- What is decoded is scalar, and its encoding is what was read. -/
theorem encode_of_decode? {bs : Bytes} {t : Text} (h : decode? bs = some t) :
    t.isScalar = true ∧ t.flatMap CodePoint.utf8 = bs := by
  have group : ∀ {value : Nat} {front rest : Bytes} {t : Text},
      (∀ u, decode? rest = some u → u.isScalar = true ∧ u.flatMap CodePoint.utf8 = rest) →
      (do return (← point? value front) :: (← decode? rest)) = some t →
      t.isScalar = true ∧ t.flatMap CodePoint.utf8 = front ++ rest := by
    intro value front rest t ih h
    simp only [Option.bind_eq_bind, Option.bind_eq_some_iff, Option.pure_def,
      Option.some.injEq] at h
    obtain ⟨c, hc, u, hu, rfl⟩ := h
    obtain ⟨-, hs, hf⟩ := point?_eq_some_iff.1 hc
    obtain ⟨hu1, hu2⟩ := ih u hu
    refine ⟨?_, ?_⟩
    · simp only [Text.isScalar, List.all_cons, hs, Bool.not_false, Bool.true_and]
      exact hu1
    · rw [List.flatMap_cons, hu2, ← hf]
  fun_induction decode? bs generalizing t with
  | case1 => cases h; exact ⟨rfl, rfl⟩
  | case2 a r _ ih => exact group (fun u hu => ih hu) h
  | case3 => cases h
  | case4 a _ b r _ ih => exact group (fun u hu => ih hu) h
  | case5 => cases h
  | case6 a _ b _ c r _ ih => exact group (fun u hu => ih hu) h
  | case7 => cases h
  | case8 a _ b _ c _ d r ih => exact group (fun u hu => ih hu) h

theorem decode?_utf8_append {c : CodePoint} (hs : c.isSurrogate = false) (rest : Bytes) :
    decode? (c.utf8 ++ rest) = (decode? rest).map (c :: ·) := by
  have hc := c.isLt
  have point : ∀ {value : Nat} {bytes : Bytes}, value = c.val → bytes = c.utf8 →
      (do return (← point? value bytes) :: (← decode? rest)) = (decode? rest).map (c :: ·) := by
    rintro _ _ rfl rfl
    rw [point?_eq_some_iff.2 ⟨rfl, hs, rfl⟩]
    cases decode? rest <;> rfl
  have toNat_ofNat : ∀ n, n < 256 → (UInt8.ofNat n).toNat = n := fun _ hn =>
    UInt8.toNat_ofNat_of_lt hn
  have lead : ∀ m n : Nat, m < 256 → n < 256 → (UInt8.ofNat n < UInt8.ofNat m ↔ n < m) := by
    intro m n hm hn
    rw [UInt8.lt_iff_toNat_lt, toNat_ofNat n hn, toNat_ofNat m hm]
  have e1 : ∀ n : Nat, n < 256 → (UInt8.ofNat n < 0x80 ↔ n < 0x80) := fun n hn =>
    lead 0x80 n (by decide) hn
  have e2 : ∀ n : Nat, n < 256 → (UInt8.ofNat n < 0xE0 ↔ n < 0xE0) := fun n hn =>
    lead 0xE0 n (by decide) hn
  have e3 : ∀ n : Nat, n < 256 → (UInt8.ofNat n < 0xF0 ↔ n < 0xF0) := fun n hn =>
    lead 0xF0 n (by decide) hn
  by_cases h1 : c.val < 0x80
  · have hu : c.utf8 = [.ofNat c.val] := by rw [CodePoint.utf8, if_pos h1]
    rw [hu, List.singleton_append, decode?.eq_def]
    dsimp only
    rw [if_pos ((e1 _ (by omega)).2 h1)]
    exact point (toNat_ofNat _ (by omega)) hu.symm
  · by_cases h2 : c.val < 0x800
    · have hu : c.utf8 = [.ofNat (0xC0 + c.val / 0x40), .ofNat (0x80 + c.val % 0x40)] := by
        rw [CodePoint.utf8, if_neg h1, if_pos h2]
      rw [hu, decode?.eq_def]
      dsimp only [List.cons_append, List.nil_append]
      rw [if_neg (by rw [e1 _ (by omega)]; omega), if_pos ((e2 _ (by omega)).2 (by omega))]
      refine point ?_ hu.symm
      rw [toNat_ofNat _ (by omega), toNat_ofNat _ (by omega)]
      omega
    · by_cases h3 : c.val < 0x10000
      · have hu : c.utf8 = [.ofNat (0xE0 + c.val / 0x1000), .ofNat (0x80 + c.val / 0x40 % 0x40),
            .ofNat (0x80 + c.val % 0x40)] := by
          rw [CodePoint.utf8, if_neg h1, if_neg h2, if_pos h3]
        rw [hu, decode?.eq_def]
        dsimp only [List.cons_append, List.nil_append]
        rw [if_neg (by rw [e1 _ (by omega)]; omega), if_neg (by rw [e2 _ (by omega)]; omega),
          if_pos ((e3 _ (by omega)).2 (by omega))]
        refine point ?_ hu.symm
        rw [toNat_ofNat _ (by omega), toNat_ofNat _ (by omega), toNat_ofNat _ (by omega)]
        omega
      · have hu : c.utf8 = [.ofNat (0xF0 + c.val / 0x40000), .ofNat (0x80 + c.val / 0x1000 % 0x40),
            .ofNat (0x80 + c.val / 0x40 % 0x40), .ofNat (0x80 + c.val % 0x40)] := by
          rw [CodePoint.utf8, if_neg h1, if_neg h2, if_neg h3]
        rw [hu, decode?.eq_def]
        dsimp only [List.cons_append, List.nil_append]
        rw [if_neg (by rw [e1 _ (by omega)]; omega), if_neg (by rw [e2 _ (by omega)]; omega),
          if_neg (by rw [e3 _ (by omega)]; omega)]
        refine point ?_ hu.symm
        rw [toNat_ofNat _ (by omega), toNat_ofNat _ (by omega), toNat_ofNat _ (by omega),
          toNat_ofNat _ (by omega)]
        omega

/-- **Decoding undoes encoding.** -/
theorem decode?_flatMap_utf8 {t : Text} (h : t.isScalar = true) :
    decode? (t.flatMap CodePoint.utf8) = some t := by
  induction t with
  | nil => rfl
  | cons c t ih =>
    simp only [Text.isScalar, List.all_cons, Bool.and_eq_true, Bool.not_eq_true'] at h
    rw [List.flatMap_cons, decode?_utf8_append h.1, ih h.2]
    rfl

/-- **UTF-8 is canonical.** Octets decode to a text iff they are what the text encodes to. -/
theorem decode?_eq_some_iff {bs : Bytes} {t : Text} :
    decode? bs = some t ↔ encode t = .ok bs := by
  constructor
  · intro h
    obtain ⟨hs, he⟩ := encode_of_decode? h
    rw [encode_of_isScalar hs, he]
  · intro h
    cases hr : firstSurrogateRun t with
    | some run => simp [encode, hr] at h
    | none =>
      simp only [encode, hr, Except.ok.injEq] at h
      rw [← h]
      exact decode?_flatMap_utf8 (firstSurrogateRun_eq_none_iff.1 hr)

end TokenSeal.Utf8
