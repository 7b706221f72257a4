import Mathlib.Data.List.ModifyLast
import Mathlib.Data.Set.Card
import TokenSeal.Proofs.Base64Url.Grammar

/-!
# Bits that no octet holds

Six bits do not divide into eight, so the last sextet of a text may have low bits that belong to no
octet: four of them when two sextets stand past the last group of four, two when three do. Reading
drops them and writing puts zeros there. So a text read and written again is the text with its spare
bits cleared, `encode_of_decode`, and that is all that is lost: two accepted texts are the same
octets exactly when they agree up to spare bits.

The work is on sextets, group by group (`sextets_octets`); texts inherit it through the alphabet.
-/

namespace TokenSeal

/-- The sextet with its `k` lowest bits cleared. -/
def Sextet.clear (k : Nat) (s : Sextet) : Sextet :=
  ⟨s.val / 2 ^ k * 2 ^ k, Nat.lt_of_le_of_lt (Nat.div_mul_le_self _ _) s.isLt⟩

/-- Clearing no bits changes nothing. -/
@[simp] theorem Sextet.clear_zero (s : Sextet) : s.clear 0 = s := by
  apply Fin.ext
  simp [clear]

/-- Clearing keeps the high bits and nothing else. -/
theorem Sextet.clear_eq_clear_iff {k : Nat} {s r : Sextet} :
    s.clear k = r.clear k ↔ s.val / 2 ^ k = r.val / 2 ^ k := by
  rw [Fin.ext_iff]
  exact Nat.mul_left_inj (Nat.two_pow_pos k).ne'

theorem Sextet.clear_eq_self_iff {k : Nat} {s : Sextet} :
    s.clear k = s ↔ s.val % 2 ^ k = 0 := by
  have h := Nat.div_add_mod' s.val (2 ^ k)
  rw [Fin.ext_iff]
  show s.val / 2 ^ k * 2 ^ k = s.val ↔ _
  omega

namespace Base64Url

/-- How many low bits of the last letter are spare in a text of `n` letters. -/
def spareBits (n : Nat) : Nat :=
  match n % 4 with
  | 2 => 4
  | 3 => 2
  | _ => 0

/-- A letter with the `k` lowest bits of its sextet cleared; other characters stay. -/
def clearLetter (k : Nat) (c : CodePoint) : CodePoint :=
  match sextet? c with
  | some s => letter (s.clear k)
  | none => c

/-- The text with the spare bits of its last letter cleared. -/
def clearSpare (t : Text) : Text := t.modifyLast (clearLetter (spareBits t.length))

/-- The value of a text's last letter. -/
def lastSextet? (t : Text) : Option Sextet := t.getLast?.bind sextet?

/-- Texts that are the same but for the `k` lowest bits of the last letter: as long, the same in
every letter before the last, and the same in the last letter's high bits. -/
structure AgreeAbove (k : Nat) (t u : Text) : Prop where
  length_eq : t.length = u.length
  dropLast_eq : t.dropLast = u.dropLast
  high_eq : (lastSextet? t).map (·.val / 2 ^ k) = (lastSextet? u).map (·.val / 2 ^ k)

/-! ### Groups of sextets -/

/-- A full group of four sextets comes back as it was. -/
theorem sextets_octets_group (a b c d : Sextet) (bs : Bytes) :
    sextets (.ofNat (a.val * 4 + b.val / 16) :: .ofNat (b.val % 16 * 16 + c.val / 4) ::
      .ofNat (c.val % 4 * 64 + d.val) :: bs) = a :: b :: c :: d :: sextets bs := by
  have ha := a.isLt
  have hb := b.isLt
  have hc := c.isLt
  have hd := d.isLt
  simp only [sextets, List.cons.injEq, Fin.ext_iff, Sextet.val_ofNat, UInt8.toNat_ofNat', and_true]
  omega

/-- Of three sextets at the end, the last loses two bits. -/
theorem sextets_octets_three (a b c : Sextet) :
    sextets [.ofNat (a.val * 4 + b.val / 16), .ofNat (b.val % 16 * 16 + c.val / 4)] =
      [a, b, c.clear 2] := by
  have ha := a.isLt
  have hb := b.isLt
  have hc := c.isLt
  simp only [sextets, Sextet.clear, List.cons.injEq, Fin.ext_iff, Sextet.val_ofNat,
    UInt8.toNat_ofNat', and_true]
  omega

/-- Of two sextets at the end, the last loses four bits. -/
theorem sextets_octets_two (a b : Sextet) :
    sextets [.ofNat (a.val * 4 + b.val / 16)] = [a, b.clear 4] := by
  have ha := a.isLt
  have hb := b.isLt
  simp only [sextets, Sextet.clear, List.cons.injEq, Fin.ext_iff, Sextet.val_ofNat,
    UInt8.toNat_ofNat', and_true]
  omega

/-- A whole group has no spare bits of its own. -/
theorem spareBits_add_four (n : Nat) : spareBits (n + 4) = spareBits n := by
  rw [spareBits, Nat.add_mod_right, ← spareBits]

/-- Sextets read as octets and written again: the last one has lost its spare bits. -/
theorem sextets_octets (ss : List Sextet) (h : ss.length % 4 ≠ 1) :
    sextets (octets ss) = ss.modifyLast (Sextet.clear (spareBits ss.length)) := by
  fun_induction octets ss with
  | case1 a b c d r ih =>
    have hr : r.length % 4 ≠ 1 := by rwa [← Nat.add_mod_right r.length 4]
    rw [sextets_octets_group, ih hr]
    show _ = ([a, b, c, d] ++ r).modifyLast (Sextet.clear (spareBits (r.length + 4)))
    rw [spareBits_add_four]
    -- the last sextet is the group's own only if no group follows
    rcases r.eq_nil_or_concat' with rfl | ⟨r, e, rfl⟩
    · show [a, b, c, d] = [a, b, c, d.clear 0]
      rw [Sextet.clear_zero]
    · rw [List.modifyLast_append_of_right_ne_nil _ [a, b, c, d] _ (by simp)]
      rfl
  | case2 a b c => exact sextets_octets_three a b c
  | case3 a b => exact sextets_octets_two a b
  | case4 ss h4 h3 h2 =>
    -- what is left is no sextet at all, or the one sextet that no text ends with
    match ss, h, h4, h3, h2 with
    | [], _, _, _, _ => rfl
    | [_], h, _, _, _ => exact absurd rfl h
    | [a, b], _, _, _, h2 => exact absurd rfl (h2 a b)
    | [a, b, c], _, _, h3, _ => exact absurd rfl (h3 a b c)
    | a :: b :: c :: d :: r, _, h4, _, _ => exact absurd rfl (h4 a b c d r)

/-! ### Texts -/

theorem clearLetter_letter (k : Nat) (s : Sextet) :
    clearLetter k (letter s) = letter (s.clear k) := by
  rw [clearLetter, sextet?_letter]

/-- Clearing spare bits touches the last letter only. -/
theorem clearSpare_concat (t : Text) (c : CodePoint) :
    clearSpare (t ++ [c]) = t ++ [clearLetter (spareBits (t.length + 1)) c] := by
  rw [clearSpare, List.modifyLast_concat, List.length_append, List.length_singleton]

@[simp] theorem length_clearSpare (t : Text) : (clearSpare t).length = t.length := by
  rcases t.eq_nil_or_concat' with rfl | ⟨t, c, rfl⟩
  · rfl
  · rw [clearSpare_concat, List.length_append, List.length_append, List.length_singleton,
      List.length_singleton]

theorem lastSextet?_concat (t : Text) (c : CodePoint) : lastSextet? (t ++ [c]) = sextet? c := by
  rw [lastSextet?, List.getLast?_concat, Option.bind_some]

/-- Clearing the spare bits of a text clears those of its sextets. -/
theorem clearSpare_map_letter (ss : List Sextet) :
    clearSpare (ss.map letter) =
      (ss.modifyLast (Sextet.clear (spareBits ss.length))).map letter := by
  rcases ss.eq_nil_or_concat' with rfl | ⟨ss, s, rfl⟩
  · rfl
  · rw [List.map_append, List.map_singleton, clearSpare_concat, clearLetter_letter,
      List.modifyLast_concat, List.map_append, List.map_singleton]
    simp only [List.length_map, List.length_append, List.length_singleton]

/-- A text read and written again has its spare bits cleared. -/
theorem encode_of_decode {t : Text} {bs : Bytes} (h : decode t = .ok bs) :
    encode bs = clearSpare t := by
  obtain ⟨ss, rfl, hl, rfl⟩ := decode_eq_ok_iff.1 h
  rw [encode, sextets_octets ss hl, clearSpare_map_letter]

/-- An accepted text is empty or ends with a letter of the alphabet. -/
theorem eq_nil_or_concat_letter {t : Text} (h : WellFormed t) :
    t = [] ∨ ∃ u s, t = u ++ [letter s] := by
  rcases t.eq_nil_or_concat' with rfl | ⟨u, c, rfl⟩
  · exact .inl rfl
  · obtain ⟨s, rfl⟩ := mem_alphabet_iff.1 (h.letters c (by simp))
    exact .inr ⟨u, s, rfl⟩

/-- The texts that agree with one that ends in a letter differ from it in that letter only. -/
theorem agreeAbove_concat_iff {k : Nat} {t u : Text} {s : Sextet} :
    AgreeAbove k (t ++ [letter s]) u ↔
      ∃ r : Sextet, u = t ++ [letter r] ∧ s.val / 2 ^ k = r.val / 2 ^ k := by
  constructor
  · rintro ⟨hl, hd, hh⟩
    rcases u.eq_nil_or_concat' with rfl | ⟨u, c, rfl⟩
    · simp at hl
    · rw [List.dropLast_concat, List.dropLast_concat] at hd
      rw [lastSextet?_concat, lastSextet?_concat, sextet?_letter] at hh
      obtain ⟨r, hr, hv⟩ := Option.map_eq_some_iff.1 hh.symm
      rw [sextet?_eq_some_iff.1 hr, hd]
      exact ⟨r, rfl, hv.symm⟩
  · rintro ⟨r, rfl, hh⟩
    refine ⟨by simp, by simp, ?_⟩
    simp only [lastSextet?_concat, sextet?_letter, Option.map_some, hh]

/-- What agrees with a well-formed text is well formed. -/
theorem AgreeAbove.wellFormed {k : Nat} {t u : Text} (h : AgreeAbove k t u) (ht : WellFormed t) :
    WellFormed u := by
  refine ⟨?_, h.length_eq ▸ ht.length_ne⟩
  rcases eq_nil_or_concat_letter ht with rfl | ⟨t, s, rfl⟩
  · rw [List.length_eq_zero_iff.1 h.length_eq.symm]
    exact ht.letters
  · obtain ⟨r, rfl, -⟩ := agreeAbove_concat_iff.1 h
    intro c hc
    rcases List.mem_append.1 hc with hc | hc
    · exact ht.letters c (List.mem_append_left _ hc)
    · rw [List.mem_singleton.1 hc]
      exact mem_alphabet_iff.2 ⟨r, rfl⟩

/-- Each spare bit doubles the number of texts that agree: the last letter keeps its high bits, and
its `k` low bits are free. -/
theorem ncard_agreeAbove {k : Nat} (hk : k ≤ 6) (t : Text) (s : Sextet) :
    {u | AgreeAbove k (t ++ [letter s]) u}.ncard = 2 ^ k := by
  obtain ⟨m, hm⟩ : 2 ^ k ∣ 64 := pow_dvd_pow 2 hk
  -- under the high bits of `s` there is room for every value of the low ones
  have hroom (j : Fin (2 ^ k)) : s.val / 2 ^ k * 2 ^ k + j < 64 := by
    have hq : s.val / 2 ^ k < m := Nat.div_lt_of_lt_mul (hm ▸ s.isLt)
    calc s.val / 2 ^ k * 2 ^ k + j < (s.val / 2 ^ k + 1) * 2 ^ k := by
          rw [Nat.succ_mul]
          exact Nat.add_lt_add_left j.isLt _
      _ ≤ m * 2 ^ k := Nat.mul_le_mul_right _ hq
      _ = 64 := by rw [Nat.mul_comm, ← hm]
  -- so the texts that agree are the values of `k` bits
  have hrange : {u | AgreeAbove k (t ++ [letter s]) u} =
      Set.range fun j => t ++ [letter ⟨_, hroom j⟩] := by
    ext u
    rw [Set.mem_ofPred_eq, agreeAbove_concat_iff]
    constructor
    · rintro ⟨r, rfl, hr⟩
      refine ⟨⟨r.val % 2 ^ k, Nat.mod_lt _ (Nat.two_pow_pos k)⟩, ?_⟩
      simp only [hr, Nat.div_add_mod']
    · rintro ⟨j, rfl⟩
      refine ⟨_, rfl, ?_⟩
      show s.val / 2 ^ k = (s.val / 2 ^ k * 2 ^ k + j) / 2 ^ k
      rw [Nat.mul_comm, Nat.mul_add_div (Nat.two_pow_pos k), Nat.div_eq_of_lt j.isLt, Nat.add_zero]
  have hinj : Function.Injective fun j => t ++ [letter ⟨_, hroom j⟩] := by
    intro i j h
    have hl := letter_injective (List.singleton_inj.1 (List.append_cancel_left h))
    exact Fin.ext (Nat.add_left_cancel (Fin.val_eq_of_eq hl))
  rw [hrange, Set.ncard_range_of_injective hinj, Nat.card_fin]

/-- Texts whose last letter agrees in its high bits agree up to spare bits, and only they have the
same cleared form. -/
theorem clearSpare_eq_clearSpare_iff {t u : Text} (ht : WellFormed t) (hu : WellFormed u) :
    clearSpare t = clearSpare u ↔ AgreeAbove (spareBits t.length) t u := by
  have hlen : clearSpare t = clearSpare u → t.length = u.length := by
    intro h
    rw [← length_clearSpare t, h, length_clearSpare]
  -- a text without letters is told from the others by its length
  rcases eq_nil_or_concat_letter ht with rfl | ⟨t, s, rfl⟩
  · rcases eq_nil_or_concat_letter hu with rfl | ⟨u, r, rfl⟩
    · exact ⟨fun _ => ⟨rfl, rfl, rfl⟩, fun _ => rfl⟩
    · exact ⟨fun h => absurd (hlen h) (by simp), fun h => absurd h.length_eq (by simp)⟩
  · rcases eq_nil_or_concat_letter hu with rfl | ⟨u, r, rfl⟩
    · exact ⟨fun h => absurd (hlen h) (by simp), fun h => absurd h.length_eq (by simp)⟩
    · rw [agreeAbove_concat_iff, clearSpare_concat, clearSpare_concat, clearLetter_letter,
        clearLetter_letter, List.length_append, List.length_singleton]
      constructor
      · intro h
        obtain ⟨rfl, hl⟩ := List.append_inj' h rfl
        have hc := letter_injective (List.singleton_inj.1 hl)
        exact ⟨r, rfl, Sextet.clear_eq_clear_iff.1 hc⟩
      · rintro ⟨r', hu, hh⟩
        obtain ⟨rfl, hl⟩ := List.append_inj' hu rfl
        rw [letter_injective (List.singleton_inj.1 hl), Sextet.clear_eq_clear_iff.2 hh]

/-- A well-formed text keeps its form under clearing iff its spare bits are zero. -/
theorem clearSpare_eq_self_iff {t : Text} (ht : WellFormed t) :
    clearSpare t = t ↔ ∀ s, lastSextet? t = some s → s.val % 2 ^ spareBits t.length = 0 := by
  rcases eq_nil_or_concat_letter ht with rfl | ⟨u, s, rfl⟩
  · refine ⟨fun _ s hs => ?_, fun _ => rfl⟩
    cases hs
  · rw [clearSpare_concat, lastSextet?_concat, clearLetter_letter, sextet?_letter,
      List.append_cancel_left_eq, List.length_append, List.length_singleton]
    simp [letter_injective.eq_iff, Sextet.clear_eq_self_iff]

/-! ### The codec up to spare bits -/

/-- Accepted texts stand for the same octets iff they agree up to spare bits. -/
theorem eq_iff_agreeAbove {t u : Text} {bs cs : Bytes} (ht : decode t = .ok bs)
    (hu : decode u = .ok cs) : bs = cs ↔ AgreeAbove (spareBits t.length) t u := by
  rw [← encode_injective.eq_iff, encode_of_decode ht, encode_of_decode hu]
  exact clearSpare_eq_clearSpare_iff (exists_decode_eq_ok_iff.1 ⟨bs, ht⟩)
    (exists_decode_eq_ok_iff.1 ⟨cs, hu⟩)

/-- An accepted text is an encoding iff it is the encoding of what it stands for. -/
theorem exists_encode_eq_iff {t : Text} {bs : Bytes} (h : decode t = .ok bs) :
    (∃ cs, encode cs = t) ↔ encode bs = t := by
  constructor
  · rintro ⟨cs, rfl⟩
    rw [decode_encode] at h
    rw [Except.ok.inj h]
  · intro he
    exact ⟨bs, he⟩

/-- **Writing and reading are inverse up to spare bits.** What is written reads back; what is read
and written again is the text with its spare bits cleared; so accepted texts stand for the same
octets iff they agree up to spare bits, and the texts that are written are those whose spare bits
are zero. -/
theorem encode_decode_up_to_spareBits :
    (∀ bs, decode (encode bs) = .ok bs) ∧
    (∀ t bs, decode t = .ok bs → encode bs = clearSpare t) ∧
    (∀ t u bs cs, decode t = .ok bs → decode u = .ok cs →
      (bs = cs ↔ AgreeAbove (spareBits t.length) t u)) ∧
    (∀ t bs, decode t = .ok bs →
      ((∃ cs, encode cs = t) ↔
        ∀ s, lastSextet? t = some s → s.val % 2 ^ spareBits t.length = 0)) := by
  refine ⟨decode_encode, fun t bs => encode_of_decode, fun t u bs cs => eq_iff_agreeAbove, ?_⟩
  intro t bs h
  rw [exists_encode_eq_iff h, encode_of_decode h]
  exact clearSpare_eq_self_iff (exists_decode_eq_ok_iff.1 ⟨bs, h⟩)

/-- The texts `AAF` and `AAE` are both accepted and stand for the same two octets; the second is
the one that is written. -/
theorem encode_decode_up_to_spareBits_two_octets :
    decode (Text.ofString "AAF") = .ok [0, 1] ∧ decode (Text.ofString "AAE") = .ok [0, 1] ∧
    encode [0, 1] = clearSpare (Text.ofString "AAF") ∧
    AgreeAbove (spareBits 3) (Text.ofString "AAF") (Text.ofString "AAE") := by
  have hf : decode (Text.ofString "AAF") = .ok [0, 1] := by decide +kernel
  have he : decode (Text.ofString "AAE") = .ok [0, 1] := by decide +kernel
  obtain ⟨-, hwrite, hsame, -⟩ := encode_decode_up_to_spareBits
  exact ⟨hf, he, hwrite _ _ hf, (hsame _ _ _ _ hf he).1 rfl⟩

end Base64Url

end TokenSeal
