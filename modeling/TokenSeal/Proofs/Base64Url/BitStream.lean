import TokenSeal.Proofs.Base64Url.Padding

/-!
# The bits of a text

RFC 4648 says what an encoding is by its bits: those of the octets in a row, most significant first,
cut into groups of six, the last of them filled up with zeros, and each group written as the letter
at that place of the alphabet. That reading needs no arithmetic on octets, so it tells the codec
from any other one that merely inverts itself: `letterBits_encode` for writing,
`octetBits_of_decode` for reading.

Digits in a row are the digits of one number (`flatMap_bits`), so that a group of octets and the
group of sextets that holds the same bits are compared as numbers.
-/

namespace TokenSeal

/-! ### Bits of numbers -/

/-- The lowest `width` bits of a number, most significant first. -/
def bits (width n : Nat) : List Bool := (List.range width).reverse.map n.testBit

@[simp] theorem length_bits (width n : Nat) : (bits width n).length = width := by
  simp [bits]

theorem bits_zero (width : Nat) : bits width 0 = List.replicate width false := by
  rw [bits, List.eq_replicate_iff]
  simp

/-- The bits of a number with some low bits set apart. -/
theorem bits_add {m n x y : Nat} (hy : y < 2 ^ n) :
    bits (m + n) (x * 2 ^ n + y) = bits m x ++ bits n y := by
  have hhigh (i : Nat) : (x * 2 ^ n + y).testBit (n + i) = x.testBit i := by
    rw [Nat.mul_comm, Nat.testBit_two_pow_mul_add x hy, if_neg (by omega), Nat.add_sub_cancel_left]
  have hlow (i : Nat) (hi : i < n) : (x * 2 ^ n + y).testBit i = y.testBit i := by
    rw [Nat.mul_comm, Nat.testBit_two_pow_mul_add x hy, if_pos hi]
  unfold bits
  rw [Nat.add_comm m n, List.range_add, List.reverse_append, List.map_append]
  congr 1
  · rw [← List.map_reverse, List.map_map]
    exact List.map_congr_left fun i _ => hhigh i
  · exact List.map_congr_left fun i hi => hlow i (by simpa using hi)

/-- The high and the low bits of a number. -/
theorem bits_eq_append {width k : Nat} (hk : k ≤ width) (n : Nat) :
    bits width n = bits (width - k) (n / 2 ^ k) ++ bits k (n % 2 ^ k) := by
  rw [← bits_add (Nat.mod_lt _ (Nat.two_pow_pos k)), Nat.div_add_mod', Nat.sub_add_cancel hk]

/-- A sextet whose low bits are cleared has zeros for them. -/
theorem bits_clear {k : Nat} (hk : k ≤ 6) (s : Sextet) :
    bits 6 (s.clear k).val = bits (6 - k) (s.val / 2 ^ k) ++ List.replicate k false := by
  have hclear : (s.clear k).val = s.val / 2 ^ k * 2 ^ k + 0 := rfl
  rw [← bits_zero, ← bits_add (Nat.two_pow_pos k), Nat.sub_add_cancel hk, hclear]

/-- Digits of `width` bits each, one after the other, are the bits of the number that they write. -/
theorem flatMap_bits {α : Type} (width : Nat) (digit : α → Nat) (l : List α)
    (h : ∀ a ∈ l, digit a < 2 ^ width) :
    l.flatMap (fun a => bits width (digit a)) =
      bits (width * l.length) (l.foldl (fun n a => n * 2 ^ width + digit a) 0) := by
  induction l using List.reverseRecOn with
  | nil => rfl
  | append_singleton l a ih =>
    have hl : ∀ b ∈ l, digit b < 2 ^ width := fun b hb => h b (List.mem_append_left _ hb)
    have ha : digit a < 2 ^ width := h a (by simp)
    rw [List.flatMap_append, ih hl, List.flatMap_singleton, List.foldl_concat, List.length_append,
      List.length_singleton, Nat.mul_succ, bits_add ha]

namespace Base64Url

/-! ### Octets, sextets and letters in a row -/

/-- The bits of octets in a row. -/
def octetBits (bs : Bytes) : List Bool := bs.flatMap fun b => bits 8 b.toNat

/-- The bits of sextets in a row. -/
def sextetBits (ss : List Sextet) : List Bool := ss.flatMap fun s => bits 6 s.val

/-- The bits of letters in a row: a letter stands for its place in the alphabet. -/
def letterBits (t : Text) : List Bool := t.flatMap fun c => bits 6 (alphabet.idxOf c)

theorem idxOf_letter (s : Sextet) : alphabet.idxOf (letter s) = s.val := by
  revert s
  decide +kernel

theorem letterBits_map_letter (ss : List Sextet) : letterBits (ss.map letter) = sextetBits ss := by
  unfold letterBits sextetBits
  rw [List.flatMap_map]
  simp only [idxOf_letter]

theorem letterBits_concat (t : Text) (s : Sextet) :
    letterBits (t ++ [letter s]) = letterBits t ++ bits 6 s.val := by
  rw [letterBits, List.flatMap_append, List.flatMap_singleton, idxOf_letter, ← letterBits]

theorem octetBits_append (bs cs : Bytes) : octetBits (bs ++ cs) = octetBits bs ++ octetBits cs :=
  List.flatMap_append

theorem sextetBits_append (ss rs : List Sextet) :
    sextetBits (ss ++ rs) = sextetBits ss ++ sextetBits rs :=
  List.flatMap_append

/-- The bits of octets are those of one number, the octets as its digits to the base 256. -/
theorem octetBits_eq (bs : Bytes) :
    octetBits bs = bits (8 * bs.length) (bs.foldl (fun n b => n * 2 ^ 8 + b.toNat) 0) :=
  flatMap_bits 8 _ bs fun b _ => b.toNat_lt

/-- The bits of sextets are those of one number, the sextets as its digits to the base 64. -/
theorem sextetBits_eq (ss : List Sextet) :
    sextetBits ss = bits (6 * ss.length) (ss.foldl (fun n s => n * 2 ^ 6 + s.val) 0) :=
  flatMap_bits 6 _ ss fun s _ => s.isLt

@[simp] theorem length_octetBits (bs : Bytes) : (octetBits bs).length = 8 * bs.length := by
  rw [octetBits_eq, length_bits]

/-! ### Writing -/

/-- The sextets of octets have the bits of the octets, and zeros for the bits that no octet
holds. -/
theorem sextetBits_sextets (bs : Bytes) :
    sextetBits (sextets bs) =
      octetBits bs ++ List.replicate (spareBits (sextets bs).length) false := by
  fun_induction sextets bs with
  | case1 a b c r ih =>
    have ha := a.toNat_lt
    have hb := b.toNat_lt
    have hc := c.toNat_lt
    have hgroup : sextetBits [.ofNat (a.toNat / 4), .ofNat (a.toNat % 4 * 16 + b.toNat / 16),
        .ofNat (b.toNat % 16 * 4 + c.toNat / 64), .ofNat (c.toNat % 64)] = octetBits [a, b, c] := by
      rw [sextetBits_eq, octetBits_eq]
      refine congrArg (bits 24) ?_
      simp only [List.foldl_cons, List.foldl_nil, Sextet.val_ofNat]
      omega
    show sextetBits ([_, _, _, _] ++ sextets r) =
      octetBits ([a, b, c] ++ r) ++ List.replicate (spareBits ((sextets r).length + 4)) false
    rw [sextetBits_append, octetBits_append, hgroup, ih, spareBits_add_four, List.append_assoc]
  | case2 a b =>
    have ha := a.toNat_lt
    have hb := b.toNat_lt
    show _ = octetBits [a, b] ++ List.replicate 2 false
    rw [sextetBits_eq, octetBits_eq, ← bits_zero, ← bits_add (by decide)]
    refine congrArg (bits 18) ?_
    simp only [List.foldl_cons, List.foldl_nil, Sextet.val_ofNat]
    omega
  | case3 a =>
    have ha := a.toNat_lt
    show _ = octetBits [a] ++ List.replicate 4 false
    rw [sextetBits_eq, octetBits_eq, ← bits_zero, ← bits_add (by decide)]
    refine congrArg (bits 12) ?_
    simp only [List.foldl_cons, List.foldl_nil, Sextet.val_ofNat]
    omega
  | case4 => rfl

/-- An encoding carries the bits of the octets, and zeros in the spare bits. -/
theorem letterBits_encode (bs : Bytes) :
    letterBits (encode bs) =
      octetBits bs ++ List.replicate (spareBits (encode bs).length) false := by
  rw [encode, letterBits_map_letter, List.length_map, sextetBits_sextets]

/-- Spare bits never fill a letter. -/
theorem spareBits_lt (n : Nat) : spareBits n < 6 := by
  unfold spareBits
  split <;> decide

/-! ### Reading -/

/-- What an accepted text stands for is as many octets as its bits fill. -/
theorem length_of_decode {t : Text} {bs : Bytes} (h : decode t = .ok bs) :
    bs.length = 6 * t.length / 8 := by
  have hlen := length_encode bs
  rw [encode_of_decode h, length_clearSpare] at hlen
  omega

/-- Reading gives the first bits of a text, as many as whole octets hold: what is written for the
octets differs from the text in spare bits only, and those are the last ones. -/
theorem octetBits_of_decode {t : Text} {bs : Bytes} (h : decode t = .ok bs) :
    octetBits bs = (letterBits t).take (8 * bs.length) := by
  have hwritten := letterBits_encode bs
  rw [encode_of_decode h, length_clearSpare] at hwritten
  suffices ∃ spare, letterBits t = octetBits bs ++ spare by
    obtain ⟨spare, hspare⟩ := this
    rw [hspare, ← length_octetBits, List.take_left]
  rcases eq_nil_or_concat_letter (exists_decode_eq_ok_iff.1 ⟨bs, h⟩) with rfl | ⟨u, s, rfl⟩
  · exact ⟨_, hwritten⟩
  · have hk : spareBits (u.length + 1) ≤ 6 := (spareBits_lt _).le
    rw [clearSpare_concat, clearLetter_letter, List.length_append, List.length_singleton,
      letterBits_concat, bits_clear hk, ← List.append_assoc,
      List.append_cancel_right_eq] at hwritten
    refine ⟨bits (spareBits (u.length + 1)) (s.val % 2 ^ spareBits (u.length + 1)), ?_⟩
    rw [letterBits_concat, bits_eq_append hk, ← List.append_assoc, hwritten]

/-! ### The codec and its bits -/

/-- **The codec is the bit stream.** What is written for octets has as many letters as their bits
need, which is a sixth of the count of bits rounded up, all of them in the alphabet, without equals
signs; and its bits, each letter read as its place in the alphabet, are the bits of the octets, most
significant first, and fewer than six zeros. What an accepted text stands for is as many octets as
its bits fill, and these are the first of its bits. -/
theorem codec_is_bit_stream :
    (∀ bs : Bytes, (encode bs).length = (8 * bs.length + 5) / 6 ∧
      (∀ c ∈ encode bs, c ∈ alphabet ∧ c ≠ '=' ∧ c ≠ '+' ∧ c ≠ '/') ∧
      encode bs = (encodePadded bs).rdropWhile (· == ('=' : CodePoint)) ∧
      ∃ k < 6, letterBits (encode bs) = octetBits bs ++ List.replicate k false) ∧
    (∀ t bs, decode t = .ok bs →
      bs.length = 6 * t.length / 8 ∧
      octetBits bs = (letterBits t).take (8 * (6 * t.length / 8))) := by
  refine ⟨fun bs => ⟨length_encode bs, ?_, (rdropWhile_encodePadded bs).symm, _, spareBits_lt _,
    letterBits_encode bs⟩, fun t bs h => ⟨length_of_decode h, ?_⟩⟩
  · intro c hc
    have hletter := (wellFormed_encode bs).letters c hc
    refine ⟨hletter, ?_, ?_, ?_⟩
    · rintro rfl
      exact notMem_alphabet (.inr (.inl rfl)) hletter
    · rintro rfl
      exact notMem_alphabet (.inr (.inr (.inl rfl))) hletter
    · rintro rfl
      exact notMem_alphabet (.inr (.inr (.inr (.inl rfl)))) hletter
  · rw [← length_of_decode h]
    exact octetBits_of_decode h

/-- The text `_-9` has 18 bits; the two octets that it stands for are the first 16, and what is
written for these two octets has zeros in the place of the last two. -/
theorem codec_is_bit_stream_two_octets :
    decode (Text.ofString "_-9") = .ok [0xFF, 0xEF] ∧
    letterBits (Text.ofString "_-9") = octetBits [0xFF, 0xEF] ++ [false, true] ∧
    octetBits [0xFF, 0xEF] = (letterBits (Text.ofString "_-9")).take 16 ∧
    (encode [0xFF, 0xEF]).length = 3 ∧
    ∃ k < 6,
      letterBits (encode [0xFF, 0xEF]) = octetBits [0xFF, 0xEF] ++ List.replicate k false := by
  have hd : decode (Text.ofString "_-9") = .ok [0xFF, 0xEF] := by decide +kernel
  obtain ⟨hwrite, hread⟩ := codec_is_bit_stream
  exact ⟨hd, by decide +kernel, (hread _ _ hd).2, (hwrite _).1, (hwrite _).2.2.2⟩

end Base64Url

end TokenSeal
