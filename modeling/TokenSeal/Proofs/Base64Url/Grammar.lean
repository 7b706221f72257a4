import Mathlib.Data.List.FinRange
import TokenSeal.Base64Url.RoundTrip

/-!
# The texts that encode something

Which texts the decoder accepts, said without the decoder: the letters come from an alphabet of 64,
and the length is one that whole octets can have (`WellFormed`). An accepted text is a list of
sextets under another name, `decode_eq_ok_iff`, so questions about texts become questions about
sextets. A refused text is always refused as an encoding error, whatever else is wrong with a call.
-/

namespace TokenSeal.Base64Url

/-! ### The alphabet -/

/-- The letters in the order of the sextets that they stand for. -/
def alphabet : Text :=
  Text.ofString "ABCDEFGHIJKLMNOPQRSTUVWXYZabcdefghijklmnopqrstuvwxyz0123456789-_"

theorem alphabet_eq : alphabet = (List.finRange 64).map letter := by decide +kernel

/-- The alphabet is the letters of all sextets. -/
theorem mem_alphabet_iff {c : CodePoint} : c ∈ alphabet ↔ ∃ s, letter s = c := by
  simp [alphabet_eq]

/-- Different sextets have different letters. -/
theorem letter_injective : Function.Injective letter := by
  intro s r h
  have hs := sextet?_letter s
  rw [h, sextet?_letter] at hs
  exact (Option.some.inj hs).symm

/-- A text over the alphabet is a list of sextets, letter by letter. -/
theorem exists_sextets_iff {t : Text} :
    (∃ ss : List Sextet, t = ss.map letter) ↔ ∀ c ∈ t, c ∈ alphabet := by
  constructor
  · rintro ⟨ss, rfl⟩ c hc
    obtain ⟨s, -, rfl⟩ := List.mem_map.1 hc
    exact mem_alphabet_iff.2 ⟨s, rfl⟩
  · intro h
    induction t with
    | nil => exact ⟨[], rfl⟩
    | cons c t ih =>
      obtain ⟨s, rfl⟩ := mem_alphabet_iff.1 (h c List.mem_cons_self)
      obtain ⟨ss, rfl⟩ := ih fun d hd => h d (List.mem_cons_of_mem _ hd)
      exact ⟨s :: ss, rfl⟩

/-! ### Accepted and refused texts -/

/-- A text that may encode something: letters of the alphabet, and not one letter past a group of
four, since one sextet holds no octet. -/
structure WellFormed (t : Text) : Prop where
  letters : ∀ c ∈ t, c ∈ alphabet
  length_ne : t.length % 4 ≠ 1

/-- What decodes is letters, as many as octets can need, and decodes to the octets of their
sextets. -/
theorem decode_eq_ok_iff {t : Text} {bs : Bytes} :
    decode t = .ok bs ↔
      ∃ ss : List Sextet, t = ss.map letter ∧ ss.length % 4 ≠ 1 ∧ octets ss = bs := by
  unfold decode
  constructor
  · intro h
    split at h
    · cases h
    · next ss hss =>
      split at h
      · cases h
      · next hl => exact ⟨ss, mapM_sextet?_eq_some_iff.1 hss, hl, Except.ok.inj h⟩
  · rintro ⟨ss, ht, hl, rfl⟩
    rw [mapM_sextet?_eq_some_iff.2 ht]
    dsimp only
    rw [if_neg hl]

/-- The decoder accepts the well-formed texts and no others. -/
theorem exists_decode_eq_ok_iff {t : Text} : (∃ bs, decode t = .ok bs) ↔ WellFormed t := by
  constructor
  · rintro ⟨bs, h⟩
    obtain ⟨ss, rfl, hl, -⟩ := decode_eq_ok_iff.1 h
    exact ⟨exists_sextets_iff.1 ⟨ss, rfl⟩, by simpa using hl⟩
  · rintro ⟨hc, hl⟩
    obtain ⟨ss, rfl⟩ := exists_sextets_iff.2 hc
    exact ⟨octets ss, decode_eq_ok_iff.2 ⟨ss, rfl, by simpa using hl, rfl⟩⟩

/-- A foreign character is reported whatever the length is. -/
theorem decode_of_foreign {t : Text} (h : ∃ c ∈ t, c ∉ alphabet) :
    decode t = .error .foreignCharacter := by
  obtain ⟨c, hc, hforeign⟩ := h
  unfold decode
  cases hm : t.mapM sextet? with
  | none => rfl
  | some ss =>
    exact absurd (exists_sextets_iff.1 ⟨ss, mapM_sextet?_eq_some_iff.1 hm⟩ c hc) hforeign

/-- Of texts over the alphabet, only a remainder of one letter is refused. -/
theorem decode_of_length {t : Text} (h : ∀ c ∈ t, c ∈ alphabet) (hl : t.length % 4 = 1) :
    decode t = .error .impossibleLength := by
  obtain ⟨ss, rfl⟩ := exists_sextets_iff.2 h
  unfold decode
  rw [mapM_sextet?_eq_some_iff.2 rfl]
  dsimp only
  rw [if_pos (by simpa using hl)]

/-- Why the decoder refuses a text. -/
theorem decode_eq_error_iff {t : Text} {e : Failure} :
    decode t = .error e ↔
      ((∃ c ∈ t, c ∉ alphabet) ∧ e = .foreignCharacter) ∨
        ((∀ c ∈ t, c ∈ alphabet) ∧ t.length % 4 = 1 ∧ e = .impossibleLength) := by
  by_cases hc : ∀ c ∈ t, c ∈ alphabet
  · have hforeign : ¬ ∃ c ∈ t, c ∉ alphabet := fun ⟨c, hmem, hn⟩ => hn (hc c hmem)
    by_cases hl : t.length % 4 = 1
    · rw [decode_of_length hc hl]
      constructor
      · intro h
        cases h
        exact .inr ⟨hc, hl, rfl⟩
      · rintro (⟨h, -⟩ | ⟨-, -, rfl⟩)
        · exact absurd h hforeign
        · rfl
    · obtain ⟨bs, hbs⟩ := exists_decode_eq_ok_iff.2 ⟨hc, hl⟩
      simp [hbs, hforeign, hl]
  · have hforeign : ∃ c ∈ t, c ∉ alphabet := by
      push Not at hc
      exact hc
    simp [decode_of_foreign hforeign, hforeign, hc, eq_comm]

/-- What the decoder refuses it refuses as an encoding error. -/
theorem errorClass?_of_decode {t : Text} {e : Failure} (h : decode t = .error e) :
    e.errorClass? = some .encoding := by
  rcases decode_eq_error_iff.1 h with ⟨-, rfl⟩ | ⟨-, -, rfl⟩
  · rfl
  · rfl

/-- A text that is not well formed is refused as a matter of encoding. -/
theorem exists_decode_eq_error {t : Text} (h : ¬ WellFormed t) :
    ∃ e, decode t = .error e ∧ e.errorClass? = some .encoding := by
  cases hd : decode t with
  | ok bs => exact absurd (exists_decode_eq_ok_iff.1 ⟨bs, hd⟩) h
  | error e => exact ⟨e, rfl, errorClass?_of_decode hd⟩

/-! ### Encodings -/

/-- Every encoding is well formed. -/
theorem wellFormed_encode (bs : Bytes) : WellFormed (encode bs) :=
  exists_decode_eq_ok_iff.1 ⟨bs, decode_encode bs⟩

/-- Octets take six bits a letter, the last one rounded up. -/
theorem length_encode (bs : Bytes) : (encode bs).length = (8 * bs.length + 5) / 6 := by
  rw [encode, List.length_map, length_sextets]

/-- Different octets have different encodings. -/
theorem encode_injective : Function.Injective encode := by
  intro bs cs h
  have hb := decode_encode bs
  rw [h, decode_encode] at hb
  exact (Except.ok.inj hb).symm

end TokenSeal.Base64Url
