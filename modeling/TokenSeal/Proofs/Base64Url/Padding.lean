import Mathlib.Data.List.DropRight
import TokenSeal.Base64Url.Padded
import TokenSeal.Proofs.Base64Url.SpareBits
import TokenSeal.Text.Blank

/-!
# Nothing is left for the lenient reader to decide

The codec over a platform's padded base64 is the codec. In writing, the equals signs that are taken
off again are all equals signs there are (`rdropWhile_encodePadded`). In reading, a text that has
passed the three checks is letters of the alphabet, filled up to whole groups; the platform's reader
takes each of these letters, skips none, stops at the end and not before, and has nothing to object
to (`Base64.decode_letters`). So neither what it would object to nor what would not reach it can
happen, and a value that is refused is refused by one of the checks
(`decodeThroughPadding_eq_mapError`).
-/

namespace TokenSeal

namespace Base64

/-! ### The reader on letters -/

theorem sextet?_letter (s : Sextet) : sextet? (letter s) = some s := by
  revert s
  decide +kernel

theorem letter_ne_equals (s : Sextet) : letter s ≠ equals := by
  revert s
  decide +kernel

theorem fill_add_four (n : Nat) : fill (n + 4) = fill n := by
  rw [fill, Nat.add_mod_right, ← fill]

namespace Reader

/-- A reader reads the rest of a text whole: it skips nothing, and it comes to the end of the text
at the end of a group. -/
inductive Reads : Reader → Bytes → Bytes → Prop
  | finish {octets : Bytes} {held signs : Nat} : Reads ⟨octets, 0, held, signs⟩ [] octets
  | letter {r : Reader} {s : Sextet} {rest bs : Bytes} (h : Reads (r.take s) rest bs) :
    Reads r (letter s :: rest) bs
  /-- An equals sign that a further one has to follow. -/
  | equals {r : Reader} {rest bs : Bytes} (hplace : 2 ≤ r.place)
    (hopen : r.place.val + (r.equalsSigns + 1) < 4)
    (h : Reads { r with equalsSigns := r.equalsSigns + 1 } rest bs) : Reads r (equals :: rest) bs
  | close {r : Reader} (hplace : 2 ≤ r.place) (hclosed : 4 ≤ r.place.val + (r.equalsSigns + 1)) :
    Reads r [equals] r.octets

/-- What is read whole is accepted. -/
theorem Reads.read_eq {r : Reader} {text bs : Bytes} (h : Reads r text bs) :
    r.read text = .ok bs := by
  induction h with
  | finish => rfl
  | letter h ih =>
    rw [read, if_neg (letter_ne_equals _), sextet?_letter]
    exact ih
  | equals hplace hopen h ih =>
    rw [read, if_pos rfl, if_neg (Fin.not_lt.2 hplace), if_neg (Nat.not_le.2 hopen), ih]
  | close hplace hclosed => rw [read, if_pos rfl, if_neg (Fin.not_lt.2 hplace), if_pos hclosed]

/-- Two letters make an octet and leave four bits. -/
theorem take_two (octets : Bytes) (held signs : Nat) (a b : Sextet) :
    ((Reader.mk octets 0 held signs).take a).take b =
      ⟨octets ++ [.ofNat (a.val * 4 + b.val / 16)], 2, b.val % 16, 0⟩ := rfl

/-- Three letters make two octets and leave two bits. -/
theorem take_three (octets : Bytes) (held signs : Nat) (a b c : Sextet) :
    (((Reader.mk octets 0 held signs).take a).take b).take c =
      ⟨octets ++ [.ofNat (a.val * 4 + b.val / 16), .ofNat (b.val % 16 * 16 + c.val / 4)], 3,
        c.val % 4, 0⟩ := by
  simp [take]

/-- Four letters are three octets, after which the next group starts. -/
theorem take_four (octets : Bytes) (held signs : Nat) (a b c d : Sextet) :
    ((((Reader.mk octets 0 held signs).take a).take b).take c).take d =
      ⟨octets ++ [.ofNat (a.val * 4 + b.val / 16), .ofNat (b.val % 16 * 16 + c.val / 4),
        .ofNat (c.val % 4 * 64 + d.val)], 0, 0, 0⟩ := by
  simp [take]

/-- After three letters of a group, one `=` ends the text. -/
theorem reads_equals_of_three (octets : Bytes) (held : Nat) :
    Reads ⟨octets, 3, held, 0⟩ [equals] octets :=
  .close (show 2 ≤ (3 : Fin 4) by decide) (show 4 ≤ 3 + (0 + 1) by decide)

/-- After two letters of a group, two `=` end the text. -/
theorem reads_equals_of_two (octets : Bytes) (held : Nat) :
    Reads ⟨octets, 2, held, 0⟩ [equals, equals] octets :=
  .equals (show 2 ≤ (2 : Fin 4) by decide) (show 2 + (0 + 1) < 4 by decide)
    (.close (show 2 ≤ (2 : Fin 4) by decide) (show 4 ≤ 2 + (1 + 1) by decide))

/-- A reader at the start of a group reads letters whole, if the equals signs that fill them up come
behind them: they add the octets that they hold. -/
theorem reads_letters (ss : List Sextet) (h : ss.length % 4 ≠ 1) (r : Reader) (hr : r.place = 0) :
    Reads r (ss.map letter ++ List.replicate (fill ss.length) equals)
      (r.octets ++ Base64Url.octets ss) := by
  obtain ⟨octets, place, held, signs⟩ := r
  obtain rfl : place = 0 := hr
  fun_induction Base64Url.octets ss generalizing octets held signs with
  | case1 a b c d ss ih =>
    have hss : ss.length % 4 ≠ 1 := by rwa [← Nat.add_mod_right ss.length 4]
    show Reads _ (letter a :: letter b :: letter c :: letter d ::
      (ss.map letter ++ List.replicate (fill (ss.length + 4)) equals)) _
    refine .letter (.letter (.letter (.letter ?_)))
    have hread := ih hss (octets ++ [.ofNat (a.val * 4 + b.val / 16),
      .ofNat (b.val % 16 * 16 + c.val / 4), .ofNat (c.val % 4 * 64 + d.val)]) 0 0
    rw [List.append_assoc] at hread
    rw [take_four, fill_add_four]
    exact hread
  | case2 a b c =>
    refine .letter (.letter (.letter ?_))
    rw [take_three]
    exact reads_equals_of_three _ _
  | case3 a b =>
    refine .letter (.letter ?_)
    rw [take_two]
    exact reads_equals_of_two _ _
  | case4 ss h4 h3 h2 =>
    -- what is left is no letter at all, or the one letter that no text ends with
    obtain _ | ⟨a, _ | ⟨b, _ | ⟨c, _ | ⟨d, ss⟩⟩⟩⟩ := ss
    · rw [List.append_nil]
      exact .finish
    · exact absurd rfl h
    · exact absurd rfl (h2 a b)
    · exact absurd rfl (h3 a b c)
    · exact absurd rfl (h4 a b c d ss)

end Reader

/-- Letters that are filled up stand for the octets of their sextets. -/
theorem decode_letters (ss : List Sextet) (h : ss.length % 4 ≠ 1) :
    decode (ss.map letter ++ List.replicate (fill ss.length) equals) =
      .ok (Base64Url.octets ss) :=
  (Reader.reads_letters ss h {} rfl).read_eq

end Base64

/-! ### Texts of ASCII -/

theorem Text.ascii?_eq_some {t : Text} (h : ∀ c ∈ t, c.val < 0x80) :
    t.ascii? = some (t.map fun c => .ofNat c.val) := by
  induction t with
  | nil => rfl
  | cons c t ih =>
    have ht := ih fun d hd => h d (List.mem_cons_of_mem _ hd)
    unfold ascii? at ht ⊢
    rw [List.mapM_cons, ht, if_pos (h c List.mem_cons_self)]
    rfl

namespace Base64Url

/-- The check of characters that goes before the reader accepts the alphabet and nothing else. -/
theorem isLetter_iff {c : CodePoint} : isLetter c = true ↔ c ∈ alphabet := by
  rw [mem_alphabet_iff]
  constructor
  · intro h
    obtain ⟨s, hs⟩ : ∃ s, sextet? c = some s := by
      unfold sextet?
      split_ifs <;> simp_all [isLetter]
    exact ⟨s, letter_of_sextet? hs⟩
  · rintro ⟨s, rfl⟩
    revert s
    decide +kernel

theorem letter_lt (s : Sextet) : (letter s).val < 0x80 := by
  revert s
  decide +kernel

/-- The two letters are exchanged and the others stay. -/
theorem standard_letter (s : Sextet) : standard (.ofNat (letter s).val) = Base64.letter s := by
  revert s
  decide +kernel

/-- The table of the standard alphabet, with its last two letters replaced, is the alphabet here. -/
theorem urlSafe_letter (s : Sextet) :
    CodePoint.ofNat (urlSafe (Base64.letter s)).toNat = letter s := by
  revert s
  decide +kernel

/-! ### Writing -/

/-- Padded encodings are those without padding, filled up with `=`. -/
theorem encodePadded_eq (bs : Bytes) :
    encodePadded bs =
      encode bs ++ List.replicate (Base64.fill (encode bs).length) ('=' : CodePoint) := by
  unfold encodePadded Base64.encode encode Text.ofAscii
  simp only [List.map_append, List.map_map, List.map_replicate, List.length_map]
  congr 1
  exact List.map_congr_left fun s _ => urlSafe_letter s

theorem equals_notMem_alphabet : ('=' : CodePoint) ∉ alphabet := by decide +kernel

/-- Without the equals signs at its end, the padded encoding is the encoding. -/
theorem rdropWhile_encodePadded (bs : Bytes) :
    (encodePadded bs).rdropWhile (· == ('=' : CodePoint)) = encode bs := by
  have hkeep : (encode bs).rdropWhile (· == ('=' : CodePoint)) = encode bs := by
    rw [List.rdropWhile_eq_self_iff]
    intro hne
    have hlast := (wellFormed_encode bs).letters _ (List.getLast_mem hne)
    rw [beq_iff_eq]
    intro h
    exact equals_notMem_alphabet (h ▸ hlast)
  rw [encodePadded_eq]
  induction Base64.fill (encode bs).length with
  | zero => rw [List.replicate_zero, List.append_nil, hkeep]
  | succ n ih =>
    rw [List.replicate_succ', ← List.append_assoc, List.rdropWhile_concat_pos _ _ _ (by simp), ih]

/-! ### Reading -/

theorem ascii?_padded (ss : List Sextet) :
    (padded (ss.map letter)).ascii? =
      some ((padded (ss.map letter)).map fun c => .ofNat c.val) := by
  refine Text.ascii?_eq_some fun c hc => ?_
  rcases List.mem_append.1 hc with hc | hc
  · obtain ⟨s, -, rfl⟩ := List.mem_map.1 hc
    exact letter_lt s
  · rw [List.eq_of_mem_replicate hc]
    decide

/-- What reaches the platform's reader is letters, filled up with equals signs. -/
theorem map_standard_padded (ss : List Sextet) :
    ((padded (ss.map letter)).map fun c => UInt8.ofNat c.val).map standard =
      ss.map Base64.letter ++ List.replicate (Base64.fill ss.length) Base64.equals := by
  unfold padded
  simp only [List.map_append, List.map_map, List.map_replicate, List.length_map]
  congr 1
  exact List.map_congr_left fun s _ => standard_letter s

/-- As many letters as octets can need are read as those octets; what the reader could object to
behind the first two checks does not come up. -/
theorem decodePadded_map_letter (ss : List Sextet) (h : ss.length % 4 ≠ 1) :
    decodePadded (ss.map letter) = .ok (octets ss) := by
  rw [decodePadded, ascii?_padded]
  dsimp only
  rw [map_standard_padded, Base64.decode_letters ss h]

theorem length_padded (t : Text) : (padded t).length % 4 = 0 := by
  rw [padded, List.length_append, List.length_replicate, Base64.fill]
  omega

/-- Reading through the platform is reading: it fails as the three checks fail, and in no other
way. -/
theorem decodeThroughPadding_eq_mapError (v : Value) :
    decodeThroughPadding v = (decodeValue v).mapError .failure := by
  unfold decodeThroughPadding decodeValue
  cases v.asText? with
  | none => rfl
  | some t =>
    dsimp only
    by_cases hc : ∀ c ∈ t, c ∈ alphabet
    · have hletters : t.all isLetter = true :=
        List.all_eq_true.2 fun c h => isLetter_iff.2 (hc c h)
      obtain ⟨ss, rfl⟩ := exists_sextets_iff.2 hc
      rw [if_neg (by simp [hletters])]
      by_cases hl : (ss.map letter).length % 4 = 1
      · rw [if_pos hl, decode_of_length hc hl]
        rfl
      · have hss : ss.length % 4 ≠ 1 := by rwa [List.length_map] at hl
        rw [if_neg hl, decodePadded_map_letter ss hss,
          decode_eq_ok_iff.2 ⟨ss, rfl, hss, rfl⟩]
        rfl
    · push Not at hc
      obtain ⟨c, hmem, hforeign⟩ := hc
      have hletters : t.all isLetter = false :=
        List.all_eq_false.2 ⟨c, hmem, fun h => hforeign (isLetter_iff.1 h)⟩
      rw [if_pos hletters, decode_of_foreign ⟨c, hmem, hforeign⟩]
      rfl

/-- A well-formed text, filled up, is read whole: it gets to the reader, the reader skips nothing,
and what it reads is what the text stands for. -/
theorem reads_padded {t : Text} (h : WellFormed t) :
    ∃ octets bs, (padded t).ascii? = some octets ∧
      Base64.Reader.Reads {} (octets.map standard) bs ∧ decode t = .ok bs := by
  obtain ⟨ss, rfl⟩ := exists_sextets_iff.2 h.letters
  have hss : ss.length % 4 ≠ 1 := by simpa using h.length_ne
  refine ⟨_, octets ss, ascii?_padded ss, ?_, decode_eq_ok_iff.2 ⟨ss, rfl, hss, rfl⟩⟩
  rw [map_standard_padded]
  exact Base64.Reader.reads_letters ss hss {} rfl

/-! ### The grammar of values -/

/-- Why a value is refused: it is no text; or it is one with a character outside the alphabet; or
its characters are letters, and one of them stands past the last group of four. -/
inductive Refused (v : Value) : Failure → Prop
  | notText (h : v.asText? = none) : Refused v (.signatureNotText v.typeName)
  | foreignCharacter {t : Text} {c : CodePoint} (ht : v.asText? = some t) (hc : c ∈ t)
    (hforeign : c ∉ alphabet) : Refused v .foreignCharacter
  | impossibleLength {t : Text} (ht : v.asText? = some t) (hletters : ∀ c ∈ t, c ∈ alphabet)
    (hlength : t.length % 4 = 1) : Refused v .impossibleLength

/-- **Why a value is refused.** The reasons are those of `Refused`, each with its error. -/
theorem decodeValue_eq_error_iff {v : Value} {e : Failure} :
    decodeValue v = .error e ↔ Refused v e := by
  constructor
  · intro h
    unfold decodeValue at h
    split at h
    · next t ht =>
      rcases decode_eq_error_iff.1 h with ⟨⟨c, hc, hforeign⟩, rfl⟩ | ⟨hletters, hlength, rfl⟩
      · exact .foreignCharacter ht hc hforeign
      · exact .impossibleLength ht hletters hlength
    · next ht =>
      cases h
      exact .notText ht
  · intro h
    unfold decodeValue
    cases h with
    | notText h => rw [h]
    | foreignCharacter ht hc hforeign =>
      rw [ht]
      exact decode_of_foreign ⟨_, hc, hforeign⟩
    | impossibleLength ht hletters hlength =>
      rw [ht]
      exact decode_of_length hletters hlength

/-- Accepted are the texts of the grammar, and nothing that is no text. -/
theorem exists_decodeValue_eq_ok_iff {v : Value} :
    (∃ bs, decodeValue v = .ok bs) ↔ ∃ t, v.asText? = some t ∧ WellFormed t := by
  unfold decodeValue
  cases v.asText? with
  | none => simp
  | some t => simpa using exists_decode_eq_ok_iff (t := t)

/-- All refusals are of one class. -/
theorem Refused.errorClass? {v : Value} {e : Failure} (h : Refused v e) :
    e.errorClass? = some .encoding := by
  cases h <;> rfl

/-- White space, the equals sign, the two letters of the standard alphabet that are not URL-safe,
and everything that is not ASCII are no letters. -/
theorem notMem_alphabet {c : CodePoint}
    (h : c.isBlank = true ∨ c = '=' ∨ c = '+' ∨ c = '/' ∨ 0x80 ≤ c.val) : c ∉ alphabet := by
  intro hc
  obtain ⟨s, rfl⟩ := mem_alphabet_iff.1 hc
  revert s
  decide +kernel

/-- **The decoder accepts exactly its grammar.** The alphabet has 64 letters, all of them ASCII; a
value is accepted iff it is a text over the alphabet that does not end with one letter past its last
group of four. Otherwise it is refused as an encoding error, for its type, else for a foreign
character wherever that stands, else for its length. Reading by way of padding and a lenient reader
gives the same: nothing is reported that the reader objects to and nothing escapes, since a text
that gets there is filled up to whole groups and is read whole. -/
theorem accepts_exactly_wellFormed :
    (alphabet.length = 64 ∧ alphabet.Nodup ∧ ∀ c, c ∈ alphabet ↔ isLetter c = true) ∧
    (∀ v, (∃ bs, decodeValue v = .ok bs) ↔ ∃ t, v.asText? = some t ∧ WellFormed t) ∧
    (∀ v e, decodeValue v = .error e ↔ Refused v e) ∧
    (∀ v e, decodeValue v = .error e → e.errorClass? = some .encoding) ∧
    (∀ c : CodePoint, c.isBlank = true ∨ c = '=' ∨ c = '+' ∨ c = '/' ∨ 0x80 ≤ c.val →
      ∀ t u, decodeValue (.text (t ++ c :: u)) = .error .foreignCharacter) ∧
    (∀ v, decodeThroughPadding v = (decodeValue v).mapError .failure) ∧
    (∀ v r, decodeThroughPadding v = .error r → ∃ e, r = .failure e) ∧
    (∀ t, (padded t).length % 4 = 0) ∧
    (∀ t, WellFormed t → ∃ octets bs, (padded t).ascii? = some octets ∧
      Base64.Reader.Reads {} (octets.map standard) bs ∧
      Base64.decode (octets.map standard) = .ok bs ∧ decode t = .ok bs) := by
  refine ⟨⟨by decide +kernel, by decide +kernel, fun c => isLetter_iff.symm⟩,
    fun v => exists_decodeValue_eq_ok_iff, fun v e => decodeValue_eq_error_iff, ?_, ?_,
    decodeThroughPadding_eq_mapError, ?_, length_padded, ?_⟩
  · intro v e h
    exact (decodeValue_eq_error_iff.1 h).errorClass?
  · intro c hc t u
    have hmem : c ∈ t ++ c :: u := List.mem_append_right t List.mem_cons_self
    exact decodeValue_eq_error_iff.2 (.foreignCharacter rfl hmem (notMem_alphabet hc))
  · intro v r h
    rw [decodeThroughPadding_eq_mapError] at h
    cases hv : decodeValue v with
    | ok bs =>
      rw [hv] at h
      cases h
    | error e =>
      rw [hv] at h
      cases h
      exact ⟨e, rfl⟩
  · intro t ht
    obtain ⟨octets, bs, hascii, hreads, hdecode⟩ := reads_padded ht
    exact ⟨octets, bs, hascii, hreads, hreads.read_eq, hdecode⟩

/-- `AAF` is accepted and read whole with one equals sign behind it; the same text before a line end
is refused for that character, and before two letters for its length. -/
theorem accepts_exactly_wellFormed_line_end :
    (∃ bs, decodeValue (.text (Text.ofString "AAF")) = .ok bs) ∧
    decodeValue (.text (Text.ofString "AAF\n")) = .error .foreignCharacter ∧
    decodeThroughPadding (.text (Text.ofString "AAFAA")) = .error (.failure .impossibleLength) ∧
    ∃ octets, (padded (Text.ofString "AAF")).ascii? = some octets ∧
      Base64.decode (octets.map standard) = .ok [0, 1] := by
  obtain ⟨-, haccepts, hrefuses, -, hforeign, hthrough, -, -, hwhole⟩ := accepts_exactly_wellFormed
  have hbs : decode (Text.ofString "AAF") = .ok [0, 1] := by decide +kernel
  have hwell : WellFormed (Text.ofString "AAF") := exists_decode_eq_ok_iff.1 ⟨_, hbs⟩
  have hletters : ∀ c ∈ Text.ofString "AAFAA", c ∈ alphabet :=
    exists_sextets_iff.1 ⟨[0, 0, 5, 0, 0], by decide +kernel⟩
  have hlength : decodeValue (.text (Text.ofString "AAFAA")) = .error .impossibleLength :=
    (hrefuses _ _).2 (.impossibleLength rfl hletters rfl)
  refine ⟨(haccepts _).2 ⟨_, rfl, hwell⟩, ?_, ?_, ?_⟩
  · exact hforeign '\n' (.inl (by decide)) (Text.ofString "AAF") []
  · rw [hthrough, hlength]
    rfl
  · obtain ⟨octets, bs, hascii, -, hread, hdecode⟩ := hwhole _ hwell
    rw [hdecode] at hbs
    cases hbs
    exact ⟨octets, hascii, hread⟩

end Base64Url

end TokenSeal
