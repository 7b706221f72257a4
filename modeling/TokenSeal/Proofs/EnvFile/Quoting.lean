import Mathlib.Data.List.Infix
import TokenSeal.EnvFile.Interpolation

/-!
# Values between quotes

How to write a value so that a settings file gives it back. Between quotes of either kind it is
enough to put a backslash in front of every backslash and of every quote of that kind (`escape`):
nothing else that the value holds, be it line ends, blanks, comment signs or quotes of the other
kind, has a meaning there. Reading goes in two passes. The first looks for the closing quote and
takes a quote behind a backslash for a part of the value, so it runs past the end of a value that
ends in a backslash, and comes back when no quote is left (`readQuoted_flatMap_escape`). The second
takes the backslashes off again (`unescape_flatMap_escape`).

Two things outside of the quotes keep a value from coming back as it was: carriage returns are line
feeds before anything is read (`unifyNewlines_eq_self`), and references are replaced after
everything is read (`expand_eq_self`).
-/

namespace TokenSeal.EnvFile

/-! ### Writing -/

/-- A character between quotes: a backslash and the quote get a backslash in front. -/
def escape (quote c : Char) : List Char := if c = '\\' ∨ c = quote then ['\\', c] else [c]

/-- A value between quotes. -/
def quoted (quote : Char) (s : List Char) : List Char :=
  quote :: (s.flatMap (escape quote) ++ [quote])

/-- The two quotes that a value may stand between. -/
def IsQuote (c : Char) : Prop := c = '\'' ∨ c = '"'

theorem IsQuote.ne_backslash {quote : Char} (h : IsQuote quote) : '\\' ≠ quote := by
  rcases h with rfl | rfl <;> decide

/-- Escaping puts in backslashes only. -/
theorem mem_escape {quote c d : Char} (h : c ∈ escape quote d) : c = '\\' ∨ c = d := by
  unfold escape at h
  split_ifs at h
  · simpa using h
  · exact .inr (List.mem_singleton.1 h)

/-- Quoting brings no character into a text but quotes and backslashes. -/
theorem mem_quoted {quote c : Char} {s : List Char} (h : c ∈ quoted quote s) :
    c = quote ∨ c = '\\' ∨ c ∈ s := by
  rw [quoted, List.mem_cons, List.mem_append, List.mem_flatMap, List.mem_singleton] at h
  rcases h with h | ⟨d, hd, h⟩ | h
  · exact .inl h
  · rcases mem_escape h with h | rfl
    · exact .inr (.inl h)
    · exact .inr (.inr hd)
  · exact .inl h

/-! ### Reading what was written -/

/-- Without a quote to close it, nothing is read as quoted. -/
theorem readQuoted_of_notMem {quote : Char} {rest : List Char} (h : quote ∉ rest) (last : Char) :
    readQuoted quote last rest = none := by
  induction rest generalizing last with
  | nil => rfl
  | cons c rest ih =>
    rw [List.mem_cons, not_or] at h
    rw [readQuoted, if_neg (Ne.symm h.1), ih h.2]
    rfl

/-- The closing quote is found, whatever comes before it: if it follows a backslash, it is passed at
first, and is the closing one since no other quote follows. -/
theorem readQuoted_flatMap_escape {quote : Char} (hquote : IsQuote quote) {rest : List Char}
    (hrest : quote ∉ rest) (s : List Char) (last : Char) :
    readQuoted quote last (s.flatMap (escape quote) ++ quote :: rest) =
      some (s.flatMap (escape quote), rest) := by
  induction s generalizing last with
  | nil =>
    rw [List.flatMap_nil, List.nil_append, readQuoted, if_pos rfl, readQuoted_of_notMem hrest]
    exact ite_self _
  | cons c s ih =>
    rw [List.flatMap_cons, List.append_assoc]
    by_cases hc : c = '\\' ∨ c = quote
    · rw [escape, if_pos hc]
      -- behind its backslash a quote is passed, since the rest holds one more
      show readQuoted quote last ('\\' :: c :: (s.flatMap (escape quote) ++ quote :: rest)) =
        some ('\\' :: c :: s.flatMap (escape quote), rest)
      rw [readQuoted, if_neg hquote.ne_backslash, readQuoted]
      by_cases hq : c = quote
      · rw [if_pos hq, if_pos rfl, ih]
        rfl
      · rw [if_neg hq, ih]
        rfl
    · rw [escape, if_neg hc]
      show readQuoted quote last (c :: (s.flatMap (escape quote) ++ quote :: rest)) =
        some (c :: s.flatMap (escape quote), rest)
      rw [readQuoted, if_neg (not_or.1 hc).2, ih]
      rfl

/-- Both characters that are escaped stand for themselves behind a backslash. -/
theorem escapes_of_escaped {quote c : Char} (hquote : IsQuote quote)
    (hc : c = '\\' ∨ c = quote) : escapes quote c = some c := by
  rcases hquote with rfl | rfl <;> rcases hc with rfl | rfl <;> decide

theorem unescape_cons {quote c : Char} (hc : c ≠ '\\') (s : List Char) :
    unescape quote (c :: s) = c :: unescape quote s := by
  cases s with
  | nil => rfl
  | cons d s => rw [unescape, if_neg hc]

/-- **Unquoting undoes quoting.** -/
theorem unescape_flatMap_escape {quote : Char} (hquote : IsQuote quote) (s : List Char) :
    unescape quote (s.flatMap (escape quote)) = s := by
  induction s with
  | nil => rfl
  | cons c s ih =>
    rw [List.flatMap_cons, escape]
    by_cases hc : c = '\\' ∨ c = quote
    · rw [if_pos hc]
      show unescape quote ('\\' :: c :: s.flatMap (escape quote)) = c :: s
      rw [unescape, if_pos rfl, escapes_of_escaped hquote hc, ih]
    · rw [if_neg hc, List.singleton_append, unescape_cons (not_or.1 hc).1, ih]

theorem isInlineBlank_of_isQuote {quote : Char} (h : IsQuote quote) :
    isInlineBlank quote = false := by
  rcases h with rfl | rfl <;> decide

/-- A value between quotes is read as it was before it was quoted. -/
theorem readValue_quoted {quote : Char} (hquote : IsQuote quote) {rest : List Char}
    (hrest : quote ∉ rest) (s : List Char) :
    readValue (quoted quote s ++ rest) = .ok (s, rest) := by
  have hread := readQuoted_flatMap_escape hquote hrest s quote
  have htext : quoted quote s ++ rest =
      quote :: (s.flatMap (escape quote) ++ quote :: rest) := by
    simp [quoted]
  rw [htext, readValue,
    List.dropWhile_cons_of_neg (by simp [isInlineBlank_of_isQuote hquote])]
  dsimp only
  rw [if_pos (show quote = '\'' ∨ quote = '"' from hquote), hread]
  dsimp only
  rw [unescape_flatMap_escape hquote]

/-! ### Before and after reading -/

/-- A text without carriage returns is not changed before it is read. -/
theorem unifyNewlines_eq_self {s : List Char} (h : '\r' ∉ s) : unifyNewlines s = s := by
  induction s with
  | nil => rfl
  | cons c s ih =>
    rw [List.mem_cons, not_or] at h
    rw [unifyNewlines.eq_def]
    split
    · next heq => cases heq
    · next heq =>
      cases heq
      exact absurd rfl h.1
    · next heq =>
      cases heq
      rw [if_neg (Ne.symm h.1), ih h.2]

/-- A value in which no reference opens is not changed after it is read. -/
theorem expand_eq_self (lookup : Reference → Text) {s : List Char}
    (h : ¬ ['$', '{'] <:+: s) : expand lookup s = Text.ofChars s := by
  induction s with
  | nil => rw [expand.eq_def]; rfl
  | cons c s ih =>
    have hs : ¬ ['$', '{'] <:+: s := fun hin => h (hin.trans (List.suffix_cons c s).isInfix)
    rw [expand.eq_def]
    split
    · next heq => cases heq
    · next r heq =>
      refine absurd ?_ h
      rw [heq]
      exact ⟨[], r, rfl⟩
    · next heq =>
      cases heq
      rw [ih hs]
      rfl

/-! ### A binding -/

/-- A name that is read as it stands: it needs no quotes, and its first character cannot be taken
for the start of something else, be it a quote, the word `export` or a byte order mark. -/
structure PlainName (name : List Char) : Prop where
  chars : ∀ c ∈ name, isNameChar c = true
  head : ∃ c r, name = c :: r ∧ c ∉ ['\'', 'e', '\uFEFF']

theorem skipExport_cons {c : Char} (hc : c ≠ 'e') (s : List Char) :
    skipExport (c :: s) = c :: s := by
  unfold skipExport
  split
  · next heq =>
    cases heq
    exact absurd rfl hc
  · rfl

/-- A plain name ends at the equals sign. -/
theorem readName_append {name : List Char} (h : PlainName name) (rest : List Char) :
    readName (skipExport (name ++ '=' :: rest)) = .ok (some name, '=' :: rest) := by
  have htake : (name ++ '=' :: rest).takeWhile isNameChar = name := by
    rw [List.takeWhile_append_of_pos h.chars, List.takeWhile_cons_of_neg (by decide),
      List.append_nil]
  have hdrop : (name ++ '=' :: rest).dropWhile isNameChar = '=' :: rest := by
    rw [List.dropWhile_append_of_pos h.chars, List.dropWhile_cons_of_neg (by decide)]
  obtain ⟨c, r, rfl, hc⟩ := h.head
  rw [List.mem_cons, List.mem_cons, not_or, not_or] at hc
  rw [List.cons_append] at htake hdrop ⊢
  rw [skipExport_cons hc.2.1, readName.eq_def]
  split
  · next heq =>
    -- a comment sign is no part of a name
    cases heq
    exact absurd (h.chars '#' List.mem_cons_self) (by decide)
  · next heq =>
    cases heq
    exact absurd rfl hc.1
  · rw [htake, hdrop]

/-- What may follow the closing quote: the end of the line, or of the file. -/
def IsLineEnd (s : List Char) : Prop := s = [] ∨ s = ['\n']

theorem IsLineEnd.readEnd_eq {s : List Char} (h : IsLineEnd s) : readEnd s = .ok [] := by
  rcases h with rfl | rfl <;> rfl

theorem IsQuote.notMem_lineEnd {quote : Char} (h : IsQuote quote) {s : List Char}
    (hs : IsLineEnd s) : quote ∉ s := by
  rcases hs with rfl | rfl
  · exact List.not_mem_nil
  · rcases h with rfl | rfl <;> decide

/-- The text of one binding, its value between quotes. -/
def quotedBinding (name : List Char) (quote : Char) (s : List Char) : List Char :=
  name ++ '=' :: quoted quote s

theorem quotedBinding_append (name : List Char) (quote : Char) (s lineEnd : List Char) :
    quotedBinding name quote s ++ lineEnd = name ++ '=' :: (quoted quote s ++ lineEnd) := by
  simp [quotedBinding]

variable {name : List Char} {quote : Char} {lineEnd : List Char}

/-- **A quoted binding is read back as it was.** -/
theorem readBinding_quotedBinding (hname : PlainName name) (hquote : IsQuote quote)
    (hend : IsLineEnd lineEnd) (s : List Char) :
    readBinding (quotedBinding name quote s ++ lineEnd) = .ok (some ⟨name, some s⟩, []) := by
  have hvalue := readValue_quoted hquote (hquote.notMem_lineEnd hend) s
  rw [quotedBinding_append, readBinding, readName_append hname]
  dsimp only
  rw [List.dropWhile_cons_of_neg (by decide)]
  simp only [hvalue, hend.readEnd_eq, Option.map_some]

/-- A text of one binding between quotes binds that name to that value, and nothing else. -/
theorem bindings_quotedBinding (hname : PlainName name) (hquote : IsQuote quote)
    (hend : IsLineEnd lineEnd) (s : List Char) :
    bindings (quotedBinding name quote s ++ lineEnd) = [⟨name, some s⟩] := by
  have hbinding := readBinding_quotedBinding hname hquote hend s
  have hblank : (quotedBinding name quote s ++ lineEnd).dropWhile isBlank =
      quotedBinding name quote s ++ lineEnd := by
    obtain ⟨c, r, rfl, -⟩ := hname.head
    have hc := hname.chars c List.mem_cons_self
    simp only [isNameChar, Bool.and_eq_true, Bool.not_eq_true'] at hc
    rw [quotedBinding_append, List.cons_append, List.dropWhile_cons_of_neg (by simp [hc.2])]
  rw [bindings.eq_def, hblank]
  split
  · next heq =>
    rw [heq] at hbinding
    cases hbinding
  · next heq =>
    rw [← heq]
    -- the binding is read to the end of the text
    split
    · next hread =>
      rw [hbinding] at hread
      cases hread
      rw [bindings.eq_def]
      rfl
    · next hread =>
      rw [hbinding] at hread
      cases hread

/-! ### A file of one binding -/

/-- A binding has no carriage return but in its text, so unifying newlines changes nothing. -/
theorem notMem_quotedBinding (hname : PlainName name) (hquote : IsQuote quote)
    (hend : IsLineEnd lineEnd) {s : List Char} (hs : '\r' ∉ s) :
    '\r' ∉ quotedBinding name quote s ++ lineEnd := by
  rw [quotedBinding_append, List.mem_append, List.mem_cons, List.mem_append]
  rintro (h | h | h | h)
  · exact absurd (hname.chars '\r' h) (by decide)
  · cases h
  · rcases mem_quoted h with rfl | h | h
    · rcases hquote with h | h <;> cases h
    · cases h
    · exact hs h
  · rcases hend with rfl | rfl
    · cases h
    · simp at h

/-- **Quoting keeps a value.** A file whose one binding is a value between quotes gives its name
that value, whatever the value is, unless it holds a carriage return or opens a reference. -/
theorem values_read_quotedBinding (environment : Entries Text) (hname : PlainName name)
    (hquote : IsQuote quote) (hend : IsLineEnd lineEnd) {s : List Char} (hreturn : '\r' ∉ s)
    (hreference : ¬ ['$', '{'] <:+: s) :
    values environment (read (quotedBinding name quote s ++ lineEnd)) =
      [(Text.ofChars name, some (Text.ofChars s))] := by
  have hread : read (quotedBinding name quote s ++ lineEnd) =
      bindings (unifyNewlines (quotedBinding name quote s ++ lineEnd)) := by
    obtain ⟨c, r, rfl, hc⟩ := hname.head
    unfold read
    split
    · next heq =>
      -- a byte order mark would be dropped, but the name does not start with one
      cases heq
      simp at hc
    · rfl
  rw [hread, unifyNewlines_eq_self (notMem_quotedBinding hname hquote hend hreturn),
    bindings_quotedBinding hname hquote hend]
  show [(Text.ofChars name, some (expand _ s))] = _
  rw [expand_eq_self _ hreference]

end TokenSeal.EnvFile
