import TokenSeal.Text.Blank

/-!
# Reading a settings file

A settings file is a sequence of bindings `NAME=value`, mostly one a line. A name may stand between
single quotes and may follow the word `export`. A value is bare, which is the rest of its line up to
a comment, or stands between single or double quotes, where it may span lines. `#` starts a comment.
A binding without `=` has no value. Where a binding is malformed, it is dropped and reading goes on
with the next line after the point that was reached.
-/

namespace TokenSeal.EnvFile

/-- A name and its value, if the file gives it one. -/
structure Binding where
  name : List Char
  value : Option (List Char)
  deriving DecidableEq, Repr

/-- Whether a character is white space. -/
def isBlank (c : Char) : Bool := (CodePoint.ofChar c).isBlank

/-- Whether a character is white space within a line. -/
def isInlineBlank (c : Char) : Bool := isBlank c && c != '\n'

/-- A carriage return, alone or before a line feed, counts as a line feed. -/
def unifyNewlines : List Char → List Char
  | [] => []
  | '\r' :: '\n' :: r => '\n' :: unifyNewlines r
  | c :: r => (if c = '\r' then '\n' else c) :: unifyNewlines r

/-! ### Pieces of a binding

A reader takes the text and gives what it read with the text that follows, or, where the text does
not fit, the text from the point reached. -/

/-- What a reader gives. -/
abbrev Reading (α : Type) := Except (List Char) (α × List Char)

/-- The text after the word `export` and the blanks that must follow it, if it starts so. -/
def skipExport (s : List Char) : List Char :=
  match s with
  | 'e' :: 'x' :: 'p' :: 'o' :: 'r' :: 't' :: c :: r =>
    if isInlineBlank c then r.dropWhile isInlineBlank else s
  | _ => s

/-- Whether a bare name can hold a character. -/
def isNameChar (c : Char) : Bool := c != '=' && c != '#' && !isBlank c

/-- A name. At a comment there is none, and nothing is read. -/
def readName (s : List Char) : Reading (Option (List Char)) :=
  match s with
  | '#' :: _ => .ok (none, s)
  | '\'' :: r =>
    match r.takeWhile (· != '\''), r.dropWhile (· != '\'') with
    | c :: name, _ :: rest => .ok (some (c :: name), rest)
    | _, _ => .error s
  | _ =>
    match s.takeWhile isNameChar with
    | [] => .error s
    | c :: name => .ok (some (c :: name), s.dropWhile isNameChar)

/-- The content up to the closing quote, and the text after it. The first quote that does not
follow a backslash closes; where all of them do, the last one closes. `last` is the character
before the text. -/
def readQuoted (quote : Char) : Char → List Char → Option (List Char × List Char)
  | _, [] => none
  | last, c :: r =>
    if c = quote then
      if last = '\\' then
        match readQuoted quote c r with
        | some (content, rest) => some (c :: content, rest)
        | none => some ([], r)
      else
        some ([], r)
    else
      (readQuoted quote c r).map fun p => (c :: p.1, p.2)

/-- The characters that a backslash stands for together with the letter after it, between quotes of
either kind. -/
def escapes (quote c : Char) : Option Char :=
  if c = '\\' ∨ c = '\'' then some c
  else if quote = '\'' then none
  else
    match c with
    | '"' => some '"'
    | 'a' => some '\x07'
    | 'b' => some '\x08'
    | 'f' => some '\x0C'
    | 'n' => some '\n'
    | 'r' => some '\r'
    | 't' => some '\t'
    | 'v' => some '\x0B'
    | _ => none

/-- The content with its escapes replaced. A backslash before any other character stays. -/
def unescape (quote : Char) : List Char → List Char
  | [] => []
  | [c] => [c]
  | c :: d :: r =>
    if c = '\\' then
      match escapes quote d with
      | some e => e :: unescape quote r
      | none => c :: unescape quote (d :: r)
    else
      c :: unescape quote (d :: r)

/-- A line up to a blank that a `#` follows. The blank may be the first character. -/
def beforeComment : List Char → List Char
  | [] => []
  | c :: r => if isBlank c && r.head? == some '#' then [] else c :: beforeComment r

/-- A text without the blanks at both ends. -/
def trim (s : List Char) : List Char :=
  ((s.dropWhile isBlank).reverse.dropWhile isBlank).reverse

/-- The value after `=`: between quotes, or else the rest of the line up to a comment. The blanks
after `=` are enough to start a comment, before which there is an empty value. -/
def readValue (s : List Char) : Reading (List Char) :=
  match s.dropWhile isInlineBlank with
  | c :: r =>
    if c = '\'' ∨ c = '"' then
      match readQuoted c c r with
      | some (content, rest) => .ok (unescape c content, rest)
      | none => .error (c :: r)
    else
      .ok (trim (beforeComment (s.takeWhile (· != '\n'))), s.dropWhile (· != '\n'))
  | [] => .ok ([], [])

/-- The text after a comment, if one comes next. -/
def skipComment (s : List Char) : List Char :=
  match s.dropWhile isInlineBlank with
  | '#' :: r => r.dropWhile (· != '\n')
  | _ => s

/-- The text after the end of the line, which only blanks and a comment may come before. -/
def readEnd (s : List Char) : Except (List Char) (List Char) :=
  match (skipComment s).dropWhile isInlineBlank with
  | [] => .ok []
  | c :: r => if c = '\n' then .ok r else .error (c :: r)

/-- The text after the current line. -/
def skipLine (s : List Char) : List Char := (s.dropWhile (· != '\n')).drop 1

/-- One binding with its line's end, or a comment line, which binds nothing. -/
def readBinding (s : List Char) : Reading (Option Binding) :=
  match readName (skipExport s) with
  | .error reached => .error reached
  | .ok (name, rest) =>
    match rest.dropWhile isInlineBlank with
    | '=' :: r =>
      match readValue r with
      | .error reached => .error reached
      | .ok (value, rest) =>
        match readEnd rest with
        | .error reached => .error reached
        | .ok rest => .ok (name.map (⟨·, some value⟩), rest)
    | rest =>
      match readEnd rest with
      | .error reached => .error reached
      | .ok rest => .ok (name.map (⟨·, none⟩), rest)

/-! ### Every piece leaves less to read -/

theorem length_dropWhile_le (p : Char → Bool) (s : List Char) :
    (s.dropWhile p).length ≤ s.length :=
  (List.dropWhile_sublist p).length_le

theorem length_skipExport_le (s : List Char) : (skipExport s).length ≤ s.length := by
  unfold skipExport
  split
  · next c r =>
    split
    · have := length_dropWhile_le isInlineBlank r
      simp only [List.length_cons]
      omega
    · exact Nat.le_refl _
  · exact Nat.le_refl _

theorem length_skipComment_le (s : List Char) : (skipComment s).length ≤ s.length := by
  unfold skipComment
  split
  · next r h =>
    have h1 := length_dropWhile_le isInlineBlank s
    have h2 := length_dropWhile_le (· != '\n') r
    rw [h] at h1
    simp only [List.length_cons] at h1
    omega
  · exact Nat.le_refl _

/-- The end of a line leaves no more than the comment in front of it did. -/
theorem length_of_readEnd_ok {s rest : List Char} (h : readEnd s = .ok rest) :
    rest.length ≤ (skipComment s).length := by
  unfold readEnd at h
  have h1 := length_dropWhile_le isInlineBlank (skipComment s)
  split at h
  · cases h
    exact Nat.zero_le _
  · next c r he =>
    rw [he] at h1
    split at h <;> cases h
    simp only [List.length_cons] at h1
    omega

theorem length_of_readEnd_error {s reached : List Char} (h : readEnd s = .error reached) :
    reached.length ≤ s.length := by
  unfold readEnd at h
  have h1 := length_dropWhile_le isInlineBlank (skipComment s)
  have h2 := length_skipComment_le s
  split at h
  · cases h
  · next c r he =>
    rw [he] at h1
    split at h <;> cases h
    omega

/-- What is between quotes takes the closing quote with it. -/
theorem length_of_readQuoted {quote last : Char} {s content rest : List Char}
    (h : readQuoted quote last s = some (content, rest)) : rest.length < s.length := by
  induction s generalizing last content with
  | nil => simp [readQuoted] at h
  | cons c r ih =>
    unfold readQuoted at h
    split at h
    · split at h
      · split at h
        · next content' rest' he =>
          cases h
          have := ih he
          simp only [List.length_cons]
          omega
        · cases h
          simp
      · cases h
        simp
    · simp only [Option.map_eq_some_iff] at h
      obtain ⟨p, hp, he⟩ := h
      have hr : readQuoted quote c r = some (p.1, rest) := by rw [hp, ← (Prod.mk.inj he).2]
      have := ih hr
      simp only [List.length_cons]
      omega

/-- A name has at least one character. -/
theorem length_of_readName_some {s name rest : List Char}
    (h : readName s = .ok (some name, rest)) : rest.length < s.length := by
  unfold readName at h
  split at h
  · cases h
  · next r =>
    split at h
    · next c n d rest' _ hd =>
      cases h
      have := length_dropWhile_le (· != '\'') r
      rw [hd] at this
      simp only [List.length_cons] at this ⊢
      omega
    · cases h
  · split at h
    · cases h
    · next c n ht =>
      cases h
      have e := congrArg List.length (List.takeWhile_append_dropWhile (p := isNameChar) (l := s))
      rw [ht] at e
      simp only [List.length_append, List.length_cons] at e
      omega

/-- No name is read at a comment only. -/
theorem eq_of_readName_none {s rest : List Char} (h : readName s = .ok (none, rest)) :
    rest = s ∧ ∃ r, s = '#' :: r := by
  unfold readName at h
  split at h
  · next r => cases h; exact ⟨rfl, r, rfl⟩
  · split at h <;> cases h
  · split at h <;> cases h

/-- A name that does not fit is reported where it starts. -/
theorem eq_of_readName_error {s reached : List Char} (h : readName s = .error reached) :
    reached = s := by
  unfold readName at h
  split at h
  · cases h
  · split at h <;> cases h
    rfl
  · split at h <;> cases h
    rfl

theorem length_of_readValue_ok {s value rest : List Char}
    (h : readValue s = .ok (value, rest)) : rest.length ≤ s.length := by
  unfold readValue at h
  have h1 := length_dropWhile_le isInlineBlank s
  split at h
  · next c r he =>
    rw [he] at h1
    simp only [List.length_cons] at h1
    split at h
    · split at h
      · next content rest' hq =>
        cases h
        have := length_of_readQuoted hq
        omega
      · cases h
    · cases h
      exact length_dropWhile_le _ s
  · cases h
    exact Nat.zero_le _

theorem length_of_readValue_error {s reached : List Char}
    (h : readValue s = .error reached) : reached.length ≤ s.length := by
  unfold readValue at h
  have h1 := length_dropWhile_le isInlineBlank s
  split at h
  · next c r he =>
    rw [he] at h1
    split at h
    · split at h <;> cases h
      exact h1
    · cases h
  · cases h

/-- Every binding uses up some text, which is why reading ends. -/
theorem length_of_readBinding_ok {s rest : List Char} {b : Option Binding}
    (h : readBinding s = .ok (b, rest)) : rest.length < s.length := by
  have h0 := length_skipExport_le s
  unfold readBinding at h
  split at h
  · cases h
  · next name afterName hn =>
    cases name with
    | some name =>
      have h1 := length_of_readName_some hn
      have h2 := length_dropWhile_le isInlineBlank afterName
      split at h
      · next r he =>
        rw [he] at h2
        simp only [List.length_cons] at h2
        split at h
        · cases h
        · next value afterValue hv =>
          have h3 := length_of_readValue_ok hv
          split at h
          · cases h
          · next afterEnd hend =>
            cases h
            have h4 := length_of_readEnd_ok hend
            have h5 := length_skipComment_le afterValue
            omega
      · split at h
        · cases h
        · next afterEnd hend =>
          cases h
          have h4 := length_of_readEnd_ok hend
          have h5 := length_skipComment_le (afterName.dropWhile isInlineBlank)
          omega
    | none =>
      obtain ⟨rfl, r, hr⟩ := eq_of_readName_none hn
      have hd : (skipExport s).dropWhile isInlineBlank = '#' :: r := by rw [hr]; rfl
      rw [hd] at h
      split at h
      · next he => cases he
      · split at h
        · cases h
        · next afterEnd hend =>
          cases h
          have h4 := length_of_readEnd_ok hend
          have h5 : skipComment ('#' :: r) = r.dropWhile (· != '\n') := rfl
          have h6 := length_dropWhile_le (· != '\n') r
          rw [h5] at h4
          rw [hr] at h0
          simp only [List.length_cons] at h0
          omega

/-- A malformed binding leaves off no earlier than it started. -/
theorem length_of_readBinding_error {s reached : List Char}
    (h : readBinding s = .error reached) : reached.length ≤ s.length := by
  have h0 := length_skipExport_le s
  unfold readBinding at h
  split at h
  · next reached' hn =>
    cases h
    rw [eq_of_readName_error hn]
    exact h0
  · next name afterName hn =>
    have h1 : afterName.length ≤ (skipExport s).length := by
      cases name with
      | some name => exact Nat.le_of_lt (length_of_readName_some hn)
      | none => exact Nat.le_of_eq (congrArg List.length (eq_of_readName_none hn).1)
    have h2 := length_dropWhile_le isInlineBlank afterName
    split at h
    · next r he =>
      rw [he] at h2
      simp only [List.length_cons] at h2
      split at h
      · next reached' hv =>
        cases h
        have := length_of_readValue_error hv
        omega
      · next value afterValue hv =>
        have h3 := length_of_readValue_ok hv
        split at h
        · next reached' hend =>
          cases h
          have := length_of_readEnd_error hend
          omega
        · cases h
    · split at h
      · next reached' hend =>
        cases h
        have := length_of_readEnd_error hend
        omega
      · cases h

/-! ### All bindings -/

/-- The bindings of a text, in order. -/
def bindings (s : List Char) : List Binding :=
  match _hs : s.dropWhile isBlank with
  | [] => []
  | c :: r =>
    match _hb : readBinding (c :: r) with
    | .ok (b, rest) => b.toList ++ bindings rest
    | .error reached => bindings (skipLine reached)
termination_by s.length
decreasing_by
  · have h1 := length_dropWhile_le isBlank s
    have h2 := length_of_readBinding_ok _hb
    rw [_hs] at h1
    omega
  · have h1 := length_dropWhile_le isBlank s
    have h2 := length_of_readBinding_error _hb
    have h3 := length_dropWhile_le (· != '\n') reached
    rw [_hs] at h1
    simp only [List.length_cons] at h1 h2
    unfold skipLine
    rw [List.length_drop]
    omega

/-- The bindings of a file: a byte order mark at its start is dropped, and newlines are unified. -/
def read (file : List Char) : List Binding :=
  bindings (unifyNewlines (match file with | '\uFEFF' :: r => r | s => s))

/-- The blank behind `=` starts a comment, and without a blank there is none. -/
example : read "\uFEFFA= # x\nB=#x".toList =
    [⟨['A'], some []⟩, ⟨['B'], some ['#', 'x']⟩] := by
  decide +kernel

end TokenSeal.EnvFile
