import TokenSeal.Text.Printable

/-!
# Quoted forms

Messages show a text or a byte sequence between quotes, with escapes, so that the form is printable
and names its content exactly. Single quotes are used unless the content has a single quote and no
double quote. The quote in use and the backslash are escaped by a backslash; tab, line feed and
carriage return have names; every other code point that is not printable is written by number. A
byte sequence is shown the same way with a leading `b`, and only ASCII counts as printable.
-/

namespace TokenSeal

namespace Quoted

/-- `n` in lower-case hexadecimal, with zeros in front up to `width` digits. -/
def hex (width n : Nat) : List Char :=
  let digits := Nat.toDigits 16 n
  List.replicate (width - digits.length) '0' ++ digits

/-- The quote to use for content that has a single quote, or a double quote. -/
def quoteFor (hasSingle hasDouble : Bool) : Char :=
  if hasSingle && !hasDouble then '"' else '\''

/-- The named escapes: the backslash, the quote in use, tab, line feed, carriage return. -/
def named? (quote c : Char) : Option (List Char) :=
  if c = quote ∨ c = '\\' then some ['\\', c]
  else if c = '\t' then some ['\\', 't']
  else if c = '\n' then some ['\\', 'n']
  else if c = '\r' then some ['\\', 'r']
  else none

/-- A code point by number: two digits below U+0100, four below U+10000, else eight. -/
def numbered (n : Nat) : List Char :=
  if n < 0x100 then '\\' :: 'x' :: hex 2 n
  else if n < 0x10000 then '\\' :: 'u' :: hex 4 n
  else '\\' :: 'U' :: hex 8 n

/-- One code point inside quotes. -/
def point (quote : Char) (c : CodePoint) : List Char :=
  match c.toChar? with
  | none => numbered c.val
  | some ch =>
    match named? quote ch with
    | some escaped => escaped
    | none => if c.isPrintable then [ch] else numbered c.val

/-- One byte inside quotes. -/
def octet (quote : Char) (b : UInt8) : List Char :=
  let ch := Char.ofNat b.toNat
  match named? quote ch with
  | some escaped => escaped
  | none => if 0x20 ≤ b ∧ b < 0x7F then [ch] else numbered b.toNat

/-- Content between quotes, each part escaped for the quote that the content calls for. -/
def between {α : Type} [BEq α] (single double : α) (escape : Char → α → List Char) (xs : List α) :
    String :=
  let quote := quoteFor (xs.contains single) (xs.contains double)
  String.ofList (quote :: xs.flatMap (escape quote) ++ [quote])

/-- The quoted form of a text. -/
def text (t : Text) : String :=
  between (CodePoint.ofChar '\'') (CodePoint.ofChar '"') point t

/-- The quoted form of a byte sequence. -/
def bytes (bs : Bytes) : String :=
  "b" ++ between 0x27 0x22 octet bs

/-- A text as a stream shows it: every code point as itself, except that surrogates, which no stream
can carry, are written by number. -/
def visible (t : Text) : String :=
  String.ofList (t.flatMap fun c => match c.toChar? with
    | some ch => [ch]
    | none => numbered c.val)

example : text "it's" = "\"it's\"" := by decide +kernel

example : text [0xDCFF] = "'\\udcff'" := by decide +kernel

example : bytes [0x61, 0x27, 0x5C, 0x0A, 0xFF, 0x00] = "b\"a'\\\\\\n\\xff\\x00\"" := by
  decide +kernel

end Quoted

end TokenSeal
