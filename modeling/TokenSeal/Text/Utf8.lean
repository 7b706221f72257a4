import TokenSeal.Text.Basic

/-!
# UTF-8

The encoding form of RFC 3629. A text is encoded code point by code point; surrogates have no
encoding, so `encode` reports the first run of them instead. `decode?` reads bytes back and accepts
well-formed sequences only: shortest forms, no surrogate, nothing past U+10FFFF. Each sequence it
accepts is checked against the encoder, so that what it reads is what would have been written.
`decodeEscaped` reads any bytes: those that nothing could have written become surrogates, which is
how surrogates come into a text in the first place.
-/

namespace TokenSeal

namespace CodePoint

/-- The UTF-8 bytes of a code point that is no surrogate. -/
def utf8 (c : CodePoint) : Bytes :=
  if c.val < 0x80 then
    [.ofNat c.val]
  else if c.val < 0x800 then
    [.ofNat (0xC0 + c.val / 0x40), .ofNat (0x80 + c.val % 0x40)]
  else if c.val < 0x10000 then
    [.ofNat (0xE0 + c.val / 0x1000), .ofNat (0x80 + c.val / 0x40 % 0x40),
      .ofNat (0x80 + c.val % 0x40)]
  else
    [.ofNat (0xF0 + c.val / 0x40000), .ofNat (0x80 + c.val / 0x1000 % 0x40),
      .ofNat (0x80 + c.val / 0x40 % 0x40), .ofNat (0x80 + c.val % 0x40)]

end CodePoint

/-- A maximal run of surrogates in a text. -/
structure SurrogateRun where
  /-- How many code points come before the run. -/
  start : Nat
  /-- The run's first surrogate. -/
  first : CodePoint
  /-- How many surrogates the run has. -/
  length : Nat
  deriving DecidableEq, Repr

namespace Utf8

/-- The first run of surrogates, if the text holds any. -/
def firstSurrogateRun (t : Text) : Option SurrogateRun :=
  match t.dropWhile fun c => !c.isSurrogate with
  | [] => none
  | c :: r =>
    some ⟨(t.takeWhile fun c => !c.isSurrogate).length, c,
      (r.takeWhile CodePoint.isSurrogate).length + 1⟩

/-- The UTF-8 bytes of a scalar text, or the run of surrogates that stands in the way. -/
def encode (t : Text) : Except SurrogateRun Bytes :=
  match firstSurrogateRun t with
  | none => .ok (t.flatMap CodePoint.utf8)
  | some run => .error run

/-- A scalar value read from a byte sequence, provided the sequence is its encoding. -/
def point? (value : Nat) (bytes : Bytes) : Option CodePoint :=
  if h : value < 0x110000 then
    let c : CodePoint := ⟨value, h⟩
    if !c.isSurrogate && c.utf8 == bytes then some c else none
  else
    none

/-- The text of a well-formed byte sequence. The first byte tells how many belong to the code
point, and `point?` refuses every group that is not exactly an encoding. -/
def decode? : Bytes → Option Text
  | [] => some []
  | a :: r =>
    if a < 0x80 then do
      return (← point? a.toNat [a]) :: (← decode? r)
    else
      match r with
      | [] => none
      | b :: r =>
        if a < 0xE0 then do
          return (← point? (a.toNat % 0x20 * 0x40 + b.toNat % 0x40) [a, b]) :: (← decode? r)
        else
          match r with
          | [] => none
          | c :: r =>
            if a < 0xF0 then do
              return (← point? ((a.toNat % 0x10 * 0x40 + b.toNat % 0x40) * 0x40 + c.toNat % 0x40)
                [a, b, c]) :: (← decode? r)
            else
              match r with
              | [] => none
              | d :: r => do
                return (← point? (((a.toNat % 0x08 * 0x40 + b.toNat % 0x40) * 0x40
                  + c.toNat % 0x40) * 0x40 + d.toNat % 0x40) [a, b, c, d]) :: (← decode? r)

/-- The code point whose encoding starts a byte sequence. -/
def first? (bs : Bytes) : Option CodePoint :=
  [1, 2, 3, 4].findSome? fun n =>
    match decode? (bs.take n) with
    | some [c] => some c
    | _ => none

/-- The surrogate that stands for an octet outside every encoding. -/
def escapedOctet (b : UInt8) : CodePoint := .ofNat (0xDC00 + b.toNat)

/-- The text of any byte sequence, past the first `skip` octets: what is well formed is decoded,
and each octet that belongs to no encoding becomes a surrogate. -/
def decodeEscaped (skip : Nat) : Bytes → Text
  | [] => []
  | b :: r =>
    match skip with
    | skip + 1 => decodeEscaped skip r
    | 0 =>
      match first? (b :: r) with
      | some c => c :: decodeEscaped (c.utf8.length - 1) r
      | none => escapedOctet b :: decodeEscaped 0 r

/-- A text without a run of surrogates is scalar. -/
theorem firstSurrogateRun_eq_none_iff {t : Text} :
    firstSurrogateRun t = none ↔ t.isScalar = true := by
  have key : ∀ t : Text, t.dropWhile (fun c => !c.isSurrogate) = [] ↔ t.isScalar = true := by
    intro t
    induction t with
    | nil => simp [Text.isScalar]
    | cons c t ih =>
      cases h : c.isSurrogate with
      | false =>
        rw [List.dropWhile_cons_of_pos (by simp [h]), ih]
        simp [Text.isScalar, h]
      | true => simp [Text.isScalar, h]
  rw [← key]
  unfold firstSurrogateRun
  split <;> simp_all

theorem exists_firstSurrogateRun_iff {t : Text} :
    (∃ run, firstSurrogateRun t = some run) ↔ ∃ c ∈ t, c.isSurrogate = true := by
  rw [← Option.isSome_iff_exists, Option.isSome_iff_ne_none, Ne, firstSurrogateRun_eq_none_iff]
  simp [Text.isScalar]

/-- Texts without surrogates are what can be encoded. -/
theorem encode_of_isScalar {t : Text} (h : t.isScalar = true) :
    encode t = .ok (t.flatMap CodePoint.utf8) := by
  simp [encode, firstSurrogateRun_eq_none_iff.2 h]

example : decodeEscaped 0 [0x61, 0xC3, 0xA9, 0xFF, 0xE2, 0x82] =
    [0x61, 0xE9, 0xDCFF, 0xDCE2, 0xDC82] := by decide +kernel

end Utf8

end TokenSeal
