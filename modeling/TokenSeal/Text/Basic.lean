/-!
# Text

Names, segments and secrets reach the library as sequences of Unicode code points. A sequence may
hold *lone surrogates* (U+D800 to U+DFFF), which no encoding form can carry: undecodable bytes of a
command line or of an environment variable arrive that way. `Text` therefore is a list of code
points, surrogates included, and a text is *scalar* when it holds none. `String`, which cannot hold
a surrogate, is embedded by `Text.ofString`; `Text.toString?` is its partial inverse.
-/

namespace TokenSeal

/-- A Unicode code point, surrogates included. -/
abbrev CodePoint := Fin 0x110000

/-- A sequence of code points. Two neighbouring surrogates stay two surrogates. -/
abbrev Text := List CodePoint

/-- A sequence of octets. -/
abbrev Bytes := List UInt8

namespace CodePoint

theorem toNat_lt (c : Char) : c.toNat < 0x110000 := by
  have h := c.valid
  simp only [UInt32.isValidChar, Nat.isValidChar] at h
  show c.val.toNat < 0x110000
  omega

/-- The code point of a character. -/
def ofChar (c : Char) : CodePoint := ⟨c.toNat, toNat_lt c⟩

instance : Coe Char CodePoint := ⟨ofChar⟩

/-- The code point of a number, counted round past the last one. -/
def ofNat (n : Nat) : CodePoint := Fin.ofNat _ n

/-- Surrogates are the code points that stand for no character. -/
def isSurrogate (c : CodePoint) : Bool := 0xD800 ≤ c.val && c.val ≤ 0xDFFF

/-- The character of a code point that is no surrogate. -/
def toChar? (c : CodePoint) : Option Char :=
  if h : c.val.isValidChar then some (Char.ofNatAux c.val h) else none

@[simp] theorem val_ofNat (n : Nat) : (ofNat n).val = n % 0x110000 := rfl

@[simp] theorem val_ofChar (c : Char) : (ofChar c).val = c.toNat := rfl

theorem isSurrogate_ofChar (c : Char) : isSurrogate (ofChar c) = false := by
  have h := c.valid
  simp only [UInt32.isValidChar, Nat.isValidChar] at h
  have e : c.toNat = c.val.toNat := rfl
  by_cases hd : 0xD800 ≤ c.toNat
  · have : ¬ c.toNat ≤ 0xDFFF := by omega
    simp [isSurrogate, this]
  · simp [isSurrogate, hd]

theorem ofChar_inj {c d : Char} : ofChar c = ofChar d ↔ c = d := by
  constructor
  · intro h
    have hv : (ofChar c).val = (ofChar d).val := by rw [h]
    exact Char.ext (UInt32.toNat_inj.1 hv)
  · rintro rfl
    rfl

end CodePoint

namespace Text

/-- The text of a list of characters. -/
def ofChars (cs : List Char) : Text := cs.map CodePoint.ofChar

/-- The text of a string. -/
def ofString (s : String) : Text := ofChars s.toList

instance : Coe String Text := ⟨ofString⟩

/-- A scalar text holds no surrogate, so it can be encoded. -/
def isScalar (t : Text) : Bool := t.all fun c => !c.isSurrogate

/-- Texts in order: by the first code point in which they differ, a beginning before the whole. -/
def le : Text → Text → Bool
  | [], _ => true
  | _ :: _, [] => false
  | c :: s, d :: t => c.val < d.val || c.val == d.val && le s t

/-- The string of a scalar text. -/
def toString? (t : Text) : Option String := (t.mapM CodePoint.toChar?).map String.ofList

theorem isScalar_ofChars (cs : List Char) : (ofChars cs).isScalar = true := by
  simp [isScalar, ofChars, CodePoint.isSurrogate_ofChar]

@[simp] theorem isScalar_append (s t : Text) :
    isScalar (s ++ t) = (isScalar s && isScalar t) := by
  simp [isScalar]

end Text

end TokenSeal
