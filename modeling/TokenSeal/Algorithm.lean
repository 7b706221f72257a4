import TokenSeal.Text.Basic

/-!
# Signature algorithms

The closed set of algorithm tags, in registry order, and the hash classes that they are bound to.
The registry is one list of pairs, read from either side: a tag determines its hash class, and a
hash class determines its tag exactly when it is one of the three. A class of another home or name,
such as one derived from a registered class, is not registered.
-/

namespace TokenSeal

/-- The supported algorithms: HMAC over one of three SHA-2 hashes. -/
inductive Algorithm
  | hs256
  | hs384
  | hs512
  deriving DecidableEq, Repr

/-- A class of hash functions, known by where it is defined and by its name there. -/
structure HashClass where
  home : String
  name : String
  deriving DecidableEq, Repr

namespace HashClass

/-- Where the standard hash classes are defined. -/
def standardHome : String := "cryptography.hazmat.primitives.hashes"

/-- The standard hash class of a name. -/
def standard (name : String) : HashClass := ⟨standardHome, name⟩

end HashClass

namespace Algorithm

/-- All supported algorithms in registry order. -/
def all : List Algorithm := [.hs256, .hs384, .hs512]

/-- The algorithm's tag in a token header. -/
def name : Algorithm → String
  | .hs256 => "HS256"
  | .hs384 => "HS384"
  | .hs512 => "HS512"

/-- The algorithm of a tag. Tags are case-sensitive. -/
def ofName? (name : Text) : Option Algorithm := all.find? fun a => Text.ofString a.name == name

/-- The hash class that the algorithm is bound to. -/
def hashClass : Algorithm → HashClass
  | .hs256 => .standard "SHA256"
  | .hs384 => .standard "SHA384"
  | .hs512 => .standard "SHA512"

/-- The algorithm bound to a hash class, if the class is registered. -/
def ofHashClass? (h : HashClass) : Option Algorithm := all.find? fun a => a.hashClass == h

theorem mem_all (a : Algorithm) : a ∈ all := by cases a <;> decide

/-- The name of an algorithm leads back to it. -/
theorem ofName?_name (a : Algorithm) : ofName? (Text.ofString a.name) = some a := by
  cases a <;> decide

theorem ofName?_eq_some_iff {t : Text} {a : Algorithm} :
    ofName? t = some a ↔ t = Text.ofString a.name := by
  constructor
  · intro h
    have := List.find?_some h
    exact (beq_iff_eq.1 this).symm
  · rintro rfl
    exact ofName?_name a

/-- The hash class of an algorithm leads back to it. -/
theorem ofHashClass?_hashClass (a : Algorithm) : ofHashClass? a.hashClass = some a := by
  cases a <;> decide

theorem ofHashClass?_eq_some_iff {h : HashClass} {a : Algorithm} :
    ofHashClass? h = some a ↔ h = a.hashClass := by
  constructor
  · intro e
    have := List.find?_some e
    exact (beq_iff_eq.1 this).symm
  · rintro rfl
    exact ofHashClass?_hashClass a

end Algorithm

end TokenSeal
