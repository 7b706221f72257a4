import TokenSeal.Algorithm
import TokenSeal.Text.Quoted

/-!
# Values

Arguments arrive untyped, and part of the library's contract is which of them it refuses and with
what words. `Value` is such an argument: one of the built-in kinds, a class, or an instance of a
hash class. Messages name its type (`typeName`), say whose member is missing (`owner`) or show it
whole (`shown`). A member of the algorithm enumeration is a text as well, and works wherever a text
works (`asText?`). A class may be asked for what its instances can do; the class of texts can do it
(`textClass`).
-/

namespace TokenSeal

/-- The three containers of octets. -/
inductive BytesKind
  | bytes
  | bytearray
  | memoryview
  deriving DecidableEq, Repr

/-- An argument of any type. -/
inductive Value
  | null
  | bool (b : Bool)
  | int (n : Int)
  /-- A floating-point number, by its shortest decimal form. -/
  | float (decimal : String)
  | text (t : Text)
  | bytes (kind : BytesKind) (content : Bytes)
  | list (items : List Value)
  | tuple (items : List Value)
  /-- Entries in order. -/
  | table (entries : List (Text × Value))
  /-- A member of the algorithm enumeration. -/
  | algorithm (a : Algorithm)
  /-- A class of hash functions. -/
  | hashClass (h : HashClass)
  /-- An instance of a class of hash functions. -/
  | hash (h : HashClass)
  /-- A built-in class, by name. -/
  | builtinClass (name : String)
  deriving Inhabited

/-- The name of the container's type. -/
def BytesKind.typeName : BytesKind → String
  | .bytes => "bytes"
  | .bytearray => "bytearray"
  | .memoryview => "memoryview"

namespace Value

/-- The name of the value's type in messages. -/
def typeName : Value → String
  | .null => "NoneType"
  | .bool _ => "bool"
  | .int _ => "int"
  | .float _ => "float"
  | .text _ => "str"
  | .bytes kind _ => kind.typeName
  | .list _ => "list"
  | .tuple _ => "tuple"
  | .table _ => "dict"
  | .algorithm _ => "AlgorithmType"
  | .hashClass _ => "ABCMeta"
  | .hash h => h.name
  | .builtinClass _ => "type"

/-- The class of texts. -/
def textClass : Value := .builtinClass "str"

/-- How messages call the value where they say what it lacks: a class by its own name, any other
value by its type's. -/
def owner : Value → String
  | .hashClass h => "type object '" ++ h.name ++ "'"
  | .builtinClass name => "type object '" ++ name ++ "'"
  | v => "'" ++ v.typeName ++ "' object"

/-- The text that a value is, if it is one. -/
def asText? : Value → Option Text
  | .text t => some t
  | .algorithm a => some (Text.ofString a.name)
  | _ => none

/-- The octets that a value holds, if it is a container of octets of any kind. -/
def asBytes? : Value → Option Bytes
  | .bytes _ content => some content
  | _ => none

/-- Whether a floating-point number is zero or minus zero. -/
def isZeroDecimal (decimal : String) : Bool := decimal == "0.0" || decimal == "-0.0"

/-- The exponent of a floating-point number, as it is written behind the mantissa. -/
def exponent? : List Char → Option Int
  | [] => some 0
  | 'e' :: '+' :: digits => (String.ofList digits).toInt?
  | _ :: digits => (String.ofList digits).toInt?

/-- The whole number that a floating-point number is, if it is one. -/
def wholeNumber? (decimal : String) : Option Int := do
  let (mantissa, exponent) := decimal.toList.span (· != 'e')
  let (whole, fraction) := mantissa.span (· != '.')
  let digits ← (String.ofList (whole ++ fraction.drop 1)).toInt?
  let places := (← exponent? exponent) - (fraction.drop 1).length
  let scale := Int.pow 10 places.natAbs
  if 0 ≤ places then some (digits * scale)
  else if digits % scale = 0 then some (digits / scale)
  else none

/-- Whether the value counts as true: zeros, empty containers and null do not. -/
def isTruthy : Value → Bool
  | .null => false
  | .bool b => b
  | .int n => n != 0
  | .float decimal => !isZeroDecimal decimal
  | .text t => !t.isEmpty
  | .bytes _ content => !content.isEmpty
  | .list items => !items.isEmpty
  | .tuple items => !items.isEmpty
  | .table entries => !entries.isEmpty
  | .algorithm _ | .hashClass _ | .hash _ | .builtinClass _ => true

/-- A container of octets shown whole. A view shows only that it is one. -/
def shownBytes : BytesKind → Bytes → String
  | .bytes, content => Quoted.bytes content
  | .bytearray, content => "bytearray(" ++ Quoted.bytes content ++ ")"
  | .memoryview, _ => "<memory at 0x0>"

/-- The items of a tuple between parentheses; a comma follows the only item of one. -/
def shownTuple : List String → String
  | [item] => "(" ++ item ++ ",)"
  | items => "(" ++ ", ".intercalate items ++ ")"

mutual

/-- The value shown whole. -/
def shown : Value → String
  | .null => "None"
  | .bool true => "True"
  | .bool false => "False"
  | .int n => toString n
  | .float decimal => decimal
  | .text t => Quoted.text t
  | .bytes kind content => shownBytes kind content
  | .list items => "[" ++ ", ".intercalate (shownAll items) ++ "]"
  | .tuple items => shownTuple (shownAll items)
  | .table entries => "\x7b" ++ ", ".intercalate (shownEntries entries) ++ "\x7d"
  | .algorithm a => "<AlgorithmType." ++ a.name ++ ": '" ++ a.name ++ "'>"
  | .hashClass h => "<class '" ++ h.home ++ "." ++ h.name ++ "'>"
  | .hash h => "<" ++ h.home ++ "." ++ h.name ++ " object at 0x0>"
  | .builtinClass name => "<class '" ++ name ++ "'>"

/-- Several values, each shown whole. -/
def shownAll : List Value → List String
  | [] => []
  | v :: vs => v.shown :: shownAll vs

/-- The entries of a table, each as key, colon, value. -/
def shownEntries : List (Text × Value) → List String
  | [] => []
  | (key, v) :: entries => (Quoted.text key ++ ": " ++ v.shown) :: shownEntries entries

end

end Value

end TokenSeal
