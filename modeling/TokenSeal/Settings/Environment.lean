import TokenSeal.Entries
import TokenSeal.Text.Utf8

/-!
# The environment of a process

A system gives a process its environment as one block of octets: records that end in a zero octet,
each a name, an equals sign and a value. Octets that are not UTF-8 come through as surrogates.
-/

namespace TokenSeal.Settings.Environment

/-- The records of a block. Octets after the last zero octet are a record too, unless there are
none. -/
def records : Bytes → List Bytes
  | [] => []
  | b :: r =>
    if b = 0 then [] :: records r
    else
      match records r with
      | [] => [[b]]
      | first :: more => (b :: first) :: more

/-- The name and the value of a record. A record without an equals sign has neither. -/
def entry? (record : Bytes) : Option (Text × Text) :=
  match record.dropWhile (· != 0x3D) with
  | [] => none
  | _ :: value =>
    some (Utf8.decodeEscaped 0 (record.takeWhile (· != 0x3D)), Utf8.decodeEscaped 0 value)

/-- The variables of a block, in order. -/
def ofBlock (block : Bytes) : Entries Text := (records block).filterMap entry?

end TokenSeal.Settings.Environment
