import TokenSeal.Log.Event
import TokenSeal.Log.Level

/-!
# Log lines

An event is written as one line, in one of two forms. The console form has the time, the severity,
the text and the logger in columns, then the fields sorted by name. By default it is coloured by
escape sequences around these parts, which are left out here. The JSON form is an object with the
fields in the order given, then text, logger, severity and time; it is pure ASCII.
-/

namespace TokenSeal.Log

/-! ### JSON -/

namespace Json

/-- A unit of UTF-16 by number. -/
def unit (n : Nat) : List Char := '\\' :: 'u' :: Quoted.hex 4 n

/-- One code point inside a JSON string. -/
def point (c : CodePoint) : List Char :=
  if c = '"' then ['\\', '"']
  else if c = '\\' then ['\\', '\\']
  else if c = '\n' then ['\\', 'n']
  else if c = '\r' then ['\\', 'r']
  else if c = '\t' then ['\\', 't']
  else if c.val = 0x08 then ['\\', 'b']
  else if c.val = 0x0C then ['\\', 'f']
  else if 0x20 ≤ c.val ∧ c.val < 0x7F then [Char.ofNat c.val]
  else if c.val < 0x10000 then unit c.val
  else unit (0xD800 + (c.val - 0x10000) / 0x400) ++ unit (0xDC00 + (c.val - 0x10000) % 0x400)

/-- A text as a JSON string. -/
def text (t : Text) : String := String.ofList ('"' :: t.flatMap point ++ ['"'])

/-- A floating-point number, where the special ones have names of their own. -/
def decimal (d : String) : String :=
  if d = "inf" then "Infinity" else if d = "-inf" then "-Infinity" else if d = "nan" then "NaN"
  else d

/-- Members of an object between braces. -/
def object (members : List String) : String := "\x7b" ++ ", ".intercalate members ++ "\x7d"

/-- Items of an array between brackets. -/
def array (items : List String) : String := "[" ++ ", ".intercalate items ++ "]"

mutual

/-- A value as JSON. What JSON has no form for is written as the string of its shown form. -/
def value : Value → String
  | .null => "null"
  | .bool true => "true"
  | .bool false => "false"
  | .int n => toString n
  | .float d => decimal d
  | .text t => text t
  | .algorithm a => text (Text.ofString a.name)
  | .list items => array (values items)
  | .tuple items => array (values items)
  | .table entries => object (members entries)
  | .bytes kind content => text (Text.ofString (Value.bytes kind content).shown)
  | .hashClass h => text (Text.ofString (Value.hashClass h).shown)
  | .hash h => text (Text.ofString (Value.hash h).shown)
  | .builtinClass name => text (Text.ofString (Value.builtinClass name).shown)

/-- Several values as JSON. -/
def values : List Value → List String
  | [] => []
  | v :: vs => value v :: values vs

/-- The entries of a table as members of an object. -/
def members : List (Text × Value) → List String
  | [] => []
  | (key, v) :: entries => (text key ++ ": " ++ value v) :: members entries

end

end Json

/-! ### The two forms -/

/-- The names that an event's own parts have among its fields. -/
def ownNames : List Text := ["event", "logger", "level", "timestamp"].map Text.ofString

namespace Event

/-- The fields of the event that do not carry the name of one of its own parts. -/
def ownFields (e : Event) : Entries Value := e.fields.filter fun f => !ownNames.contains f.1

/-- The JSON form. A field with the name of one of the event's own parts gives way to that part. -/
def json (time : String) (e : Event) : String :=
  let parts : Entries Value :=
    [(Text.ofString "event", .text e.message), (Text.ofString "logger", .text e.logger),
      (Text.ofString "level", .text (Text.ofString e.severity.name)),
      (Text.ofString "timestamp", .text (Text.ofString time))]
  Json.object (Json.members (parts.foldl (fun t p => Entries.set p.1 p.2 t) e.fields))

/-- A string filled up with spaces on the right. -/
def padded (width : Nat) (s : String) : String :=
  s ++ String.ofList (List.replicate (width - s.length) ' ')

/-- The code points that a bare text on the console must not have. -/
def needsQuotes (t : Text) : Bool :=
  t.any fun c => [' ', '\t', '=', '\r', '\n', '"', '\''].any fun d => c == CodePoint.ofChar d

/-- A field's value on the console: a text as it is, unless it needs quotes. -/
def consoleValue (v : Value) : String :=
  match v.asText? with
  | some t => if needsQuotes t then Quoted.text t else Quoted.visible t
  | none => v.shown

/-- The console form, as it is without the colours in which a terminal gets it. -/
def console (time : String) (e : Event) : String :=
  let fields := e.ownFields.mergeSort fun f g => f.1.le g.1
  " ".intercalate
    ([time, "[" ++ padded 9 e.severity.name ++ "]",
        Quoted.visible (e.message ++ List.replicate (30 - e.message.length) (CodePoint.ofChar ' ')),
        "[" ++ Quoted.visible e.logger ++ "]"] ++
      fields.map fun f => Quoted.visible f.1 ++ "=" ++ consoleValue f.2)

end Event

/-! ### Writing -/

/-- How a program logs: the least rank that it writes, and the form. -/
structure Setup where
  threshold : Nat
  json : Bool
  deriving DecidableEq, Repr

/-- The setup for a level and a choice of form, which counts by its truth. -/
def Setup.ofValues (level json : Value) : Except LevelError Setup :=
  (thresholdOfValue level).map fun least => ⟨least, json.isTruthy⟩

/-- The setup for a level name. -/
def Setup.ofLevel (level : Text) (json : Bool) : Except LevelError Setup :=
  (Log.threshold level).map fun least => ⟨least, json⟩

/-- The line of an event. -/
def Setup.line (setup : Setup) (time : String) (e : Event) : String :=
  if setup.json then e.json time else e.console time

/-- The lines of the events that reach the threshold. -/
def Setup.lines (setup : Setup) (time : String) (journal : Journal) : List String :=
  (journal.filter fun e => setup.threshold ≤ e.severity.rank).map (setup.line time)

end TokenSeal.Log
