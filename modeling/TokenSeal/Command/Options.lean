import TokenSeal.Algorithm
import TokenSeal.Text.Quoted

/-!
# Command-line arguments

An option has a long name and mostly a one-letter name. Its value is attached (`--name=value`,
`-nvalue`) or is the next argument, whatever that looks like. `--` ends the options. Where options
and other arguments may not be mixed, the first other argument ends them too. `Given` is what a list
of arguments says; `Request` and `Verification` are what the commands make of it.
-/

namespace TokenSeal.Command

/-- An option of some command. -/
inductive Opt
  | header
  | claims
  | signature
  | algorithm
  | secret
  | help
  deriving DecidableEq, Repr

namespace Opt

/-- The long name. -/
def long : Opt → String
  | .header => "--header"
  | .claims => "--claims"
  | .signature => "--signature"
  | .algorithm => "--alg"
  | .secret => "--secret"
  | .help => "--help"

/-- The letter of the short name. -/
def letter? : Opt → Option Char
  | .header => some 'H'
  | .claims => some 'c'
  | .signature => some 's'
  | .algorithm => some 'a'
  | .secret => some 'k'
  | .help => none

/-- Whether the option has a value. -/
def takesValue (o : Opt) : Bool := o != .help

/-- Both names, as messages give them. -/
def bothNames (o : Opt) : String :=
  match o.letter? with
  | some c => "'" ++ o.long ++ "' / '-" ++ String.singleton c ++ "'"
  | none => "'" ++ o.long ++ "'"

end Opt

/-- How a command is used wrongly. -/
inductive UsageError
  | missingCommand
  | unknownCommand (name : Text)
  | unknownOption (name : Text)
  | missingValue (name : Text)
  | needlessValue (name : Text)
  | invalidAlgorithm (name : Text)
  | missingOption (o : Opt)
  | extraArguments (arguments : List Text)
  deriving DecidableEq, Repr

namespace UsageError

/-- The algorithm names, quoted, as a list to choose from. -/
def choices : String :=
  ", ".intercalate (Algorithm.all.map fun a => "'" ++ a.name ++ "'")

/-- The wording of each error. -/
def message : UsageError → String
  | .missingCommand => "Missing command."
  | .unknownCommand name => "No such command " ++ Quoted.text name ++ "."
  | .unknownOption name => "No such option " ++ Quoted.text name ++ "."
  | .missingValue name => "Option " ++ Quoted.text name ++ " requires an argument."
  | .needlessValue name => "Option " ++ Quoted.text name ++ " does not take a value."
  | .invalidAlgorithm name =>
    "Invalid value for " ++ Opt.algorithm.bothNames ++ ": " ++ Quoted.text name ++
      " is not one of " ++ choices ++ "."
  | .missingOption o => "Missing option " ++ o.bothNames ++ "."
  | .extraArguments arguments =>
    "Got unexpected extra argument" ++ (if arguments.length = 1 then "" else "s") ++ " (" ++
      " ".intercalate (arguments.map Quoted.visible) ++ ")"

end UsageError

/-! ### Reading arguments -/

/-- What one argument says about an option. -/
inductive Reading
  | help
  /-- An option with its value. -/
  | attached (o : Opt) (value : Text)
  /-- An option, by the name used, whose value comes next. -/
  | awaiting (o : Opt) (name : Text)

/-- A hyphen. -/
def hyphen : CodePoint := CodePoint.ofChar '-'

/-- Whether an argument has the form of an option. -/
def isOption : Text → Bool
  | c :: _ :: _ => c == hyphen
  | _ => false

/-- An argument of one hyphen and a letter, perhaps with a value behind the letter. -/
def readShort (options : List Opt) (letter : CodePoint) (attached : Text) :
    Except UsageError Reading :=
  match options.find? fun o => o.letter?.map CodePoint.ofChar == some letter with
  | none => .error (.unknownOption [hyphen, letter])
  | some o =>
    match attached with
    | [] => .ok (.awaiting o [hyphen, letter])
    | _ :: _ => .ok (.attached o attached)

/-- An argument that has the form of an option, read as a long name first. -/
def readOption (options : List Opt) (argument : Text) : Except UsageError Reading :=
  let name := argument.takeWhile fun c => c != CodePoint.ofChar '='
  let value := argument.dropWhile fun c => c != CodePoint.ofChar '='
  match options.find? fun o => Text.ofString o.long == name with
  | some o =>
    match o.takesValue, value with
    | true, [] => .ok (.awaiting o name)
    | true, _ :: value => .ok (.attached o value)
    | false, [] => .ok .help
    | false, _ :: _ => .error (.needlessValue name)
  | none =>
    match argument with
    | _ :: c :: attached =>
      if c = hyphen then .error (.unknownOption name) else readShort options c attached
    | _ => .error (.unknownOption name)

/-- What a list of arguments says. -/
structure Given where
  help : Bool := false
  /-- Options with their values, in order. -/
  values : List (Opt × Text) := []
  /-- The arguments that belong to no option. -/
  others : List Text := []

/-- Reads arguments for a command with these options. `mixed` says whether options may follow other
arguments. -/
def read (options : List Opt) (mixed : Bool) : List Text → Except UsageError Given
  | [] => .ok {}
  | argument :: rest =>
    if argument = [hyphen, hyphen] then .ok { others := rest }
    else if isOption argument then
      match readOption options argument with
      | .error e => .error e
      | .ok .help => (read options mixed rest).map fun g => { g with help := true }
      | .ok (.attached o value) =>
        (read options mixed rest).map fun g => { g with values := (o, value) :: g.values }
      | .ok (.awaiting o name) =>
        match rest with
        | [] => .error (.missingValue name)
        | value :: rest =>
          (read options mixed rest).map fun g => { g with values := (o, value) :: g.values }
    else if mixed then
      (read options mixed rest).map fun g => { g with others := argument :: g.others }
    else
      .ok { others := argument :: rest }

namespace Given

/-- The value of an option: the last one given. -/
def value? (g : Given) (o : Opt) : Option Text := g.values.reverse.lookup o

/-- The value of an option that has to be given. -/
def require (g : Given) (o : Opt) : Except UsageError Text :=
  match g.value? o with
  | some value => .ok value
  | none => .error (.missingOption o)

/-- The algorithm, if one is given. -/
def algorithm? (g : Given) : Except UsageError (Option Algorithm) :=
  match g.value? .algorithm with
  | none => .ok none
  | some name =>
    match Algorithm.ofName? name with
    | some a => .ok (some a)
    | none => .error (.invalidAlgorithm name)

/-- No argument may be left over. -/
def noOthers (g : Given) : Except UsageError Unit :=
  match g.others with
  | [] => .ok ()
  | _ :: _ => .error (.extraArguments g.others)

end Given

/-- What a signing command is called with. -/
structure Request where
  header : Text
  claims : Text
  algorithm : Option Algorithm
  secret : Option Text
  deriving DecidableEq

/-- What a verifying command is called with. -/
structure Verification extends Request where
  signature : Text
  deriving DecidableEq

namespace Given

/-- The part that signing and verifying share. A wrong algorithm is reported before a missing
option. -/
def request (g : Given) : Except UsageError Request := do
  let algorithm ← g.algorithm?
  let header ← g.require .header
  let claims ← g.require .claims
  return { header, claims, algorithm, secret := g.value? .secret }

/-- The arguments of the signing command. An argument too many is reported last. -/
def forSign (g : Given) : Except UsageError Request := do
  let request ← g.request
  g.noOthers
  return request

/-- The arguments of the verifying command, in the same order of checks. -/
def forVerify (g : Given) : Except UsageError Verification := do
  let request ← g.request
  let signature ← g.require .signature
  g.noOthers
  return { request with signature }

end Given

end TokenSeal.Command
