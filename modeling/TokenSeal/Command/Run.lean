import TokenSeal.Command.Options
import TokenSeal.Command.Screen
import TokenSeal.Fault
import TokenSeal.Key
import TokenSeal.Log.Line
import TokenSeal.Settings.Load

/-!
# The command line

Three commands: one lists the algorithms, one signs, one verifies. The exit status is 0 for success
and a valid signature, 1 for an invalid signature, and 2 for everything that kept a command from its
work and that the command reports itself. A fault that nothing reports *escapes*; then the status is
1 as well.

Commands take algorithm and secret from their options or else from a `Context`, which comes from
loaded settings or is handed in. `invoke` runs the group of commands in a context; `start` is the
whole program: it loads the settings, sets logging up, and runs the group.
-/

namespace TokenSeal.Command

/-- What nothing reports. -/
inductive Escaped
  | signing (failure : Failure)
  | level (e : Log.LevelError)
  deriving DecidableEq

/-- The wording of each cause. -/
def Escaped.message : Escaped → String
  | .signing failure => failure.message
  | .level e => e.message

/-- What a run of the program leaves behind. -/
structure Outcome where
  status : Nat
  stdout : String := ""
  stderr : String := ""
  escaped : Option Escaped := none
  deriving DecidableEq

/-- The algorithm and the secret that commands fall back on. A context that is handed in need not
come from valid settings, so its algorithm is any value. -/
structure Context where
  algorithm : Value
  secret : Option Text

/-- The context of loaded settings. -/
def Context.ofSettings (s : Settings) : Context :=
  ⟨.text (Text.ofString s.algorithm.name), s.secret⟩

/-- How log lines are written, if logging is set up: the setup and the time to write. -/
abbrev Logging := Option (Log.Setup × String)

/-- The log lines of a journal, each with its newline. -/
def Logging.written (logging : Logging) (journal : Log.Journal) : String :=
  match logging with
  | none => ""
  | some (setup, time) => String.join ((setup.lines time journal).map (· ++ "\n"))

namespace Outcome

/-- A usage error. -/
def ofUsage (e : UsageError) : Outcome :=
  { status := 2, stderr := "Error: " ++ e.message ++ "\n" }

/-- A failed call: signing errors are reported, other faults escape. -/
def ofFailure (f : Failure) : Outcome :=
  match f.errorClass? with
  | some _ => { status := 2, stdout := Screen.paragraph ("Error: " ++ f.message) }
  | none => { status := 1, escaped := some (.signing f) }

/-- Settings that did not pass validation. -/
def ofProblems (ps : List Settings.Problem) : Outcome where
  status := 2
  stdout :=
    "Invalid configuration: " ++ toString ps.length ++ " validation error" ++
      (if ps.length = 1 then "" else "s") ++ " for Settings\n" ++
      String.join (ps.map fun p => p.field.name ++ "\n  " ++ p.cause.message ++ "\n")

/-- There is no secret to sign with. -/
def noSecret : Outcome where
  status := 2
  stdout := Screen.paragraph "No secret given (use --secret or TOKENSIGN_SECRET)"

end Outcome

/-! ### The commands -/

/-- The algorithms in a table. -/
def algorithmsTable : String :=
  Screen.table "Supported Algorithms" ["Algorithm", "Digest", "Signature Bytes"]
    (Algorithm.all.map fun a => [a.name, a.hashClass.name, toString a.signatureLength])

/-- The key that a command works with. The secret option goes before the context's secret even if it
is empty; no secret and an empty one are reported alike. -/
def buildKey (c : Context) (request : Request) : Except Outcome Key :=
  let algorithm :=
    match request.algorithm with
    | some a => .text (Text.ofString a.name)
    | none => c.algorithm
  match request.secret <|> c.secret with
  | none | some [] => .error .noSecret
  | some secret => (Key.ofAlgorithm algorithm (.text secret)).mapError .ofFailure

/-- Prints the signature of the header and the claims on one line. -/
def sign (c : Context) (request : Request) : Outcome :=
  match buildKey c request with
  | .error outcome => outcome
  | .ok key =>
    match key.sign (.text request.header) (.text request.claims) with
    | .error f => .ofFailure f
    | .ok signature => { status := 0, stdout := Quoted.visible signature ++ "\n" }

/-- Prints whether the signature is valid. -/
def verify (c : Context) (logging : Logging) (request : Verification) : Outcome :=
  match buildKey c request.toRequest with
  | .error outcome => outcome
  | .ok key =>
    match key.verify (.text request.header) (.text request.claims)
        (.text request.signature) [] with
    | (.error f, _) => .ofFailure f
    | (.ok true, _) =>
      { status := 0,
        stdout := Screen.paragraph ("✓ Signature is valid (" ++ key.algorithm.name ++ ")") }
    | (.ok false, journal) =>
      { status := 1,
        stdout := Screen.paragraph ("✗ Signature is invalid (" ++ key.algorithm.name ++ ")"),
        stderr := logging.written journal }

/-- A command of the group. -/
inductive Subcommand
  | algorithms
  | sign
  | verify
  deriving DecidableEq, Repr

namespace Subcommand

/-- All commands. -/
def all : List Subcommand := [.algorithms, .sign, .verify]

/-- The command's name. -/
def name : Subcommand → String
  | .algorithms => "algorithms"
  | .sign => "sign"
  | .verify => "verify"

/-- The command of a name. -/
def ofName? (name : Text) : Option Subcommand := all.find? fun c => Text.ofString c.name == name

/-- The command's options. -/
def options : Subcommand → List Opt
  | .algorithms => [.help]
  | .sign => [.header, .claims, .algorithm, .secret, .help]
  | .verify => [.header, .claims, .signature, .algorithm, .secret, .help]

end Subcommand

/-! ### Help -/

/-- The usage of the group, and its commands. -/
def groupHelp : String :=
  "Usage: tokensign [OPTIONS] COMMAND [ARGS]...\n\nCommands:\n" ++
    String.join (Subcommand.all.map fun c => "  " ++ c.name ++ "\n")

/-- The usage of a command, and its options. -/
def commandHelp (c : Subcommand) : String :=
  "Usage: tokensign " ++ c.name ++ " [OPTIONS]\n\nOptions:\n" ++
    String.join (c.options.map fun o =>
      "  " ++ (match o.letter? with | some l => "-" ++ String.singleton l ++ ", " | none => "") ++
        o.long ++ (if o.takesValue then " TEXT" else "") ++ "\n")

/-! ### The group -/

/-- Runs a command on its arguments. -/
def runCommand (c : Context) (logging : Logging) (command : Subcommand) (arguments : List Text) :
    Outcome :=
  match read command.options true arguments with
  | .error e => .ofUsage e
  | .ok given =>
    if given.help then { status := 0, stdout := commandHelp command }
    else
      match command with
      | .algorithms =>
        match given.noOthers with
        | .error e => .ofUsage e
        | .ok () => { status := 0, stdout := algorithmsTable }
      | .sign =>
        match given.forSign with
        | .error e => .ofUsage e
        | .ok request => sign c request
      | .verify =>
        match given.forVerify with
        | .error e => .ofUsage e
        | .ok request => verify c logging request

/-- What is said of a name that is no command's. A name in the form of an option, which only the end
of options lets through, is read as an option once more. -/
def noCommand (name : Text) (rest : List Text) : Outcome :=
  match read [.help] false (name :: rest) with
  | .error e => .ofUsage e
  | .ok given =>
    if given.help then { status := 0, stdout := groupHelp }
    else .ofUsage (.unknownCommand name)

/-- Runs the group of commands. The context is asked for after the command's name is known and
before the command's own arguments are read. -/
def invoke (context : Except (List Settings.Problem) Context) (logging : Logging)
    (arguments : List Text) : Outcome :=
  if arguments.isEmpty then { status := 2, stderr := groupHelp }
  else
    match read [.help] false arguments with
    | .error e => .ofUsage e
    | .ok given =>
      if given.help then { status := 0, stdout := groupHelp }
      else
        match given.others with
        | [] => .ofUsage .missingCommand
        | name :: rest =>
          match Subcommand.ofName? name with
          | none => noCommand name rest
          | some command =>
            match context with
            | .error ps => .ofProblems ps
            | .ok c => runCommand c logging command rest

/-- Runs the group in the context of settings that are loaded from a system. -/
def invokeIn (system : Settings.System) (arguments : List Text) : Outcome :=
  invoke (system.load.map .ofSettings) none arguments

/-- Runs the whole program as it is started from a shell, on a standard output that is 80 columns
wide and can encode what is printed, the check marks of the verdicts too. Nothing asks for the
completions of a command line (`_TOKENSIGN_COMPLETE` is not set), and no variable of the interpreter
changes how it runs or prints. -/
def start (system : Settings.System) (time : String) (arguments : List Text) : Outcome :=
  match system.load with
  | .error ps => .ofProblems ps
  | .ok settings =>
    match Log.Setup.ofLevel settings.logLevel settings.logJson with
    | .error e => { status := 1, escaped := some (.level e) }
    | .ok setup => invoke (.ok (.ofSettings settings)) (some (setup, time)) arguments

end TokenSeal.Command
