import TokenSeal.Command.Run
import TokenSeal.Log.Timestamp
import TokenSeal.Settings.Environment

/-!
# The program

Collects what a run depends on (the arguments, the environment, the settings file of the working
directory, the time), hands it to `Command.start`, and shows what comes back. Nothing is decided
here.
-/

namespace TokenSeal.Main

/-- The variables that settings are read from, by name, for systems that show no environment as a
whole. -/
def knownVariables : IO (Entries Text) :=
  [Settings.Field.algorithm, .secret, .logLevel, .logJson].filterMapM fun f => do
    let name := ("tokensign_" ++ f.name).toUpper
    return (← IO.getEnv name).map fun value => (Text.ofString name, Text.ofString value)

/-- The environment, from the block that the system shows of it. -/
def environment : IO (Entries Text) := do
  match ← (IO.FS.readBinFile "/proc/self/environ").toBaseIO with
  | .ok block => return Settings.Environment.ofBlock block.toList
  | .error _ => knownVariables

/-- The text of the settings file, if there is one. -/
def settingsFile : IO (Option (List Char)) := do
  match ← (IO.FS.readFile ".env").toBaseIO with
  | .ok text => return some text.toList
  | .error (.noFileOrDirectory ..) => return none
  | .error e => throw e

/-- The time, as the system dates the running process. -/
def time : IO Log.Timestamp := do
  match ← (do (← IO.FS.realPath "/proc/self").metadata).toBaseIO with
  | .ok data =>
    return ⟨data.modified.sec.toNat, data.modified.nsec.toNat / 1000⟩
  | .error _ => return ⟨0, 0⟩

end TokenSeal.Main

/-- Runs the program on the arguments of the command line. -/
def main (arguments : List String) : IO UInt32 := do
  let system : TokenSeal.Settings.System :=
    { environment := ← TokenSeal.Main.environment, file := ← TokenSeal.Main.settingsFile }
  let time := (← TokenSeal.Main.time).iso
  let outcome :=
    TokenSeal.Command.start system time (arguments.map TokenSeal.Text.ofString)
  IO.print outcome.stdout
  IO.eprint outcome.stderr
  match outcome.escaped with
  | some fault => IO.eprintln fault.message
  | none => pure ()
  return outcome.status.toUInt32
