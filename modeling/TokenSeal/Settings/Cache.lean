import TokenSeal.Fault
import TokenSeal.Key
import TokenSeal.Settings.Load

/-!
# Cached settings

A program loads its settings once and keeps them. The cache is filled by the first load that
succeeds, and from then on answers without looking at the system, until it is cleared. A load that
fails leaves it empty. A `Run` is a sequence of changes to the system and uses of the cache.
-/

namespace TokenSeal.Settings

/-- The system as it is, and the settings that were loaded from it, if any. -/
structure Cache where
  system : System := {}
  loaded : Option Settings := none

namespace Cache

/-- The settings in use: those loaded before, or else a fresh load, which is kept if it
succeeds. -/
def current (c : Cache) : Except (List Problem) Settings × Cache :=
  match c.loaded with
  | some s => (.ok s, c)
  | none =>
    match c.system.load with
    | .ok s => (.ok s, { c with loaded := some s })
    | .error ps => (.error ps, c)

/-- A change of the system or a use of the cache. -/
inductive Step
  | setVariable (name value : Text)
  | unsetVariable (name : Text)
  /-- A new text for the settings file, or its removal. -/
  | replaceFile (text : Option (List Char))
  | clear
  | get
  /-- Signing with the key of the settings in use. -/
  | sign (header claims : Value)

/-- What a step gives. -/
inductive Result
  | nothing
  | settings (s : Settings)
  | signature (t : Text)

/-- Performs a step. -/
def perform (c : Cache) : Step → Except Fault Result × Cache
  | .setVariable name value =>
    (.ok .nothing,
      { c with system.environment := c.system.environment.set name value })
  | .unsetVariable name =>
    (.ok .nothing, { c with system.environment := c.system.environment.erase name })
  | .replaceFile text => (.ok .nothing, { c with system.file := text })
  | .clear => (.ok .nothing, { c with loaded := none })
  | .get =>
    match c.current with
    | (.ok s, c) => (.ok (.settings s), c)
    | (.error ps, c) => (.error (.settings ps), c)
  | .sign header claims =>
    match c.current with
    | (.ok s, c) =>
      ((((Key.ofSettings s).bind fun k => k.sign header claims).map .signature).mapError .signing,
        c)
    | (.error ps, c) => (.error (.settings ps), c)

/-- Performs all steps. -/
def run (c : Cache) : List Step → List (Except Fault Result) × Cache
  | [] => ([], c)
  | step :: steps =>
    let (outcome, c) := c.perform step
    let (outcomes, c) := c.run steps
    (outcome :: outcomes, c)

end Cache

end TokenSeal.Settings
