import TokenSeal.Failure
import TokenSeal.Settings.Basic

/-!
# Faults

Why a step of a longer run failed: a call failed, settings were invalid, or a name meant no key.
-/

namespace TokenSeal

/-- Why a step failed. -/
inductive Fault
  | signing (failure : Failure)
  | settings (problems : List Settings.Problem)
  | unboundName (name : Text)
  deriving DecidableEq

/-- What each fault is raised as. -/
def Fault.kind : Fault → ErrorKind
  | .signing failure => failure.kind
  | .settings _ => .validation
  | .unboundName _ => .lookup

/-- The wording of each fault. -/
def Fault.message : Fault → String
  | .signing failure => failure.message
  | .settings problems => Settings.problemsMessage problems
  | .unboundName name => Quoted.text name

end TokenSeal
