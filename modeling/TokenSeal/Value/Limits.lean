import TokenSeal.Value

/-!
# Limits of shown forms

A platform bounds what it shows. A number may have too many digits, and containers may lie too deep
within each other for the stack that a call finds. A value is shown part by part (`Value.parts`),
and the first part that goes beyond a limit keeps the whole from being shown (`Value.obstacle?`); a
value without such a part is shown as `Value.shown` has it (`Value.shownWithin_eq_ok_iff`).
-/

namespace TokenSeal

/-- What a platform shows at most. -/
structure Limits where
  /-- The digits of a number, its sign not counted. Zero sets no limit. -/
  digits : Nat := 4300
  /-- The containers that a part may lie in. The default is what a stack of 1000 calls leaves to a
  call from a program's outermost code; what showing a member of an enumeration takes of the stack
  by itself is not counted. -/
  depth : Nat := 992

/-- What keeps a value from being shown. -/
inductive Obstacle
  /-- A number has more digits than this. -/
  | tooManyDigits (limit : Nat)
  /-- A part lies in too many containers. -/
  | tooDeep
  deriving DecidableEq, Repr

/-- The wording of each obstacle. -/
def Obstacle.message : Obstacle → String
  | .tooManyDigits limit =>
    "Exceeds the limit (" ++ toString limit ++ " digits) for integer string conversion; " ++
      "use sys.set_int_max_str_digits() to increase the limit"
  | .tooDeep => "maximum recursion depth exceeded while getting the repr of an object"

namespace Value

mutual

/-- The value and all values inside of it in the order in which they are shown, each with how many
containers it lies in, of which `depth` are around the whole. -/
def parts (depth : Nat) : Value → List (Nat × Value)
  | .list items => (depth, .list items) :: partsOfAll (depth + 1) items
  | .tuple items => (depth, .tuple items) :: partsOfAll (depth + 1) items
  | .table entries => (depth, .table entries) :: partsOfEntries (depth + 1) entries
  | v => [(depth, v)]

/-- The parts of several values. -/
def partsOfAll (depth : Nat) : List Value → List (Nat × Value)
  | [] => []
  | v :: vs => v.parts depth ++ partsOfAll depth vs

/-- The parts of the entries of a table, of which the keys are parts as well. -/
def partsOfEntries (depth : Nat) : List (Text × Value) → List (Nat × Value)
  | [] => []
  | (key, v) :: entries => (depth, .text key) :: v.parts depth ++ partsOfEntries depth entries

end

/-- The decimal digits of a number. -/
def digitCount (n : Int) : Nat := (Nat.toDigits 10 n.natAbs).length

/-- What a part is an obstacle by, if it is one: its place, or else its digits. -/
def obstacleAt? (limits : Limits) : Nat × Value → Option Obstacle
  | (depth, part) =>
    if limits.depth < depth then some .tooDeep
    else
      match part with
      | .int n =>
        if limits.digits ≠ 0 ∧ limits.digits < digitCount n then
          some (.tooManyDigits limits.digits)
        else none
      | _ => none

/-- What is met first that keeps the value from being shown. -/
def obstacle? (limits : Limits) (v : Value) : Option Obstacle :=
  (v.parts 0).findSome? (obstacleAt? limits)

/-- The value shown whole, on a platform of these limits. -/
def shownWithin (limits : Limits) (v : Value) : Except Obstacle String :=
  match v.obstacle? limits with
  | some obstacle => .error obstacle
  | none => .ok v.shown

/-- A part is no obstacle if it lies in few enough containers and, if it is a number, has few enough
digits. -/
theorem obstacleAt?_eq_none_iff {limits : Limits} {part : Nat × Value} :
    obstacleAt? limits part = none ↔
      part.1 ≤ limits.depth ∧
        ∀ n, part.2 = .int n → limits.digits = 0 ∨ digitCount n ≤ limits.digits := by
  obtain ⟨depth, v⟩ := part
  unfold obstacleAt?
  by_cases hdepth : limits.depth < depth
  · have hne : ¬ depth ≤ limits.depth := by omega
    simp [hdepth, hne]
  · cases v with
    | int n =>
      have hdigits : (limits.digits = 0 ∨ digitCount n ≤ limits.digits) ↔
          ¬ (limits.digits ≠ 0 ∧ limits.digits < digitCount n) := by
        omega
      simp [hdepth, Nat.not_lt.1 hdepth, hdigits]
    | _ => simp [hdepth, Nat.not_lt.1 hdepth]

/-- **What is shown.** A value is shown whole iff none of its parts goes beyond a limit. -/
theorem shownWithin_eq_ok_iff {limits : Limits} {v : Value} {form : String} :
    v.shownWithin limits = .ok form ↔
      (∀ part ∈ v.parts 0, part.1 ≤ limits.depth ∧
        ∀ n, part.2 = .int n → limits.digits = 0 ∨ digitCount n ≤ limits.digits) ∧
      form = v.shown := by
  have hnone : v.obstacle? limits = none ↔
      ∀ part ∈ v.parts 0, obstacleAt? limits part = none := List.findSome?_eq_none_iff
  simp only [← obstacleAt?_eq_none_iff, ← hnone]
  unfold shownWithin
  cases v.obstacle? limits with
  | some obstacle => simp
  | none => simp [eq_comm]

/-- A number with too many digits is not shown. -/
theorem shownWithin_int_of_lt {limits : Limits} {n : Int} (hlimit : limits.digits ≠ 0)
    (h : limits.digits < digitCount n) :
    (Value.int n).shownWithin limits = .error (.tooManyDigits limits.digits) := by
  simp [shownWithin, obstacle?, parts, obstacleAt?, hlimit, h]

/-- A number that is too long hides a part that lies too deep behind it. -/
example : (Value.list [.int 1000, .list [.list [.null]]]).shownWithin ⟨3, 2⟩ =
    .error (.tooManyDigits 3) ∧
    (Value.list [.int (-999), .list [.list [.null]]]).shownWithin ⟨3, 2⟩ = .error .tooDeep ∧
    (Value.list [.int (-999), .list [.list []]]).shownWithin ⟨3, 2⟩ = .ok "[-999, [[]]]" :=
  ⟨rfl, rfl, rfl⟩

end Value

end TokenSeal
