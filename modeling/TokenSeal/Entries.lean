import TokenSeal.Text.Case

/-!
# Entries by name

A table of named values that keeps the order in which names first arrived: setting a name again
changes its value and leaves its place. Environments, settings files, arguments and the fields of a
log event are such tables.
-/

namespace TokenSeal

/-- Named values in order of first arrival. -/
abbrev Entries (α : Type) := List (Text × α)

namespace Entries

variable {α : Type}

/-- The value of a name. -/
def get? : Entries α → Text → Option α
  | [], _ => none
  | (n, a) :: es, name => if n = name then some a else get? es name

/-- The table with a value for a name. -/
def set (name : Text) (a : α) : Entries α → Entries α
  | [] => [(name, a)]
  | (n, b) :: es => if n = name then (n, a) :: es else (n, b) :: set name a es

/-- The table without a name. -/
def erase (name : Text) (es : Entries α) : Entries α := es.filter fun e => e.1 != name

/-- The table with all names in lower case. Of names that become one, the last value stays. -/
def foldCase (es : Entries α) : Entries α :=
  es.foldl (fun t e => t.set (e.1.map CodePoint.toLowerAscii) e.2) []

/-- Setting a name changes its value and no other. -/
theorem get?_set (es : Entries α) (name m : Text) (a : α) :
    (es.set name a).get? m = if m = name then some a else es.get? m := by
  induction es with
  | nil => grind [set, get?]
  | cons e es ih => grind [set, get?]

end Entries

end TokenSeal
