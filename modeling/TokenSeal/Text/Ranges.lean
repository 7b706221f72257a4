import TokenSeal.Text.Basic

/-!
# Classes of code points

A class that the Unicode tables fix is carried as a list of closed ranges, ascending and apart.
-/

namespace TokenSeal

/-- A class of code points as closed ranges, ascending and apart. -/
abbrev Ranges := List (Nat × Nat)

namespace Ranges

/-- Membership of a code point. -/
def contains (rs : Ranges) (c : CodePoint) : Bool :=
  rs.any fun r => r.1 ≤ c.val && c.val ≤ r.2

/-- The ranges ascend, and no two touch. -/
def ascending : Ranges → Bool
  | [] => true
  | [r] => r.1 ≤ r.2
  | r :: s :: t => r.1 ≤ r.2 && r.2 < s.1 && ascending (s :: t)

end Ranges

end TokenSeal
