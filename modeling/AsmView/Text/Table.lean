/-
# Character sets by their boundaries

A set of characters is kept as the ascending list of the code points at which
membership changes: the first number opens the set, the second closes it, and
so on.  A character belongs to the set when an odd number of boundaries lie at
or below it.
-/

namespace AsmView.Text

/-- Membership in the set whose ascending boundaries are given. -/
def withinBounds (bounds : List Nat) (c : Char) : Bool :=
  (bounds.takeWhile (· ≤ c.toNat)).length % 2 == 1

end AsmView.Text
