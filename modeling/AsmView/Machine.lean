/-
# Machine numbers

A cast between numbers of 64 bits goes around the corner.  Sums, differences and products do
not: they are checked, and where the result does not fit there is none and the program stops.
-/

namespace AsmView.Machine

/-- The least number that is no signed one any more. -/
def signedEnd : Nat :=
  UInt64.size / 2

def toSigned (n : Nat) : Int :=
  if n < signedEnd then n else n - UInt64.size

def signed? (i : Int) : Option Int :=
  if -signedEnd ≤ i ∧ i < signedEnd then some i else none

def word? (n : Nat) : Option Nat :=
  if n < UInt64.size then some n else none

end AsmView.Machine
