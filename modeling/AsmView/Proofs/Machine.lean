/-
# Results that fit

A checked result is the exact one or none at all, and there is none just if the exact one does
not fit.  A cast to a signed number keeps what is signed already, and takes an unsigned number
beyond those to a negative one.
-/
import AsmView.Machine

namespace AsmView.Machine

theorem two_mul_signedEnd : 2 * signedEnd = UInt64.size := rfl

theorem word?_of_lt {n : Nat} (h : n < UInt64.size) : word? n = some n :=
  if_pos h

theorem word?_eq_none_iff {n : Nat} : word? n = none ↔ UInt64.size ≤ n := by
  simp [word?]

theorem signed?_of_fits {i : Int} (low : -signedEnd ≤ i) (high : i < signedEnd) :
    signed? i = some i :=
  if_pos ⟨low, high⟩

theorem signed?_of_ge {i : Int} (h : signedEnd ≤ i) : signed? i = none :=
  if_neg fun fits => by omega

theorem toSigned_of_lt {n : Nat} (h : n < signedEnd) : toSigned n = n :=
  if_pos h

theorem toSigned_of_ge {n : Nat} (h : signedEnd ≤ n) : toSigned n = n - UInt64.size :=
  if_neg (Nat.not_lt.mpr h)

end AsmView.Machine
