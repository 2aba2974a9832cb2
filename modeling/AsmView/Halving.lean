/-
# Searching by halves

In a list whose low elements stand in front and whose high elements stand behind, a place
is found by halving the part that is still open.  The search looks at as many elements as
the length of the list tells, never stopping early, so of several elements that meet what
is looked for it finds the last.
-/

namespace AsmView.Halving

variable {α : Type}

/-- Where the search goes on that looks at the element in the middle: in front of an element
that lies too high, and from any other on. -/
def step (order : α → Ordering) (xs : List α) (base middle : Nat) : Nat :=
  if xs[middle]?.any (order · = .gt) then base else middle

/-- Halves `size` places from `base` on until one is left. -/
def settle (order : α → Ordering) (xs : List α) (base size : Nat) : Nat :=
  if size ≤ 1 then base
  else settle order xs (step order xs base (base + size / 2)) (size - size / 2)
termination_by size

/-- The place of an element that meets what is looked for, or else the place where such an
element would be put in. -/
def locate (order : α → Ordering) (xs : List α) : Except Nat Nat :=
  let base := settle order xs 0 xs.length
  match xs[base]?.map order with
  | some .eq => .ok base
  | some .lt => .error (base + 1)
  | some .gt => .error base
  | none => .error 0

def find? (order : α → Ordering) (xs : List α) : Option α :=
  match locate order xs with
  | .ok k => xs[k]?
  | .error _ => none

/-- How many elements stand in front of the first that is not low. -/
def boundary (low : α → Bool) (xs : List α) : Nat :=
  match locate (fun x => if low x then .lt else .gt) xs with
  | .ok k => k
  | .error k => k

end AsmView.Halving
