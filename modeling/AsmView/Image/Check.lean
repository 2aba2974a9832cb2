/-
# The image law

An image is well formed when every function has a name, the instructions of a
function do not overlap and ascend, the functions do not overlap each other, and
the entry lies in one of them.  The check reports the first breach it meets.
-/
import AsmView.Image

namespace AsmView.Image

open Text

/-- A breach of the image law. -/
inductive Breach where
  | unnamed
  | instructionOverlap (at_ : Address) (function : String) (next : Address)
  | functionOverlap (first second : String)
  | strayEntry (entry : Address)
deriving DecidableEq, Repr

def Breach.message : Breach → String
  | .unnamed => "function with empty name"
  | .instructionOverlap a f n => s!"instruction {a} in {f} overlaps {n}"
  | .functionOverlap f g => s!"functions {f} and {g} overlap"
  | .strayEntry a => s!"entry {a} is not inside any function"

/-- The first instruction that does not end at or before the next one's address. -/
def overlappingPair? : List Instruction → Option (Instruction × Instruction)
  | i :: j :: rest =>
    if i.end?.any (· ≤ j.address) then overlappingPair? (j :: rest) else some (i, j)
  | _ => none

/-- What is wrong with a function on its own. -/
def routineBreach? (f : Routine) : Option Breach :=
  if isBlankText f.name then some .unnamed
  else (overlappingPair? f.instructions).map fun (i, j) =>
    .instructionOverlap i.address f.name j.address

/-- The range of a function, with its name. -/
structure Span where
  start : Address
  stop : Address
  name : String

/-- The ranges of the functions that have one. -/
def spans (routines : List Routine) : List Span :=
  routines.filterMap fun f =>
    match f.start?, f.stop? with
    | some start, some stop => some ⟨start, stop, f.name⟩
    | _, _ => none

/-- The ranges by start; equal starts keep their order. -/
def sortedSpans (routines : List Routine) : List Span :=
  (spans routines).mergeSort fun r s => r.start ≤ s.start

/-- The first of several sorted ranges that reaches into the next. -/
def overlappingSpans? : List Span → Option Breach
  | r :: s :: rest =>
    if s.start < r.stop then some (.functionOverlap r.name s.name)
    else overlappingSpans? (s :: rest)
  | _ => none

/-- The entry, if it is given and lies in no function. -/
def strayEntryBreach? (img : Image) : Option Breach :=
  match img.entry with
  | some e => if img.routines.any (·.contains e) then none else some (.strayEntry e)
  | none => none

/-- The first breach of the image law. -/
def breach? (img : Image) : Option Breach :=
  (img.routines.findSome? routineBreach?).or
    ((overlappingSpans? (sortedSpans img.routines)).or (strayEntryBreach? img))

end AsmView.Image
