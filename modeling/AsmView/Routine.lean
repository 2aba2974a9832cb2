/-
# Function records and metrics

What the analyzer tells about a function as a whole: its name, entry, size and
section, and the five numbers that the charts show.
-/
import AsmView.Address

namespace AsmView

open Text

structure KnownFunction where
  name : String
  entry : Address
  size : UInt64
  sectionName : Option String := none
deriving DecidableEq, Repr

namespace KnownFunction

/-- The address lies in the record's range, which holds at least its entry. -/
def contains (r : KnownFunction) (a : Address) : Bool :=
  match a.distanceFrom? r.entry with
  | some delta => delta < max r.size.toNat 1
  | none => false

/-- The name, with the trimmed section and a colon in front when it is known. -/
def fullName (r : KnownFunction) : String :=
  match r.sectionName with
  | some s => s!"{trim s}:{r.name}"
  | none => r.name

end KnownFunction

/-- The numbers of one function that the charts show. -/
structure Metrics where
  outgoing : UInt64 := 0
  incoming : UInt64 := 0
  complexity : UInt64 := 0
  blocks : UInt64 := 0
  exits : UInt64 := 0
deriving DecidableEq, Repr, Inhabited

namespace Metrics

/-- The numbers with their chart labels, in chart order. -/
def labelled (m : Metrics) : List (String × UInt64) :=
  [("cc", m.complexity), ("calls", m.outgoing), ("blocks", m.blocks), ("xrefs", m.incoming),
    ("exits", m.exits)]

/-- The numbers in chart order. -/
def values (m : Metrics) : List UInt64 :=
  m.labelled.map (·.2)

end Metrics

end AsmView
