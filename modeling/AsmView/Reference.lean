/-
# References

A reference leads from one address to another.  Seen from a function it is
outgoing or incoming; a list of references shows the end that lies elsewhere.
-/
import AsmView.Address

namespace AsmView

/-- What a reference does with its target. -/
inductive ReferenceKind where
  | call
  | jump
  | data
deriving DecidableEq, Repr, Inhabited

def ReferenceKind.name : ReferenceKind → String
  | .call => "call"
  | .jump => "jump"
  | .data => "data"

structure Reference where
  source : Address
  target : Address
  kind : ReferenceKind := .call
deriving DecidableEq, Repr

/-- Which side of the focused function a list of references describes. -/
inductive Direction where
  | outgoing
  | incoming
deriving DecidableEq, Repr

def Direction.name : Direction → String
  | .outgoing => "outgoing"
  | .incoming => "incoming"

/-- Reads a direction by its name or one of two short names, exactly as written. -/
def Direction.parse? : String → Option Direction
  | "outgoing" | "out" | "from" => some .outgoing
  | "incoming" | "in" | "to" => some .incoming
  | _ => none

/-- What is said of a text that names no direction. -/
def Direction.faultMessage : String :=
  "invalid reference direction (expected `outgoing` or `incoming`)"

/-- The end a list shows: the target of an outgoing reference, the source of an
incoming one. -/
def Reference.shownEnd (r : Reference) : Direction → Address
  | .outgoing => r.target
  | .incoming => r.source

end AsmView
