/-
# Program images

An image is the program under analysis as plain data: sections, and functions made
of instructions.  Lengths are counted over unbounded numbers; an end that lies
beyond the last address does not exist.
-/
import AsmView.Reference
import AsmView.Text.Blank

namespace AsmView

open Text

/-- A named range of addresses with its permissions. -/
structure Section where
  name : String
  start : Address
  size : UInt64
  perms : String := "r-x"
deriving DecidableEq, Repr

def Section.contains (s : Section) (a : Address) : Bool :=
  match a.distanceFrom? s.start with
  | some delta => delta < s.size.toNat
  | none => false

/-- One instruction: its place, encoding, text, and what is known about it. -/
structure Instruction where
  address : Address
  bytes : String := ""
  text : String
  target : Option Address := none
  comment : Option String := none
  description : Option String := none
deriving DecidableEq, Repr

namespace Instruction

/-- The encoded length in bytes: two hexadecimal digits each, and never zero. -/
def byteLength (i : Instruction) : Nat :=
  max ((i.bytes.toList.filter isHexDigit).length / 2) 1

/-- One past the last byte, as a number. -/
def endNat (i : Instruction) : Nat :=
  i.address.toNat + i.byteLength

/-- One past the last byte, if that is still an address. -/
def end? (i : Instruction) : Option Address :=
  i.address.advance? i.byteLength

/-- The first word of the text. -/
def mnemonic (i : Instruction) : String :=
  String.ofList (firstWord i.text.toList)

/-- Any jump: the mnemonic starts with `j`. -/
def isJump (i : Instruction) : Bool :=
  i.mnemonic.toList.head? = some 'j'

/-- A jump other than `jmp`. -/
def isConditionalJump (i : Instruction) : Bool :=
  i.isJump && i.mnemonic ≠ "jmp"

def isCall (i : Instruction) : Bool :=
  i.mnemonic = "call"

/-- An instruction that leaves the function or stops. -/
def isExit (i : Instruction) : Bool :=
  i.mnemonic ∈ ["ret", "retn", "hlt"]

/-- What a reference made by this instruction does with its target. -/
def refKind (i : Instruction) : ReferenceKind :=
  if i.isCall then .call else if i.isJump then .jump else .data

end Instruction

/-- A function: its name, what other tools made of it, and its instructions. -/
structure Routine where
  name : String
  decompiled : String := ""
  graph : String := ""
  instructions : List Instruction
deriving DecidableEq, Repr

namespace Routine

def start? (f : Routine) : Option Address :=
  f.instructions.head?.map (·.address)

/-- One past the last byte of the last instruction. -/
def stop? (f : Routine) : Option Address :=
  f.instructions.getLast?.bind (·.end?)

/-- The distance from entry to end; 0 when there is no such range. -/
def size (f : Routine) : Nat :=
  match f.start?, f.stop? with
  | some entry, some stop => (stop.distanceFrom? entry).getD 0
  | _, _ => 0

/-- The address lies between entry and end. -/
def contains (f : Routine) (a : Address) : Bool :=
  match f.start?, f.stop? with
  | some entry, some stop => entry ≤ a && a < stop
  | _, _ => false

end Routine

structure Image where
  name : String
  entry : Option Address := none
  sections : List Section := []
  routines : List Routine
deriving DecidableEq, Repr

end AsmView
