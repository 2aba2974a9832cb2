/-
# Addresses

An address is a 64-bit number.  It is written as `0x` and at least eight
lower-case hexadecimal digits, and read back from hexadecimal digits with or
without `0x` in front.  The text between the blanks decides; a text that is not
an address says why.
-/
import AsmView.Text.Lines
import AsmView.Text.Quoted

namespace AsmView

open Text

/-- A virtual address inside the program under analysis. -/
structure Address where
  value : UInt64
deriving DecidableEq, Hashable, Repr, Inhabited

namespace Address

def toNat (a : Address) : Nat :=
  a.value.toNat

instance : LE Address := ⟨fun a b => a.toNat ≤ b.toNat⟩
instance : LT Address := ⟨fun a b => a.toNat < b.toNat⟩
instance (a b : Address) : Decidable (a ≤ b) := inferInstanceAs (Decidable (a.toNat ≤ b.toNat))
instance (a b : Address) : Decidable (a < b) := inferInstanceAs (Decidable (a.toNat < b.toNat))

/-- The address with a given number, if it fits in 64 bits. -/
def ofNat? (n : Nat) : Option Address :=
  if n < UInt64.size then some ⟨n.toUInt64⟩ else none

/-- The address `delta` bytes further on, if there is one. -/
def advance? (a : Address) (delta : Nat) : Option Address :=
  ofNat? (a.toNat + delta)

/-- How many bytes `a` lies above `base`; nothing when it lies below. -/
def distanceFrom? (a base : Address) : Option Nat :=
  if base ≤ a then some (a.toNat - base.toNat) else none

/-- The fewest digits an address is written with. -/
def digitWidth : Nat := 8

def chars (a : Address) : List Char :=
  '0' :: 'x' :: hexPadded digitWidth a.toNat

/-- A written address: `0x` and at least eight lower-case hexadecimal digits. -/
def text (a : Address) : String :=
  String.ofList a.chars

instance : ToString Address := ⟨text⟩

/-- Why a text is not an address.  All but the first quote the text. -/
inductive Fault where
  | empty
  | missingDigits (text : String)
  | invalidDigit (text : String)
  | overflow (text : String)
deriving DecidableEq, Repr

def Fault.message : Fault → String
  | .empty => "address must not be empty"
  | .missingDigits t => s!"address {quoted t} has no hex digits"
  | .invalidDigit t => s!"address {quoted t} contains a non-hex character"
  | .overflow t => s!"address {quoted t} does not fit in 64 bits"

/-- The text behind a leading `0x` or `0X`; the whole text when there is none. -/
def dropMarker : List Char → List Char
  | '0' :: 'x' :: cs => cs
  | '0' :: 'X' :: cs => cs
  | cs => cs

/-- Reads an address: blanks around it, one optional `0x` or `0X`, and
hexadecimal digits of either case. -/
def parse (s : String) : Except Fault Address :=
  let body := trimBlanks s.toList
  let whole := String.ofList body
  let digits := dropMarker body
  if body.isEmpty then .error .empty
  else if digits.isEmpty then .error (.missingDigits whole)
  else if !digits.all isHexDigit then .error (.invalidDigit whole)
  else match ofNat? (numeralValue 16 digits) with
    | some a => .ok a
    | none => .error (.overflow whole)

/-- The written form of the address that a text denotes. -/
def normalize (s : String) : Except Fault String :=
  (parse s).map text

end Address

end AsmView
