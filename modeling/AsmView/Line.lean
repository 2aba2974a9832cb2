/-
# The address of a line

A rendered line of disassembly starts with its address.  Decoration in front of
it, made of words without a letter or digit, is passed over, and so is whatever
follows the digits.
-/
import AsmView.Address
import AsmView.Text.Alphanumeric

namespace AsmView

open Text

/-- The address in a word: the longest run of hexadecimal digits behind the
word's first `0x`. -/
def addressInWord? (word : List Char) : Option Address :=
  match cutAt? ['0', 'x'] word with
  | none => none
  | some (_, rest) =>
    let digits := rest.takeWhile isHexDigit
    if digits.isEmpty then none else Address.ofNat? (numeralValue 16 digits)

def addressOfChars? (cs : List Char) : Option Address :=
  if (dropBlanks cs).head? = some ';' then none
  else match (words cs).find? (·.any isAlphanumeric) with
    | none => none
    | some word => addressInWord? word

/-- The address a rendered line starts with.  Comment lines, lines whose first
word with a letter or digit holds no `0x` followed by a digit, and numbers that do
not fit in 64 bits have none. -/
def lineAddress? (line : String) : Option Address :=
  addressOfChars? line.toList

end AsmView
