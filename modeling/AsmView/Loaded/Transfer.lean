/-
# Control transfers in plain text

The fallback for lines that belong to no known instruction: the target is read off
the first place in the line that looks like a call or a jump to a number.  Such a
place is `call`, or `j` with one to four lower-case letters behind it, not in the
middle of a word; then blanks; then `0x` or `0X` with hexadecimal digits.
-/
import AsmView.Address
import AsmView.Text.WordCharacter

namespace AsmView.Transfer

open Text

def isLowerLetter (c : Char) : Bool :=
  'a' ≤ c && c ≤ 'z'

/-- What follows a transfer mnemonic that the text starts with. -/
def afterMnemonic? : List Char → Option (List Char)
  | 'c' :: 'a' :: 'l' :: 'l' :: cs => some cs
  | 'j' :: cs =>
    let letters := cs.takeWhile isLowerLetter
    if 1 ≤ letters.length && letters.length ≤ 4 then some (cs.drop letters.length) else none
  | _ => none

/-- The hexadecimal digits behind a `0x` or `0X` that the text starts with, if
there are any. -/
def leadingNumber? : List Char → Option (List Char)
  | '0' :: x :: cs =>
    let digits := cs.takeWhile isHexDigit
    if (x = 'x' || x = 'X') && !digits.isEmpty then some digits else none
  | _ => none

/-- The digits of a transfer that the text starts with. -/
def transferHere? (cs : List Char) : Option (List Char) :=
  match afterMnemonic? cs with
  | some rest =>
    if rest.head?.any isBlank then leadingNumber? (dropBlanks rest) else none
  | none => none

/-- The digits of the first transfer in the text; `inWord` tells whether the
character before the text belongs to a word. -/
def firstTransfer? (inWord : Bool) : List Char → Option (List Char)
  | [] => none
  | c :: cs =>
    match if inWord then none else transferHere? (c :: cs) with
    | some digits => some digits
    | none => firstTransfer? (isWordCharacter c) cs

/-- The target of the first transfer in a line, if it fits in 64 bits. -/
def target? (line : String) : Option Address :=
  (firstTransfer? false line.toList).bind fun digits => Address.ofNat? (numeralValue 16 digits)

end AsmView.Transfer
