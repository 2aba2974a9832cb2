/-
# Hexadecimal and decimal numerals

Numerals are written with the fewest digits, or padded with zeros to a given
width.  They are read digit by digit; a hexadecimal digit may be of either case.
-/

namespace AsmView.Text

/-- An ASCII hexadecimal digit, of either case. -/
def isHexDigit (c : Char) : Bool :=
  ('0' ≤ c && c ≤ '9') || ('a' ≤ c && c ≤ 'f') || ('A' ≤ c && c ≤ 'F')

/-- An ASCII decimal digit. -/
def isDecimalDigit (c : Char) : Bool :=
  '0' ≤ c && c ≤ '9'

/-- The value of a hexadecimal digit; 0 for any other character. -/
def hexDigitValue (c : Char) : Nat :=
  if '0' ≤ c && c ≤ '9' then c.toNat - '0'.toNat
  else if 'a' ≤ c && c ≤ 'f' then c.toNat - 'a'.toNat + 10
  else if 'A' ≤ c && c ≤ 'F' then c.toNat - 'A'.toNat + 10
  else 0

/-- The number that digits denote in a base, most significant digit first. -/
def numeralValue (base : Nat) (digits : List Char) : Nat :=
  digits.foldl (fun n c => base * n + hexDigitValue c) 0

/-- The hexadecimal numeral of a number, in lower case. -/
def hexNumeral (n : Nat) : List Char :=
  Nat.toDigits 16 n

/-- The hexadecimal numeral of a number, with zeros in front up to `width` digits. -/
def hexPadded (width n : Nat) : List Char :=
  List.replicate (width - (hexNumeral n).length) '0' ++ hexNumeral n

def decimal (n : Nat) : List Char :=
  Nat.toDigits 10 n

/-- The decimal numeral of a number, as a string. -/
def decimalText (n : Nat) : String :=
  String.ofList (decimal n)

/-- The hexadecimal numeral of a number, as a string. -/
def hexText (n : Nat) : String :=
  String.ofList (hexNumeral n)

/-- Why a text is not an unsigned decimal numeral below a limit. -/
inductive CountFault where
  | invalidDigit
  | tooLarge
deriving DecidableEq, Repr

def CountFault.message : CountFault → String
  | .invalidDigit => "invalid digit found in string"
  | .tooLarge => "number too large to fit in target type"

/-- Reads digits below `limit`.  The first thing wrong from the left decides: a
character that is no digit, or the digit at which the number reaches `limit`. -/
def readDigits (limit : Nat) : Nat → List Char → Except CountFault Nat
  | n, [] => .ok n
  | n, c :: cs =>
    if !isDecimalDigit c then .error .invalidDigit
    else
      let m := 10 * n + hexDigitValue c
      if m < limit then readDigits limit m cs else .error .tooLarge

/-- Reads an unsigned decimal numeral below `limit`; a plus sign may stand in
front, and there is at least one digit. -/
def readCount (limit : Nat) (cs : List Char) : Except CountFault Nat :=
  match cs with
  | [] => .error .invalidDigit
  | ['+'] => .error .invalidDigit
  | '+' :: digits => readDigits limit 0 digits
  | digits => readDigits limit 0 digits

end AsmView.Text
