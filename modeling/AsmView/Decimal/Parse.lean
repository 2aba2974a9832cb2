/-
# Reading decimal numbers

A decimal number has an optional sign, digits with an optional point among or around
them, and an optional exponent; infinity and the absence of a number have names,
in either case.  It is read as the nearest binary64 number.
-/
import AsmView.Text.Digits

namespace AsmView.Decimal

open Text

/-- The power of ten in an exponent without its letter: an optional sign and at
least one digit. -/
def exponent? (cs : List Char) : Option Int :=
  let (below, ds) := match cs with
    | '+' :: r => (false, r)
    | '-' :: r => (true, r)
    | r => (false, r)
  if ds.isEmpty || !ds.all isDecimalDigit then none
  else
    let n : Int := numeralValue 10 ds
    some (if below then -n else n)

/-- The nearest number to `digits · 10^exponent`. -/
def nearest (digits : Nat) (exponent : Int) : Float :=
  -- Far outside the range of finite numbers only the direction matters.
  let size : Int := (decimal digits).length + exponent
  if digits = 0 || size < -400 then 0
  else if 400 < size then 1 / 0
  else Float.ofScientific digits (decide (exponent < 0)) exponent.natAbs

def unsigned? (cs : List Char) : Option Float :=
  let lowered := cs.map Char.toLower
  if lowered = ['i', 'n', 'f'] || lowered = "infinity".toList then some (1 / 0)
  else if lowered = ['n', 'a', 'n'] then some (0 / 0)
  else
    let (whole, rest) := cs.span isDecimalDigit
    let (part, rest) := match rest with
      | '.' :: r => r.span isDecimalDigit
      | r => ([], r)
    if whole.isEmpty && part.isEmpty then none
    else
      let digits := numeralValue 10 (whole ++ part)
      match rest with
      | [] => some (nearest digits (-part.length))
      | 'e' :: r | 'E' :: r => (exponent? r).map fun e => nearest digits (e - part.length)
      | _ => none

def parse? : List Char → Option Float
  | '-' :: cs => (unsigned? cs).map (- ·)
  | '+' :: cs => unsigned? cs
  | cs => unsigned? cs

end AsmView.Decimal
