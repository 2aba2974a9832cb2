/-
# The shortest decimal that reads back

A finite binary64 number is `m · 2^q` for whole `m` and `q`, and a decimal reads
back as it when it lies in the interval of numbers that round to it (ends included
exactly when `m` is even).  For 1, 2, … digits the two neighbours of the number on
the grid of that many digits are tried; the first grid with a neighbour in the
interval gives the digits, the nearer neighbour if both lie in it.  How a number in the
middle of its neighbours is rounded is left to the writer.
-/
import AsmView.Text.Digits

namespace AsmView.Decimal

open Text

/-- `2^e` for a whole `e` that is not negative, else 1. -/
def twoTo (e : Int) : Nat :=
  Nat.pow 2 e.toNat

/-- `10^e` for a whole `e` that is not negative, else 1. -/
def tenTo (e : Int) : Nat :=
  Nat.pow 10 e.toNat

/-- A finite binary64 number without its sign: `significand · 2^exponent`, and
whether it is the least of its binade, so that its lower neighbour is nearer. -/
structure Binary where
  significand : Nat
  exponent : Int
  leastOfBinade : Bool

/-- The magnitude of a finite number, from its bits. -/
def Binary.ofBits (bits : UInt64) : Binary :=
  let n := bits.toNat
  let fraction : Nat := n % twoTo 52
  let biased : Nat := n / twoTo 52 % twoTo 11
  if biased = 0 then ⟨fraction, -1074, false⟩
  else ⟨twoTo 52 + fraction, (biased : Int) - 1075, fraction = 0 && 1 < biased⟩

/-- `count · 2^exponent` as a numerator and a denominator. -/
def asRatio (count : Nat) (exponent : Int) : Nat × Nat :=
  (count * twoTo exponent, twoTo (-exponent))

/-- Decimal digits and a power of ten: `digits · 10^exponent`. -/
structure Scaled where
  digits : Nat
  exponent : Int
deriving Repr

/-- `d · 10^e ≤ n / m`, over whole numbers. -/
def scaledLe (d : Nat) (e : Int) (n m : Nat) : Bool :=
  d * tenTo e * m ≤ n * tenTo (-e)

/-- `n / m ≤ d · 10^e`, over whole numbers. -/
def leScaled (n m : Nat) (d : Nat) (e : Int) : Bool :=
  n * tenTo (-e) ≤ d * tenTo e * m

/-- The least `k`, from the given one on, with `m ≤ n · 10^k`. -/
def leastShift (n m : Nat) : Nat → Nat → Nat
  | 0, k => k
  | fuel + 1, k => if m ≤ n * tenTo k then k else leastShift n m fuel (k + 1)

/-- The power of ten of the leading digit of `n / m`. -/
def leadingPower (n m : Nat) : Int :=
  if m ≤ n then ((decimal (n / m)).length : Int) - 1
  else -(leastShift n m 400 1 : Int)

/-- Where a number in the middle of two neighbours goes. -/
inductive Tie where
  | upper
  /-- To the neighbour whose last digit is even. -/
  | even
deriving DecidableEq, Repr

/-- Whether a number in the middle of `lower` and `lower + 1` goes to the second. -/
def Tie.goesUp (lower : Nat) : Tie → Bool
  | .upper => true
  | .even => lower % 2 == 1

namespace Binary

/-- The grid of the given number of digits, and the neighbour on it that reads back
as `b`, if one does. -/
def onGrid? (b : Binary) (tie : Tie) (digitCount : Nat) : Option Scaled :=
  let unit := b.exponent - 2
  let (n, m) := asRatio (4 * b.significand) unit
  let (lo, _) := asRatio (4 * b.significand - if b.leastOfBinade then 1 else 2) unit
  let (hi, _) := asRatio (4 * b.significand + 2) unit
  let closed := b.significand % 2 == 0
  let e := leadingPower n m - (digitCount - 1)
  let floor := n * tenTo (-e) / (m * tenTo e)
  let inside (d : Nat) : Bool :=
    if closed then leScaled lo m d e && scaledLe d e hi m
    else !scaledLe d e lo m && !leScaled hi m d e
  let toUpper :=
    match compare (2 * (n * tenTo (-e))) ((2 * floor + 1) * (m * tenTo e)) with
    | .lt => false
    | .eq => tie.goesUp floor
    | .gt => true
  match inside floor, inside (floor + 1) with
  | true, true => some ⟨if toUpper then floor + 1 else floor, e⟩
  | true, false => some ⟨floor, e⟩
  | false, true => some ⟨floor + 1, e⟩
  | false, false => none

/-- The first grid with a hit, from `digitCount` digits on. -/
def fromGrid (b : Binary) (tie : Tie) : Nat → Nat → Scaled
  | 0, _ => ⟨b.significand, 0⟩
  | fuel + 1, digitCount =>
    match b.onGrid? tie digitCount with
    | some s => s
    | none => fromGrid b tie fuel (digitCount + 1)

/-- The shortest decimal that reads back as `b`; `0` for zero. -/
def shortest (b : Binary) (tie : Tie) : Scaled :=
  if b.significand = 0 then ⟨0, 0⟩ else b.fromGrid tie 17 1

end Binary

/-- Drops zeros at the end of the digits, each for one power of ten. -/
def Scaled.dropZeros : Nat → Scaled → Scaled
  | 0, s => s
  | fuel + 1, s =>
    if s.digits ≠ 0 && s.digits % 10 == 0 then dropZeros fuel ⟨s.digits / 10, s.exponent + 1⟩
    else s

/-- The shortest digits of a finite number, without zeros at their end. -/
def shortestOf (tie : Tie) (f : Float) : Scaled :=
  ((Binary.ofBits f.toBits).shortest tie).dropZeros 20

def isNegative (f : Float) : Bool :=
  f.toBits ≥ 0x8000000000000000

/-- Digits in positional notation, without a point when there is no fraction. -/
def Scaled.positional (s : Scaled) : List Char :=
  let ds := decimal s.digits
  if 0 ≤ s.exponent then ds ++ List.replicate s.exponent.toNat '0'
  else
    let places := (-s.exponent).toNat
    let ds := List.replicate (places + 1 - ds.length) '0' ++ ds
    ds.take (ds.length - places) ++ '.' :: ds.drop (ds.length - places)

/-- A number in positional notation with the fewest digits that read back, the greater of
two such numbers that are equally near. -/
def plain (f : Float) : String :=
  if f.isNaN then "NaN"
  else
    let sign := if isNegative f then "-" else ""
    if f.isInf then sign ++ "inf"
    else
      let s := shortestOf .upper f
      sign ++ String.ofList (if s.digits = 0 then ['0'] else s.positional)

/-- A finite number with the fewest digits that read back, an even last digit among those
that are equally near: positional with a point for moderate sizes, otherwise with a signed
exponent. -/
def scientific (f : Float) : String :=
  let s := shortestOf .even f
  let ds := decimal s.digits
  let point := ds.length + s.exponent
  let body :=
    if s.digits = 0 then ['0', '.', '0']
    else if 0 ≤ s.exponent && point ≤ 16 then s.positional ++ ['.', '0']
    else if -5 < point && point ≤ 16 then s.positional
    else
      ds.take 1 ++ (if ds.length = 1 then [] else '.' :: ds.drop 1) ++
        'e' :: (if 0 < point then ['+'] else []) ++ (toString (point - 1)).toList
  (if isNegative f then "-" else "") ++ String.ofList body

end AsmView.Decimal
