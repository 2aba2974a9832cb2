/-
# JSON string and number tokens

A string is scanned by a machine that takes one character at a time: inside plain
text, right after a backslash, within the four digits of a code unit, or waiting
for the second half of a surrogate pair.  A number is scanned by its grammar, and its
digits are then read as a 64-bit count, a negative 64-bit integer, or a fraction.

Fractions are read fast rather than exactly: the first digits that fit into 64 bits make
a float, which is multiplied or divided by a power of ten.  Each step rounds, so the
result may be a neighbour of the nearest float.
-/
import AsmView.Json.Fault

namespace AsmView.Json

open Text

/-- Where the scan of a string stands. -/
inductive StringState where
  /-- In plain text. -/
  | plain
  /-- Right after a backslash. -/
  | escape
  /-- In the digits of a code unit, after `high` if that was a leading surrogate. -/
  | unit (high? : Option Nat) (digits value : Nat)
  /-- After a leading surrogate, where the next escape must begin. -/
  | pairing (high : Nat)
  /-- After a leading surrogate and a backslash. -/
  | pairingEscape (high : Nat)

/-- The character of a one-letter escape. -/
def escapeLetter? : Char → Option Char
  | '"' => some '"'
  | '\\' => some '\\'
  | '/' => some '/'
  | 'b' => some '\x08'
  | 'f' => some '\x0c'
  | 'n' => some '\n'
  | 'r' => some '\r'
  | 't' => some '\t'
  | _ => none

/-- The character that a surrogate pair stands for. -/
def ofSurrogates (high low : Nat) : Char :=
  Char.ofNat (0x10000 + 0x400 * (high - 0xd800) + (low - 0xdc00))

/-- Scans a string behind its opening quote, collecting its characters in
reverse.  When `strict` is off the string is only passed over, and the code units
of its escapes need not pair up. -/
def scanString (strict : Bool) :
    StringState → List Char → List Char → Except Fault (String × List Char)
  | _, _, [] => .error (.here .eofInString [])
  | .plain, acc, c :: cs =>
    if c = '"' then .ok (String.ofList acc.reverse, cs)
    else if c = '\\' then scanString strict .escape acc cs
    else if c.toNat < 0x20 then
      .error (.here .controlCharacter (if strict then cs else c :: cs))
    else scanString strict .plain (c :: acc) cs
  | .escape, acc, c :: cs =>
    if c = 'u' then scanString strict (.unit none 0 0) acc cs
    else match escapeLetter? c with
      | some e => scanString strict .plain (e :: acc) cs
      | none => .error (.atNext .invalidEscape (c :: cs))
  | .unit high? digits value, acc, c :: cs =>
    if !isHexDigit c then
      let behind := byteCount (c :: cs) + digits
      if behind < 4 then .error (.here .eofInString [])
      else .error ⟨.invalidEscape, cs, some (behind - 4)⟩
    else
      let value := 16 * value + hexDigitValue c
      if digits < 3 then scanString strict (.unit high? (digits + 1) value) acc cs
      else if !strict then scanString strict .plain acc cs
      else match high? with
        | none =>
          if 0xdc00 ≤ value && value ≤ 0xdfff then .error (.here .loneSurrogate cs)
          else if 0xd800 ≤ value && value ≤ 0xdbff then
            scanString strict (.pairing value) acc cs
          else scanString strict .plain (Char.ofNat value :: acc) cs
        | some high =>
          if 0xdc00 ≤ value && value ≤ 0xdfff then
            scanString strict .plain (ofSurrogates high value :: acc) cs
          else .error (.here .loneSurrogate cs)
  | .pairing high, acc, c :: cs =>
    if c = '\\' then scanString strict (.pairingEscape high) acc cs
    else .error (.atNext .cutHexEscape (c :: cs))
  | .pairingEscape high, acc, c :: cs =>
    if c = 'u' then scanString strict (.unit (some high) 0 0) acc cs
    else .error (.atNext .cutHexEscape (c :: cs))

inductive Number where
  /-- A count below 2⁶⁴. -/
  | count (n : Nat)
  /-- A negative integer, not below −2⁶³; its distance from zero is given. -/
  | negative (n : Nat)
  /-- Any other number. -/
  | fraction (value : Float)

/-- A number without its sign as it is written: the digits before the point and behind
it, and of an exponent whether it is negative, and its digits. -/
structure Numeral where
  whole : List Char
  part : List Char := []
  exponent? : Option (Bool × List Char) := none

/-- Digits from the front, and the rest. -/
def spanDigits (cs : List Char) : List Char × List Char :=
  cs.span isDecimalDigit

/-- The exponent behind its letter. -/
def scanExponent (cs : List Char) : Except Fault ((Bool × List Char) × List Char) :=
  let (below, cs) := match cs with
    | '+' :: r => (false, r)
    | '-' :: r => (true, r)
    | r => (false, r)
  match cs with
  | [] => .error (.here .eofInValue [])
  | c :: _ =>
    if isDecimalDigit c then
      let (ds, rest) := spanDigits cs
      .ok ((below, ds), rest)
    else .error (.atNext .invalidNumber cs)

/-- An exponent, if there is one, behind the digits of a number. -/
def scanTail (x : Numeral) : List Char → Except Fault (Numeral × List Char)
  | 'e' :: cs | 'E' :: cs => do
    let (e, rest) ← scanExponent cs
    .ok ({ x with exponent? := some e }, rest)
  | cs => .ok (x, cs)

/-- The fraction and exponent behind the digits before the point. -/
def scanFraction (whole : List Char) : List Char → Except Fault (Numeral × List Char)
  | '.' :: cs =>
    let (ds, rest) := spanDigits cs
    if ds.isEmpty then
      match cs with
      | [] => .error (.here .eofInValue [])
      | _ => .error (.atNext .invalidNumber cs)
    else scanTail { whole, part := ds } rest
  | cs => scanTail { whole } cs

/-- Scans a number behind its sign. -/
def scanNumeral (cs : List Char) : Except Fault (Numeral × List Char) :=
  match cs with
  | [] => .error (.here .eofInValue [])
  | '0' :: rest =>
    match rest with
    | d :: _ =>
      if isDecimalDigit d then .error (.atNext .invalidNumber rest) else scanFraction ['0'] rest
    | [] => scanFraction ['0'] rest
  | c :: _ =>
    if isDecimalDigit c then
      let (ds, rest) := spanDigits cs
      scanFraction ds rest
    else .error (.atNext .invalidNumber cs)

/-- Reads digits behind a number, as long as the result stays below a bound.  The answer
has the digits that were not read. -/
def readBelow (bound : Nat) : Nat → List Char → Nat × List Char
  | n, [] => (n, [])
  | n, c :: cs =>
    let m := 10 * n + hexDigitValue c
    if m < bound then readBelow bound m cs else (n, c :: cs)

def tenPower (n : Nat) : Float :=
  Float.ofScientific 1 false n

/-- The largest power of ten that is finite. -/
def maxPower : Nat := 308

/-- A number divided by a power of ten, in steps where the power is not finite. -/
def dividedBy (f : Float) (n : Nat) : Float :=
  if n ≤ maxPower then f / tenPower n
  else if f == 0 then f
  else dividedBy (f / tenPower maxPower) (n - maxPower)
termination_by n
decreasing_by simp only [maxPower] at *; omega

/-- A number times a power of ten, unless that is beyond every finite number. -/
def timesPower? (f : Float) (n : Nat) : Option Float :=
  if n ≤ maxPower then
    let g := f * tenPower n
    if g.isInf then none else some g
  else if f == 0 then some f
  else none

namespace Numeral

/-- The digits that fit into 64 bits, and the power of ten they are to be multiplied
with. -/
def significand (x : Numeral) : Nat × Int :=
  let (n, beyond) := readBelow UInt64.size 0 x.whole
  let (m, unread) := readBelow UInt64.size n x.part
  (m, beyond.length + unread.length - x.part.length)

/-- A fraction with the given digits and power of ten. -/
def fraction (negative : Bool) (digits : Nat) (power : Int) (rest : List Char) :
    Except Fault Number :=
  let f := digits.toUInt64.toFloat
  match if power < 0 then some (dividedBy f (-power).toNat) else timesPower? f power.toNat with
  | some g => .ok (.fraction (if negative then -g else g))
  | none => .error (.here .numberOutOfRange rest)

/-- A whole number whose digits fit into 64 bits. -/
def integer (negative : Bool) (digits : Nat) : Number :=
  if !negative then .count digits
  else if 0 < digits && 2 * digits ≤ UInt64.size then .negative digits
  else .fraction (-digits.toUInt64.toFloat)

/-- The value of a number that stands before the rest of a text.  An exponent that does
not fit into 32 bits is refused where that is seen, unless it makes the number zero. -/
def value (negative : Bool) (x : Numeral) (rest : List Char) : Except Fault Number :=
  let (digits, power) := x.significand
  match x.exponent? with
  | none =>
    if x.part.isEmpty && power = 0 then .ok (integer negative digits)
    else fraction negative digits power rest
  | some (below, ds) =>
    match readBelow 0x80000000 0 ds with
    | (n, []) => fraction negative digits (if below then power - n else power + n) rest
    | (_, _ :: unread) =>
      if digits ≠ 0 && !below then .error (.here .numberOutOfRange (unread ++ rest))
      else fraction negative 0 0 rest

end Numeral

/-- Scans a number behind its sign, and reads it. -/
def scanNumber (negative : Bool) (cs : List Char) : Except Fault (Number × List Char) := do
  let (x, rest) ← scanNumeral cs
  .ok (← x.value negative rest, rest)

end AsmView.Json
