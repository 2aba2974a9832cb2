/-
# Palettes

A user may name the colors to use: eighteen of them, separated by commas, the
foreground and background first.  A color is six hexadecimal digits, with or without a
mark in front, or three parts of two or four digits behind `rgb:`.
-/
import AsmView.Screen.Style
import AsmView.Text.Lines

namespace AsmView

open Text

/-- The colors a user named. -/
structure Palette where
  foreground : Color
  background : Color
  /-- The terminal's sixteen colors in their usual order. -/
  ansi : List Color
deriving DecidableEq, Repr

/-- Why a text is not a palette. -/
inductive PaletteFault where
  | wrongCount (count : Nat)
  | emptyColor
  | badTriple (color : String)
  | badPart (part : String)
  | badPartLength (part : String)
  | badColor (color : String)
deriving DecidableEq, Repr

namespace Palette

def size : Nat := 18

/-- What the colors of a palette are for, in order. -/
def roles : String :=
  "fg,bg,black,red,green,yellow,blue,magenta,cyan,white,bright_black,bright_red,bright_green,bright_yellow,bright_blue,bright_magenta,bright_cyan,bright_white"

end Palette

def PaletteFault.message : PaletteFault → String
  | .wrongCount n =>
    s!"expected {Palette.size} comma-separated colors ({Palette.roles}), got {n}"
  | .emptyColor => "empty color"
  | .badTriple c => s!"invalid rgb: value: {c}"
  | .badPart p => s!"invalid rgb: component {p}"
  | .badPartLength p => s!"invalid rgb: component {p} (expected 2 or 4 hex digits)"
  | .badColor c => s!"invalid hex color: {c} (expected #RRGGBB)"

namespace Palette

/-- The number that hexadecimal digits denote; a plus sign may stand in front of the
first. -/
def hexNumber? (cs : List Char) : Option Nat :=
  let digits := (dropLeading? ['+'] cs).getD cs
  if digits.isEmpty || !digits.all isHexDigit then none else some (numeralValue 16 digits)

/-- One part of a color behind `rgb:`; of four digits the first two count. -/
def part (cs : List Char) : Except PaletteFault UInt8 :=
  let cs := trimBlanks cs
  let s := String.ofList cs
  let scale? : Option Nat :=
    if s.utf8ByteSize = 2 then some 1 else if s.utf8ByteSize = 4 then some 256 else none
  match scale? with
  | none => .error (.badPartLength s)
  | some scale =>
    match hexNumber? cs with
    | some n => .ok (n / scale).toUInt8
    | none => .error (.badPart s)

/-- The text behind the mark of a hexadecimal color, if there is one. -/
def dropMark : List Char → List Char
  | '#' :: cs => cs
  | '0' :: 'x' :: cs => cs
  | '0' :: 'X' :: cs => cs
  | cs => cs

def color (cs : List Char) : Except PaletteFault Color := do
  let cs := trimBlanks cs
  if cs.isEmpty then .error .emptyColor
  else match dropLeading? ['r', 'g', 'b', ':'] (cs.map Char.toLower) with
    | some rest =>
      match splitAt '/' rest with
      | [r, g, b] => .ok (.rgb (← part r) (← part g) (← part b))
      | _ => .error (.badTriple (String.ofList cs))
    | none =>
      let digits := dropMark cs
      if digits.length ≠ 6 || !digits.all isHexDigit then .error (.badColor (String.ofList cs))
      else
        let n := numeralValue 16 digits
        .ok (.rgb (n / 65536).toUInt8 (n / 256).toUInt8 n.toUInt8)

def parse (cs : List Char) : Except PaletteFault Palette := do
  let texts := splitAt ',' cs
  if texts.length ≠ size then .error (.wrongCount texts.length)
  else match ← texts.mapM color with
    | foreground :: background :: ansi => .ok ⟨foreground, background, ansi⟩
    | colors => .error (.wrongCount colors.length)

end Palette

end AsmView
