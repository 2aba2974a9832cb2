/-
# Styles

How text looks: two colors, either of which may be left open, and three kinds of
emphasis.  Styles are laid over one another; what the upper one leaves open shows from
below, and emphasis adds up.
-/
import AsmView.Text.Digits

namespace AsmView

open Text

/-- A color: one that the terminal names, or one given by its parts. -/
inductive Color where
  | black
  | red
  | green
  | yellow
  | blue
  | magenta
  | cyan
  | white
  | darkGray
  | rgb (red green blue : UInt8)
deriving DecidableEq, Repr

namespace Color

/-- The two upper-case digits of a part. -/
def partChars (n : UInt8) : List Char :=
  (hexPadded 2 n.toNat).map Char.toUpper

/-- The name of a color; one given by its parts is written `#RRGGBB`. -/
def name : Color → String
  | .black => "Black"
  | .red => "Red"
  | .green => "Green"
  | .yellow => "Yellow"
  | .blue => "Blue"
  | .magenta => "Magenta"
  | .cyan => "Cyan"
  | .white => "White"
  | .darkGray => "DarkGray"
  | .rgb r g b => String.ofList ('#' :: partChars r ++ partChars g ++ partChars b)

end Color

structure Style where
  foreground? : Option Color := none
  background? : Option Color := none
  bold : Bool := false
  italic : Bool := false
  reversed : Bool := false
deriving DecidableEq, Repr, Inhabited

namespace Style

/-- `t` laid over `s`. -/
def patch (s t : Style) : Style where
  foreground? := t.foreground?.or s.foreground?
  background? := t.background?.or s.background?
  bold := s.bold || t.bold
  italic := s.italic || t.italic
  reversed := s.reversed || t.reversed

def withForeground (s : Style) (c : Color) : Style :=
  { s with foreground? := some c }

/-- The names of the kinds of emphasis, with bars between them. -/
def emphasis (s : Style) : String :=
  String.intercalate " | "
    ((if s.bold then ["BOLD"] else []) ++ (if s.italic then ["ITALIC"] else []) ++
      (if s.reversed then ["REVERSED"] else []))

end Style

end AsmView
