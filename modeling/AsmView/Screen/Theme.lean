/-
# Themes

A theme gives a style to every kind of thing on screen.  It is dark or light, and takes
its colors from the terminal or from a palette; under a palette the light theme swaps
foreground and background.
-/
import AsmView.Config
import AsmView.Screen.Palette

namespace AsmView

open Text

/-- Whether a theme is dark or light. -/
inductive Shade where
  | dark
  | light
deriving DecidableEq, Repr

namespace Shade

def toggled : Shade → Shade
  | .dark => .light
  | .light => .dark

def name : Shade → String
  | .dark => "dark"
  | .light => "light"

end Shade

/-- The colors of the terminal that themes use. -/
inductive AnsiColor where
  | black
  | red
  | green
  | yellow
  | blue
  | magenta
  | cyan
  | brightBlack
deriving DecidableEq, Repr

namespace AnsiColor

def index : AnsiColor → Nat
  | .black => 0
  | .red => 1
  | .green => 2
  | .yellow => 3
  | .blue => 4
  | .magenta => 5
  | .cyan => 6
  | .brightBlack => 8

/-- The terminal's own color. -/
def plain : AnsiColor → Color
  | .black => .black
  | .red => .red
  | .green => .green
  | .yellow => .yellow
  | .blue => .blue
  | .magenta => .magenta
  | .cyan => .cyan
  | .brightBlack => .darkGray

end AnsiColor

structure Theme where
  palette? : Option Palette := none
  mode : Shade := .dark
deriving DecidableEq, Repr

namespace Theme

/-- The variable that holds a palette. -/
def variableName : String := "DISVIEW_TUI_PALETTE"

/-- The dark theme with the palette of a variable, unless that is unset or blank. -/
def ofVariable (v : Config.Variable) : Except ConfigFault Theme := do
  match ← Config.read? (fun _ => v) variableName with
  | none => .ok {}
  | some text =>
    match Palette.parse text.toList with
    | .ok p => .ok { palette? := some p }
    | .error f => .error (.invalidVariable variableName s!"{text} ({f.message})")

def toggle (t : Theme) : Theme :=
  { t with mode := t.mode.toggled }

/-- A color under the theme. -/
def color (t : Theme) (c : AnsiColor) : Color :=
  match t.palette? with
  | some p => p.ansi.getD c.index c.plain
  | none => c.plain

/-- The color of dimmed text, which must show on the background of the mode. -/
def muted (t : Theme) : Color :=
  match t.mode with
  | .dark => t.color .brightBlack
  | .light => t.color .blue

/-- Plain text. -/
def base (t : Theme) : Style :=
  match t.palette?, t.mode with
  | some p, .dark => { foreground? := some p.foreground, background? := some p.background }
  | some p, .light => { foreground? := some p.background, background? := some p.foreground }
  | none, .dark => {}
  | none, .light => { foreground? := some .black, background? := some .white }

def border (t : Theme) (focused : Bool) : Style :=
  if focused then t.base.withForeground (t.color .yellow) else t.base

def selection (t : Theme) : Style :=
  { t.base with bold := true, reversed := true }

/-- Something is wrong. -/
def alarm (t : Theme) : Style :=
  t.base.withForeground (t.color .red)

def address (t : Theme) : Style :=
  t.base.withForeground (t.color .green)

def bytes (t : Theme) : Style :=
  t.base.withForeground t.muted

def comment (t : Theme) : Style :=
  { t.base.withForeground t.muted with italic := true }

def header (t : Theme) : Style :=
  { t.base.withForeground (t.color .magenta) with bold := true }

/-- Labels of functions and instructions. -/
def label (t : Theme) : Style :=
  { t.base.withForeground (t.color .cyan) with bold := true }

/-- The line a jump leads to. -/
def target (t : Theme) : Style :=
  { t.base with
    foreground? := some (t.color .black), background? := some (t.color .yellow), bold := true }

def bar (t : Theme) : Style :=
  t.base.withForeground (t.color .cyan)

/-- Keys in the footer. -/
def footerKey (t : Theme) : Style :=
  t.base.withForeground (t.color .cyan)

/-- Labels in the footer. -/
def footerLabel (t : Theme) : Style :=
  t.base.withForeground t.muted

/-- Every style by name. -/
def styles (t : Theme) : List (String × Style) :=
  [("base", t.base), ("border", t.border false), ("border_focused", t.border true),
    ("selection", t.selection), ("error_style", t.alarm), ("address", t.address),
    ("bytes", t.bytes), ("comment", t.comment), ("header", t.header), ("label", t.label),
    ("target", t.target), ("bar", t.bar), ("footer_key", t.footerKey),
    ("footer_label", t.footerLabel)]

end Theme

end AsmView
