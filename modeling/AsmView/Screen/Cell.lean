/-
# Cells

The screen is a grid of cells.  A cell shows one character as users see it; one that is
wider than a cell covers the cell behind it.  Rows of cells are built from styled text,
cut to the room there is, and put side by side and on top of each other.
-/
import AsmView.Screen.Ink
import AsmView.Text.Cluster

namespace AsmView

open Text

/-- A cell: what it shows, and how. -/
structure Cell where
  symbol : String := " "
  style : Style := {}
deriving DecidableEq, Repr, Inhabited

/-- Rows of cells, from the top. -/
abbrev Grid := List (List Cell)

/-- One visible character of a styled line. -/
structure Glyph where
  cluster : List Char
  style : Style
deriving DecidableEq, Repr

namespace Glyph

/-- The number of cells a glyph takes. -/
def width (g : Glyph) : Nat :=
  textWidth g.cluster

end Glyph

/-- The glyphs of a span on a line of a style.  Line feeds are not shown. -/
def Span.glyphs (s : Span) (line : Style) : List Glyph :=
  ((clusters s.text.toList).filter (· ≠ ['\n'])).map fun cs => ⟨cs, line.patch s.style⟩

def InkLine.glyphs (l : InkLine) : List Glyph :=
  l.spans.flatMap (·.glyphs l.style)

namespace Cell

def blank (style : Style) : Cell :=
  { style }

/-- A style laid over a cell. -/
def patch (c : Cell) (s : Style) : Cell :=
  { c with style := c.style.patch s }

/-- A glyph shown by a cell in place of what it showed. -/
def showing (c : Cell) (g : Glyph) : Cell :=
  ⟨String.ofList g.cluster, c.style.patch g.style⟩

/-- What a cell shows covers the cell behind it. -/
def isWide (c : Cell) : Bool :=
  1 < textWidth c.symbol.toList

/-- A row as it is seen: a cell that is covered looks like an untouched one. -/
def seen : Bool → List Cell → List Cell
  | _, [] => []
  | covered, c :: cs => (if covered then {} else c) :: seen c.isWide cs

end Cell

namespace Grid

def blank (style : Style) (width height : Nat) : Grid :=
  List.replicate height (List.replicate width (Cell.blank style))

/-- The grid cut or filled up to a height. -/
def fit (style : Style) (width height : Nat) (g : Grid) : Grid :=
  g.take height ++ blank style width (height - g.length)

/-- Two grids of one height side by side. -/
def beside (g h : Grid) : Grid :=
  List.zipWith (· ++ ·) g h

end Grid

/-- The glyphs that fit into the room left of a width, from the first on; those that are
wider than the whole width are left out. -/
def fitting (width : Nat) : Nat → List Glyph → List Glyph
  | _, [] => []
  | room, g :: gs =>
    if width < g.width then fitting width room gs
    else if room < g.width then []
    else g :: fitting width (room - g.width) gs

/-- The cells of glyphs one after the other; what takes no cell is left out. -/
def glyphCells (style : Style) (gs : List Glyph) : List Cell :=
  (gs.filter (0 < ·.width)).flatMap fun g =>
    (Cell.blank style).showing g :: List.replicate (g.width - 1) (.blank style)

/-- The glyphs of a line cut to a width. -/
def InkLine.cutTo (width : Nat) (l : InkLine) : List Glyph :=
  fitting width width l.glyphs

/-- A row of text over a style, filled up to the width.  The last glyph may reach beyond
it. -/
def textRow (style : Style) (width : Nat) (gs : List Glyph) : List Cell :=
  let cells := (glyphCells style gs).take width
  cells ++ List.replicate (width - cells.length) (.blank style)

/-- Writes glyphs into a row from a column on, as far as there is room before the column
`stop`.  The cells a glyph covers are emptied.  A glyph that takes no cell is written
where the next one goes, and shows if none comes; when the room is used up, that is the
cell at `stop`. -/
def writeGlyphs (stop : Nat) : Nat → List Glyph → List Cell → List Cell
  | _, [], row => row
  | column, g :: gs, row =>
    if stop < column + g.width then row
    else
      let covered := List.range' (column + 1) (g.width - 1)
      let row := covered.foldl (fun row i => row.set i {}) (row.modify column (·.showing g))
      writeGlyphs stop (column + g.width) gs row

/-- Writes the spans of a line of a style into a row from a column on, before the column
`stop`.  Each has as much room as its text is wide. -/
def writeSpans (style : Style) (stop : Nat) : Nat → List Span → List Cell → List Cell
  | _, [], row => row
  | column, s :: spans, row =>
    let width := textWidth s.text.toList
    let row := writeGlyphs (min stop (column + width)) column (s.glyphs style) row
    if stop ≤ column + width then row else writeSpans style stop (column + width) spans row

/-- A row that starts and ends with cells of its own. -/
def edgedRow (style : Style) (left right : String) (width : Nat) (middle : List Cell) :
    List Cell :=
  match width with
  | 0 => []
  | 1 => [⟨left, style⟩]
  | _ => ⟨left, style⟩ :: middle ++ [⟨right, style⟩]

/-- A box with a title in its upper border.  What it holds must be two cells narrower and
two rows lower than the box. -/
def boxed (border : Style) (title : String) (width height : Nat) (inside : Grid) : Grid :=
  let line := List.replicate (width - 2) ⟨"─", border⟩
  let upper := edgedRow border "┌" "┐" width line
  let top := if width ≤ 2 then upper else writeSpans {} (width - 1) 1 [⟨title, {}⟩] upper
  let bottom := edgedRow border "└" "┘" width line
  match height with
  | 0 => []
  | 1 => [top]
  | _ => top :: inside.map (edgedRow border "│" "│" width) ++ [bottom]

/-- A stretch of a row in one style other than the default: its first column, the column
behind it, and the style. -/
structure StyleRun where
  start : Nat
  stop : Nat
  style : Style
deriving DecidableEq, Repr

/-- The longest stretches of cells of one style from a column on, the default style left
out. -/
def styleRuns : Nat → List Cell → List StyleRun
  | _, [] => []
  | column, c :: cs =>
    let rest := styleRuns (column + 1) cs
    if c.style = {} then rest
    else match rest with
      | run :: runs =>
        if run.start = column + 1 && run.style = c.style then { run with start := column } :: runs
        else ⟨column, column + 1, c.style⟩ :: rest
      | [] => [⟨column, column + 1, c.style⟩]

end AsmView
