/-
# The bar chart

Five upright bars, each five cells wide, drawn in eighths of a cell.  A bar's height is
its value's share of the largest value.  The value stands in the foot of its bar and the
label below it.
-/
import AsmView.Machine
import AsmView.Routine
import AsmView.Screen.Cell
import AsmView.Screen.Theme

namespace AsmView

open Text

namespace BarChart

def barWidth : Nat := 5

/-- The symbols of a cell filled to so many eighths. -/
def eighths : List String := [" ", "▁", "▂", "▃", "▄", "▅", "▆", "▇", "█"]

/-- The height of a bar in eighths of a cell.  The products are computed in words. -/
def ticks? (value most : UInt64) (rows : Nat) : Option Nat := do
  let product ← Machine.word? (value.toNat * rows)
  let eighths ← Machine.word? (product * 8)
  some (eighths / most.toNat)

/-- The symbol of a bar in the row that has so many rows below it. -/
def symbolAt (ticks below : Nat) : String :=
  eighths.getD (min (ticks - 8 * below) 8) " "

/-- A text written into the middle of a bar's width. -/
def centered (cells : List Cell) (style : Style) (text : List Char) : List Cell :=
  let left := (barWidth - text.length) / 2
  cells.take left ++
    List.zipWith (fun c t => ⟨String.singleton t, c.style.patch style⟩) (cells.drop left) text ++
    cells.drop (left + text.length)

/-- A value is shown when it is not 0 and leaves room beside it, or fills the width of a
bar that is at least one cell high. -/
def showsValue (value : UInt64) (ticks : Nat) : Bool :=
  let length := (decimal value.toNat).length
  value ≠ 0 && (length < barWidth || (length = barWidth && 8 ≤ ticks))

/-- The row of a bar that has so many rows below it. -/
def barRow (theme : Theme) (value : UInt64) (ticks below : Nat) : List Cell :=
  let cells := List.replicate barWidth ⟨symbolAt ticks below, theme.bar⟩
  if below = 0 && showsValue value ticks then
    centered cells theme.selection (decimal value.toNat)
  else cells

/-- The label below a bar, cut to its width. -/
def labelRow (theme : Theme) (label : String) : List Cell :=
  centered (List.replicate barWidth (.blank {})) theme.footerLabel (label.toList.take barWidth)

/-- A bar of so many rows with its label, from the top. -/
def column? (theme : Theme) (most : UInt64) (rows : Nat) (labelled : Bool)
    (item : String × UInt64) : Option Grid := do
  let (label, value) := item
  let height ← ticks? value most rows
  some ((List.range rows).reverse.map (barRow theme value height) ++
    if labelled then [labelRow theme label] else [])

/-- Some columns with a cell between each two, filled up to a width. -/
def columns (width height : Nat) (bars : List Grid) : Grid :=
  let gap := Grid.blank {} 1 height
  let all := (bars.intersperse gap).foldr Grid.beside (List.replicate height [])
  all.map fun row => row ++ List.replicate (width - row.length) (.blank {})

/-- The chart in a box of a size: as many bars as fit, unless one of them overflows.  A single
row has no room for labels. -/
def grid? (theme : Theme) (m : Metrics) (width height : Nat) : Option Grid := do
  let labelled := 2 ≤ height
  let rows := if labelled then height - 1 else height
  let most := m.values.foldl max 1
  let items := m.labelled.take ((width + 1) / (barWidth + 1))
  let bars ← items.mapM (column? theme most rows labelled)
  some (columns width height bars)

end BarChart

end AsmView
