/-
# Wrapping

A line that is too long for its box is broken between words.  Blanks at a break are
dropped as far as they would still fit into the row that is broken, and one more; blanks
at the start of a line stay.  A word that is longer than a row is split.
-/
import AsmView.Screen.Cell

namespace AsmView

open Text

/-- A glyph that a row may be broken at: blanks that do not forbid it, or the space
without a width. -/
def Glyph.isBreak (g : Glyph) : Bool :=
  g.cluster = ['\u200b'] || (g.cluster ≠ ['\u00a0'] && g.cluster.all isBlank)

/-- The cells that some glyphs take. -/
def glyphsWidth (gs : List Glyph) : Nat :=
  gs.foldl (fun n g => n + g.width) 0

/-- A line on its way into rows: what is finished, the row begun, and the blanks and the
part of a word that are not in any row yet. -/
structure Wrapping where
  rows : List (List Glyph) := []
  row : List Glyph := []
  blanks : List Glyph := []
  word : List Glyph := []
  /-- The glyph taken last was no blank. -/
  inWord : Bool := false
deriving DecidableEq, Repr

namespace Wrapping

/-- The width of the blanks and the word that are in no row yet. -/
def looseWidth (w : Wrapping) : Nat :=
  glyphsWidth w.blanks + glyphsWidth w.word

/-- Puts the blanks and the word into the row begun. -/
def settle (w : Wrapping) : Wrapping :=
  { w with row := w.row ++ w.blanks ++ w.word, blanks := [], word := [] }

/-- The blanks left after a break: those that fit into the room of the broken row are
dropped, and one more.  The answer also tells whether there was one more. -/
def dropAtBreak : Nat → List Glyph → List Glyph × Bool
  | _, [] => ([], false)
  | room, g :: gs => if room < g.width then (gs, true) else dropAtBreak (room - g.width) gs

/-- Puts a glyph behind the blanks or the word. -/
def append (w : Wrapping) (g : Glyph) : Wrapping :=
  if g.isBreak then { w with blanks := w.blanks ++ [g], inWord := false }
  else { w with word := w.word ++ [g], inWord := true }

/-- The row begun has no room for what follows. -/
def isFull (width : Nat) (w : Wrapping) (g : Glyph) : Bool :=
  width ≤ glyphsWidth w.row || (width ≤ glyphsWidth w.row + w.looseWidth && 0 < g.width)

def step (width : Nat) (w : Wrapping) (g : Glyph) : Wrapping :=
  if width < g.width then w
  else
    let wordEnds := w.inWord && g.isBreak
    let tooLong := w.row.isEmpty && width < w.looseWidth + g.width
    let w := if wordEnds || tooLong then w.settle else w
    if w.isFull width g then
      let (blanks, oneMore) := dropAtBreak (width - glyphsWidth w.row) w.blanks
      let w := { w with rows := w.rows ++ [w.row], row := [], blanks }
      if g.isBreak && !oneMore then w else w.append g
    else w.append g

/-- The rows of a line that has been taken whole. -/
def finish (w : Wrapping) : List (List Glyph) :=
  let rows := if w.row.isEmpty && w.word.isEmpty && !w.blanks.isEmpty then w.rows ++ [[]]
    else
      let row := w.settle.row
      if row.isEmpty then w.rows else w.rows ++ [row]
  if rows.isEmpty then [[]] else rows

end Wrapping

/-- The rows of a line of glyphs in a box of a width. -/
def wrapped (width : Nat) (gs : List Glyph) : List (List Glyph) :=
  (gs.foldl (Wrapping.step width) {}).finish

end AsmView
