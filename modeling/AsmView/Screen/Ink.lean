/-
# Styled text

Text with its looks, before it is put anywhere: spans of one style each, lines of
spans, and several lines.  A line may have a style of its own beneath its spans.
-/
import AsmView.Screen.Style
import AsmView.Text.Lines

namespace AsmView

open Text

/-- A piece of text of one style. -/
structure Span where
  text : String
  style : Style := {}
deriving DecidableEq, Repr

/-- A line of spans over a style of its own. -/
structure InkLine where
  style : Style := {}
  spans : List Span
deriving DecidableEq, Repr

/-- Lines of styled text. -/
abbrev Ink := List InkLine

/-- A line that is styled as a whole, with one span per line of the text. -/
def InkLine.whole (text : String) (style : Style) : InkLine :=
  ⟨style, (linesOf text).map fun l => ⟨l, {}⟩⟩

/-- Text without looks of its own; an empty text is one empty line. -/
def Ink.plain (text : String) : Ink :=
  if text.isEmpty then [⟨{}, []⟩] else (linesOf text).map fun l => ⟨{}, [⟨l, {}⟩]⟩

end AsmView
