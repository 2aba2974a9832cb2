/-
# The listing

The text on screen: lines of disassembly, the address the text starts at, a cursor
and a scroll position.  Text changes only by being replaced or appended to; the
cursor is kept on an existing line and column and the scroll position within the
text.
-/
import AsmView.Line

namespace AsmView

/-- A place in the text. -/
structure Cursor where
  line : Nat := 0
  column : Nat := 0
deriving DecidableEq, Repr, Inhabited

/-- The text with its anchor, cursor, scroll position and the height of the window
it is shown in. -/
structure Listing where
  lines : List String := []
  anchor : Option Address := none
  cursor : Cursor := {}
  top : Nat := 0
  height : Nat := 1
deriving DecidableEq, Repr

namespace Listing

/-- An empty listing in a window of the given height, at least one line. -/
def empty (height : Nat) : Listing :=
  { height := max height 1 }

def count (l : Listing) : Nat :=
  l.lines.length

/-- The largest scroll position at which the window is still full. -/
def maxTop (l : Listing) : Nat :=
  l.count - l.height

/-- The nearest place that exists in the text. -/
def clampCursor (l : Listing) (c : Cursor) : Cursor :=
  if l.lines.isEmpty then {}
  else
    let line := min c.line (l.count - 1)
    ⟨line, min c.column (l.lines.getD line "").length⟩

/-- Replaces the text and its anchor; cursor and scroll position are kept as far as
they still fit. -/
def replace (l : Listing) (anchor : Option Address) (lines : List String) : Listing :=
  let l := { l with anchor, lines }
  { l with cursor := l.clampCursor l.cursor, top := min l.top l.maxTop }

def append (l : Listing) (lines : List String) : Listing :=
  { l with lines := l.lines ++ lines }

/-- Moves the cursor to the nearest place that exists. -/
def setCursor (l : Listing) (c : Cursor) : Listing :=
  { l with cursor := l.clampCursor c }

/-- Scrolls as far as the text allows. -/
def setTop (l : Listing) (top : Nat) : Listing :=
  { l with top := min top l.maxTop }

/-- Changes the height of the window, at least one line. -/
def setHeight (l : Listing) (height : Nat) : Listing :=
  let l := { l with height := max height 1 }
  l.setTop l.top

def cursorLine? (l : Listing) : Option String :=
  l.lines[l.cursor.line]?

def lastLine? (l : Listing) : Option String :=
  l.lines.getLast?

def cursorAddress? (l : Listing) : Option Address :=
  l.cursorLine?.bind lineAddress?

def lastAddress? (l : Listing) : Option Address :=
  l.lastLine?.bind lineAddress?

/-- The first line that starts with an address. -/
def find? (l : Listing) (a : Address) : Option Nat :=
  l.lines.findIdx? (lineAddress? · = some a)

/-- The lines in the window. -/
def visible (l : Listing) : List String :=
  (l.lines.drop l.top).take l.height

end Listing

end AsmView
