/-
# The board

A view belongs to whoever shows it.  Others read what was last posted on the board,
and may leave a request there to go somewhere, which the view takes up when it comes
round.  The revision of the board changes with everything on it.
-/
import AsmView.Session

namespace AsmView

/-- What can be seen of a view from outside. -/
structure Snapshot where
  anchor : Option Address
  cursor : Cursor
  top : Nat
  height : Nat
  count : Nat
  visible : List String
  focus : Focus
  panels : Panels
  /-- Places left, most recent first. -/
  history : List Address
  functions : List KnownFunction
deriving DecidableEq, Repr

def Session.snapshot {σ : Type} [Analyzer σ] (s : Session σ) : Snapshot where
  anchor := s.listing.anchor
  cursor := s.listing.cursor
  top := s.listing.top
  height := s.listing.height
  count := s.listing.count
  visible := s.listing.visible
  focus := s.watch.focus
  panels := s.panels
  history := s.history
  functions := Analyzer.functions s.engine

/-- The line under the cursor, when it is in the window. -/
def Snapshot.cursorLine? (s : Snapshot) : Option String :=
  if s.top ≤ s.cursor.line then s.visible[s.cursor.line - s.top]? else none

/-- What is posted, what is asked for, and a revision. -/
structure Board where
  revision : UInt64 := 0
  pending? : Option Address := none
  snapshot? : Option Snapshot := none
deriving DecidableEq, Repr

namespace Board

def touch (b : Board) : Board :=
  { b with revision := b.revision + 1 }

/-- Asks the view to go somewhere.  The answer is the request this one replaces. -/
def request (b : Board) (target : Address) : Board × Option Address :=
  ({ b with pending? := some target }.touch, b.pending?)

def takePending (b : Board) : Board × Option Address :=
  match b.pending? with
  | some target => ({ b with pending? := none }.touch, some target)
  | none => (b, none)

/-- Posts a snapshot, unless it is the one posted already, and tells whether the board
changed. -/
def post (b : Board) (s : Snapshot) : Board × Bool :=
  if b.snapshot? = some s then (b, false)
  else ({ b with snapshot? := some s }.touch, true)

/-- A view has posted something. -/
def isAttached (b : Board) : Bool :=
  b.snapshot?.isSome

end Board

end AsmView
