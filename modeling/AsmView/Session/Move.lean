/-
# Moving about

What a user does in a view: going to a place and back, reloading, scrolling, moving
the cursor, and following what the cursor or a row of references leads to.
-/
import AsmView.Seek
import AsmView.Session.Reload

namespace AsmView

namespace Session

variable {σ : Type} [Analyzer σ]

/-- Asks for a navigation on the next reload.  The answer is the request it
replaces. -/
def request {σ : Type} (s : Session σ) (target : Address) : Session σ × Option Address :=
  ({ s with pending? := some target }, s.pending?)

/-- Reloads the text in place, or at the pending navigation. -/
def refresh (s : Session σ) : Session σ :=
  s.reload.1

/-- Goes to where the program starts, if that is known. -/
def goToStart (s : Session σ) : Session σ :=
  match Analyzer.start? s.engine with
  | some entry => (s.request entry).1.refresh
  | none => s

/-- Goes to a place, remembering the one that is left.  Nothing is remembered when the
place does not load, or when it is the anchor already. -/
def goTo (s : Session σ) (target : Address) : Session σ :=
  let left := s.listing.anchor.filter (· ≠ target)
  let (s, loaded) := (s.request target).1.reload
  match loaded, left with
  | true, some anchor => { s with history := (anchor :: s.history).take s.config.historyLimit }
  | _, _ => s

/-- Goes back to the place left last, which stays remembered when it does not load. -/
def goBack (s : Session σ) : Session σ × Bool :=
  match s.history with
  | [] => (s, false)
  | place :: rest =>
    let (s, loaded) := ({ s with history := rest }.request place).1.reload
    (if loaded then s else { s with history := place :: s.history }, true)

def goToQuery (s : Session σ) (query : String) : Session σ × Option Destination :=
  match Destination.resolve? query (Analyzer.functions s.engine) with
  | some target => (s.goTo target.place, some target)
  | none => (s, none)

/-- The analysis changed under the view: everything is shown anew. -/
def showAnew (s : Session σ) : Session σ :=
  { s with watch := s.watch.markStale, cache := {}, announced := [] }.refresh

def setHeight (s : Session σ) (height : Nat) : Session σ :=
  if max height 1 = s.listing.height then s
  else { s with listing := s.listing.setHeight height }.raise .scroll

def scrollTo (s : Session σ) (top : Nat) : Session σ :=
  s.setTop top

/-- Scrolls by a number of lines, upwards when it is negative. -/
def scrollBy (s : Session σ) (delta : Int) : Session σ :=
  s.scrollTo (s.listing.top + delta).toNat

/-- Moves the cursor, and scrolls just enough to keep it in the window. -/
def placeCursor (s : Session σ) (c : Cursor) : Session σ :=
  if (s.listing.setCursor c).cursor = s.listing.cursor then s
  else
    let s := s.setCursor c
    let line := s.listing.cursor.line
    if line < s.listing.top then s.scrollTo line
    else if s.listing.top + s.listing.height ≤ line then s.scrollTo (line + 1 - s.listing.height)
    else s

/-- Moves the cursor to the first line that starts with an address, and tells which line
that is. -/
def placeCursorAt (s : Session σ) (a : Address) : Session σ × Option Nat :=
  match s.listing.find? a with
  | some line => (s.placeCursor ⟨line, 0⟩, some line)
  | none => (s, none)

/-- Moves the cursor by a number of lines, upwards when it is negative. -/
def stepCursor (s : Session σ) (delta : Int) : Session σ :=
  s.placeCursor ⟨(s.listing.cursor.line + delta).toNat, s.listing.cursor.column⟩

/-- Where the line leads, if it leads into a known function. -/
def knownTarget (line : String) : Query σ (Option Address) := do
  match ← Analyzer.jumpTarget line with
  | none => pure none
  | some target => do
    let owner ← Analyzer.functionNameAt target
    pure (if owner.isEmpty then none else some target)

/-- Follows the control transfer under the cursor. -/
def followTransfer (s : Session σ) : Session σ × Bool :=
  match s.listing.cursorLine? with
  | none => (s, false)
  | some line =>
    let (result, feed) := s.ask (knownTarget line)
    let s := { s with toFeed := feed }
    match result with
    | .ok (some target) => (s.goTo target, true)
    | .ok none => (s, false)
    | .error f => (s.announce s!"cannot follow jump: {f.message}", false)

/-- Goes to the other end of a row of references. -/
def followRow (s : Session σ) (direction : Direction) (index : Nat) : Session σ × Bool :=
  match s.panels.references?.bind fun lists => (lists.entries direction)[index]? with
  | some entry => (s.goTo entry.address, true)
  | none => (s, false)

end Session

end AsmView
