/-
# Keys

What every key does.  While the prompt is open, keys edit the query; otherwise they act
on the view and on what is shown around it.  A key that means nothing is left alone.
-/
import AsmView.App

namespace AsmView

open Text

inductive Key where
  | char (c : Char)
  | enter
  | escape
  | backspace
  | tab
  | up
  | down
  | pageUp
  | pageDown
  | home
  | last
  /-- Any other key. -/
  | other
deriving DecidableEq, Repr

namespace Key

def names : List (String × Key) :=
  [("Enter", .enter), ("Esc", .escape), ("Backspace", .backspace), ("Tab", .tab), ("Up", .up),
    ("Down", .down), ("PageUp", .pageUp), ("PageDown", .pageDown), ("Home", .home),
    ("End", .last)]

/-- The key of a name.  A single character names its own key. -/
def named (s : String) : Key :=
  match s.toList with
  | [c] => .char c
  | _ => (names.lookup s).getD .other

end Key

namespace App

variable {σ : Type} [Analyzer σ]

def moveBy (a : App σ) (delta : Int) : App σ :=
  match a.pane.direction? with
  | none => a.updateSession (·.stepCursor delta)
  | some d =>
    if a.rowCount d = 0 then a else a.setPlace ((a.place d).moveBy delta (a.rowCount d)) d

/-- The height of the window with a sign, in signed arithmetic. -/
def pageHeight? (a : App σ) (sign : Int) : Option Int :=
  Machine.signed? (sign * Machine.toSigned a.session.listing.height)

/-- Moves by the height of the window. -/
def page (a : App σ) (sign : Int) : App σ :=
  match a.pageHeight? sign with
  | some delta => a.updateSession fun s => (s.scrollBy delta).stepCursor delta
  | none => { a with halted := true }

/-- Follows what is selected in the focused pane. -/
def follow (a : App σ) : App σ :=
  let (session, followed) := match a.pane.direction? with
    | none => a.session.followTransfer
    | some d => a.session.followRow d ((a.place d).selected?.getD 0)
  let a := { a with session }
  if followed then a else a.say "Nothing to follow"

/-- The pane that the focus moves on to. -/
def nextPane (a : App σ) : Pane :=
  if !a.sideVisible then .disassembly
  else match a.pane with
    | .disassembly => .outgoing
    | .outgoing => .incoming
    | .incoming => .disassembly

/-- Shows or hides the side panel; nothing in a hidden panel has the focus. -/
def toggleSide (a : App σ) : App σ :=
  let a := { a with sideVisible := !a.sideVisible }
  if a.sideVisible then a else { a with pane := .disassembly }

def back (a : App σ) : App σ :=
  let (session, moved) := a.session.goBack
  let a := { a with session }
  if moved then a else a.say "Seek history is empty"

def toggleTheme (a : App σ) : App σ :=
  let theme := a.theme.toggle
  { a with theme }.say s!"Theme: {theme.mode.name}"

def submit (a : App σ) (query : String) : App σ :=
  if isBlankText query then a
  else
    let (session, target?) := a.session.goToQuery query
    let a := { a with session }
    match target? with
    | some target => { a with pane := .disassembly }.say s!"Seek {target.place}"
    | none => a.say s!"No address or function matches {quoted query}"

/-- A key while the prompt is open. -/
def promptKey (a : App σ) (query : String) : Key → App σ × Bool
  | .escape => ({ a with prompt? := none }, true)
  | .backspace => ({ a with prompt? := some (String.ofList query.toList.dropLast) }, true)
  | .char c => ({ a with prompt? := some (query.push c) }, true)
  | .enter => ({ a with prompt? := none }.submit query, true)
  | _ => (a, false)

/-- What a character does while the prompt is closed. -/
def charKey? (a : App σ) : Char → Option (App σ)
  | 'q' => some { a with quit := true }
  | 'j' => some (a.moveBy 1)
  | 'k' => some (a.moveBy (-1))
  | 'g' | ':' => some { a with prompt? := some "" }
  | 'p' => some { a with tab := .preview }
  | 'd' => some { a with tab := .decompiled }
  | 'v' => some { a with tab := .graph }
  | 'c' => some { a with chart := a.chart.toggled }
  | 't' => some a.toggleTheme
  | 'r' => some ((a.updateSession (·.showAnew)).say "Refreshed")
  | 's' => some a.toggleSide
  | _ => none

/-- What a key does while the prompt is closed. -/
def viewKey? (a : App σ) : Key → Option (App σ)
  | .char c => a.charKey? c
  | .down => some (a.moveBy 1)
  | .up => some (a.moveBy (-1))
  | .pageDown => some (a.page 1)
  | .pageUp => some (a.page (-1))
  | .home => some (a.updateSession (·.placeCursor {}))
  | .last => some (a.updateSession fun s => s.placeCursor ⟨s.listing.count - 1, 0⟩)
  | .enter => some a.follow
  | .escape => some a.back
  | .tab => some { a with pane := a.nextPane }
  | _ => none

/-- Presses a key, and tells whether it meant anything. -/
def press (a : App σ) (k : Key) : App σ × Bool :=
  let (a, handled) := match a.prompt? with
    | some query => a.promptKey query k
    | none =>
      match a.viewKey? k with
      | some a => (a, true)
      | none => (a, false)
  (a.takeEvents, handled)

end App

end AsmView
