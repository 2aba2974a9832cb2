/-
# The application

The view together with everything else a user sees and steers: the focused pane, the
tab and the chart shown, the rows selected in the lists, the prompt, a passing message,
and the board on which the view is posted.
-/
import AsmView.Board
import AsmView.Screen.Wording
import AsmView.Session.Move

namespace AsmView

/-- The panes that keys can act on. -/
inductive Pane where
  | disassembly
  | outgoing
  | incoming
deriving DecidableEq, Repr

/-- The list of references a pane shows. -/
def Pane.direction? : Pane → Option Direction
  | .disassembly => none
  | .outgoing => some .outgoing
  | .incoming => some .incoming

/-- The tabs of the side panel. -/
inductive SidePage where
  | preview
  | decompiled
  | graph
deriving DecidableEq, Repr

namespace SidePage

def all : List SidePage := [.preview, .decompiled, .graph]

def index : SidePage → Nat
  | .preview => 0
  | .decompiled => 1
  | .graph => 2

def title : SidePage → String
  | .preview => "Preview"
  | .decompiled => "Decompiled"
  | .graph => "Graph"

end SidePage

/-- How the metrics are drawn. -/
inductive ChartForm where
  | bar
  | radial
deriving DecidableEq, Repr

namespace ChartForm

def toggled : ChartForm → ChartForm
  | .bar => .radial
  | .radial => .bar

def name : ChartForm → String
  | .bar => "bar"
  | .radial => "radial"

end ChartForm

/-- The selected row of a list, and the first row shown. -/
structure ListPlace where
  selected? : Option Nat := none
  offset : Nat := 0
deriving DecidableEq, Repr

namespace ListPlace

def select (p : ListPlace) (row : Nat) : ListPlace :=
  { p with selected? := some row }

/-- The place in a list of another length: an empty list has no selected row and shows
from its start, any other has one. -/
def clamp (p : ListPlace) (count : Nat) : ListPlace :=
  if count = 0 then {}
  else match p.selected? with
    | none => p.select 0
    | some row => p.select (min row (count - 1))

/-- The place after moving by some rows in a list that is not empty. -/
def moveBy (p : ListPlace) (delta : Int) (count : Nat) : ListPlace :=
  p.select (min (p.selected?.getD 0 + delta).toNat (count - 1))

end ListPlace

/-- A passing message; once it has expired it is no longer shown. -/
structure Toast where
  message : String
  expired : Bool := false
deriving DecidableEq, Repr

structure App (σ : Type) where
  session : Session σ
  theme : Theme := {}
  pane : Pane := .disassembly
  tab : SidePage := .preview
  chart : ChartForm := .bar
  sideVisible : Bool := true
  outgoing : ListPlace := {}
  incoming : ListPlace := {}
  /-- The query typed so far, while the prompt is open. -/
  prompt? : Option String := none
  toast? : Option Toast := none
  /-- The board, when there is one. -/
  board? : Option Board := none
  quit : Bool := false
  /-- The height of a page has overflowed, and the program has stopped. -/
  halted : Bool := false

namespace App

variable {σ : Type}

/-- Something has overflowed, here or in the view. -/
def hasHalted (a : App σ) : Bool :=
  a.halted || a.session.halted

def say (a : App σ) (message : String) : App σ :=
  { a with toast? := some { message } }

/-- The message shown is no longer alive. -/
def expireToast (a : App σ) : App σ :=
  { a with toast? := a.toast?.map ({ · with expired := true }) }

def updateSession (a : App σ) (f : Session σ → Session σ) : App σ :=
  { a with session := f a.session }

def place (a : App σ) : Direction → ListPlace
  | .outgoing => a.outgoing
  | .incoming => a.incoming

def setPlace (a : App σ) (p : ListPlace) : Direction → App σ
  | .outgoing => { a with outgoing := p }
  | .incoming => { a with incoming := p }

def rowCount (a : App σ) (d : Direction) : Nat :=
  a.session.panels.referenceCount d

def clampPlace (a : App σ) (d : Direction) : App σ :=
  a.setPlace ((a.place d).clamp (a.rowCount d)) d

def lastNotice? (events : List ViewEvent) : Option String :=
  (events.filterMap fun
    | .notice text => some text
    | _ => none).getLast?

/-- Takes up the events of the view: the last notice becomes the message, and the lists
are kept in range. -/
def takeEvents (a : App σ) : App σ :=
  let (events, session) := a.session.takeEvents
  let a := { a with session }
  let a := match lastNotice? events with
    | some text => a.say text
    | none => a
  (a.clampPlace .outgoing).clampPlace .incoming

/-- The footer: what the keys do in the focused pane. -/
def footerLine (a : App σ) (message : String) : InkLine :=
  let first := match a.pane with
    | .disassembly =>
      [("MOVE", "jk", false), ("PAGE", "PgUp/PgDn", false), ("JUMP", "Enter", false)]
    | _ => [("SELECT", "jk", false), ("FOLLOW", "Enter", false)]
  let noSide := !a.sideVisible
  let others := [("BACK", "Esc", false), ("SEEK", "g", false), ("PANE", "Tab", noSide),
    ("TAB", "pdv", noSide), ("CHART", "c", noSide), ("SIDE", "s", false), ("QUIT", "q", false)]
  ⟨{}, Screen.footerItems a.theme (first ++ others) ++ Screen.footerTail message⟩

variable [Analyzer σ]

def post (a : App σ) : App σ :=
  { a with board? := a.board?.map fun b => (b.post a.session.snapshot).1 }

/-- Goes where the program starts, and posts the view. -/
def start (a : App σ) : App σ :=
  (a.updateSession (·.goToStart)).takeEvents.post

/-- Takes up a request from the board. -/
def sync (a : App σ) : App σ :=
  match a.board?.map (·.takePending) with
  | some (b, some target) =>
    (({ a with board? := some b }.updateSession (·.goTo target)).takeEvents).say
      s!"Seek {target} (MCP)"
  | some (b, none) => { a with board? := some b }
  | none => a

end App

end AsmView
