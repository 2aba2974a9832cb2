/-
# Panels

Seven panels show what is known about the focus.  Two follow every move of the
cursor; five concern the whole function and follow only a change of function.  A
write fills one panel or clears it.
-/
import AsmView.Reference
import AsmView.Template

namespace AsmView

inductive Panel where
  | offset
  | jumpPreview
  | function
  | references
  | charts
  | decompiled
  | miniGraph
deriving DecidableEq, Repr

/-- What makes a panel out of date. -/
inductive PanelTrigger where
  | perAddress
  | perFunction
deriving DecidableEq, Repr

namespace Panel

/-- All panels in the order they are filled in. -/
def ordered : List Panel :=
  [.offset, .jumpPreview, .function, .references, .charts, .decompiled, .miniGraph]

/-- The place of a panel in that order. -/
def index : Panel → Nat
  | .offset => 0
  | .jumpPreview => 1
  | .function => 2
  | .references => 3
  | .charts => 4
  | .decompiled => 5
  | .miniGraph => 6

def trigger : Panel → PanelTrigger
  | .offset => .perAddress
  | .jumpPreview => .perAddress
  | _ => .perFunction

def name : Panel → String
  | .offset => "offset"
  | .jumpPreview => "jump_preview"
  | .function => "function"
  | .references => "references"
  | .charts => "charts"
  | .decompiled => "decompiled"
  | .miniGraph => "mini_graph"

def named? (s : String) : Option Panel :=
  ordered.find? (·.name = s)

end Panel

structure LabelledValue where
  label : String
  value : String
deriving DecidableEq, Repr

/-- What an instruction does. -/
structure OpcodeNote where
  mnemonic : String
  text : String
deriving DecidableEq, Repr

/-- What is known about a location. -/
structure LocationFacts where
  rows : List LabelledValue
  note? : Option OpcodeNote
deriving DecidableEq, Repr

/-- The surroundings of a jump's target; the highlight is the index of the target's
line. -/
structure TargetWindow where
  target : Address
  lines : List String
  highlight? : Option Nat
deriving DecidableEq, Repr

/-- A row of a list of references: the reference, the end it shows, and the line of
the referring instruction. -/
structure ReferenceRow where
  edge : Reference
  address : Address
  preview : String
deriving DecidableEq, Repr

/-- The references out of a function and into it. -/
structure ReferenceRows where
  outgoing : List ReferenceRow := []
  incoming : List ReferenceRow := []
deriving DecidableEq, Repr

def ReferenceRows.entries (l : ReferenceRows) : Direction → List ReferenceRow
  | .outgoing => l.outgoing
  | .incoming => l.incoming

/-- The numbers of a function and their chart pages. -/
structure MetricCharts where
  metrics : Metrics
  pages : RenderedCharts
deriving DecidableEq, Repr

/-- The graph of a function and its page. -/
structure FunctionGraph where
  description : String
  page : String
deriving DecidableEq, Repr

/-- What a panel can hold. -/
inductive Content where
  | offset (info : LocationFacts)
  | jumpPreview (preview : TargetWindow)
  | function (label : String)
  | references (lists : ReferenceRows)
  | charts (charts : MetricCharts)
  | decompiled (text : String)
  | miniGraph (graph : FunctionGraph)
deriving DecidableEq, Repr

def Content.panel : Content → Panel
  | .offset _ => .offset
  | .jumpPreview _ => .jumpPreview
  | .function _ => .function
  | .references _ => .references
  | .charts _ => .charts
  | .decompiled _ => .decompiled
  | .miniGraph _ => .miniGraph

inductive PanelUpdate where
  | fill (content : Content)
  | clear (panel : Panel)
deriving DecidableEq, Repr

namespace PanelUpdate

def panel : PanelUpdate → Panel
  | .fill c => c.panel
  | .clear k => k

/-- The content the panel holds afterwards. -/
def content? : PanelUpdate → Option Content
  | .fill c => some c
  | .clear _ => none

end PanelUpdate

/-- The contents of all panels, a revision that changes with them, and how often each
panel was written. -/
structure Panels where
  revision : UInt64 := 0
  offset? : Option LocationFacts := none
  jumpPreview? : Option TargetWindow := none
  function? : Option String := none
  references? : Option ReferenceRows := none
  charts? : Option MetricCharts := none
  decompiled? : Option String := none
  miniGraph? : Option FunctionGraph := none
  writes : List Nat := Panel.ordered.map fun _ => 0
deriving DecidableEq, Repr

namespace Panels

def content? (p : Panels) : Panel → Option Content
  | .offset => p.offset?.map .offset
  | .jumpPreview => p.jumpPreview?.map .jumpPreview
  | .function => p.function?.map .function
  | .references => p.references?.map .references
  | .charts => p.charts?.map .charts
  | .decompiled => p.decompiled?.map .decompiled
  | .miniGraph => p.miniGraph?.map .miniGraph

def isEmpty (p : Panels) (k : Panel) : Bool :=
  (p.content? k).isNone

/-- How often a panel was written. -/
def writeCount (p : Panels) (k : Panel) : Nat :=
  p.writes.getD k.index 0

def clear (p : Panels) : Panel → Panels
  | .offset => { p with offset? := none }
  | .jumpPreview => { p with jumpPreview? := none }
  | .function => { p with function? := none }
  | .references => { p with references? := none }
  | .charts => { p with charts? := none }
  | .decompiled => { p with decompiled? := none }
  | .miniGraph => { p with miniGraph? := none }

def fill (p : Panels) : Content → Panels
  | .offset i => { p with offset? := some i }
  | .jumpPreview v => { p with jumpPreview? := some v }
  | .function l => { p with function? := some l }
  | .references l => { p with references? := some l }
  | .charts c => { p with charts? := some c }
  | .decompiled t => { p with decompiled? := some t }
  | .miniGraph g => { p with miniGraph? := some g }

/-- Applies an update and tells whether what is shown changed; only then does the
revision change. -/
def apply (p : Panels) (w : PanelUpdate) : Panels × Bool :=
  let changed := p.content? w.panel ≠ w.content?
  let q := match w with
    | .fill c => p.fill c
    | .clear k => p.clear k
  ({ q with
      writes := q.writes.modify w.panel.index (· + 1)
      revision := if changed then q.revision + 1 else q.revision }, changed)

/-- The panels after each of some updates, and whether that one changed what is shown. -/
def trail (p : Panels) : List PanelUpdate → List (Panels × Bool)
  | [] => []
  | w :: ws => p.apply w :: (p.apply w).1.trail ws

def applyAll (p : Panels) (ws : List PanelUpdate) : Panels :=
  ws.foldl (fun p w => (p.apply w).1) p

def referenceCount (p : Panels) (d : Direction) : Nat :=
  match p.references? with
  | some l => (l.entries d).length
  | none => 0

end Panels

end AsmView
