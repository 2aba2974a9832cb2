/-
# Frames

The application on a screen of a given size.  The disassembly takes the left part, or
everything when the side panel is hidden; the side panel has the information box, the two
lists of references, the tabs with their box, and the metrics; the last row is the footer.
-/
import AsmView.App
import AsmView.Screen.BarChart
import AsmView.Screen.Wrap

namespace AsmView

open Text Screen

/-- What is on screen: the cells, and the cursor's column and row if it shows. -/
structure Frame where
  grid : Grid
  cursor? : Option (Nat × Nat) := none

def Frame.rows (f : Frame) : List String :=
  f.grid.map fun row => String.join (row.map (·.symbol))

/-- The stretches of cells of one style in all rows, each with its row. -/
def Frame.runs (f : Frame) : List (Nat × StyleRun) :=
  f.grid.zipIdx.flatMap fun (row, y) => (styleRuns 0 row).map fun r => (y, r)

/-- How the rows of the side panel are shared out. -/
structure SideRows where
  info : Nat
  lists : Nat
  tabs : Nat
  body : Nat
  metrics : Nat
deriving DecidableEq, Repr

namespace SideRows

def metricsHeight : Nat := 9

def infoHeight : Nat := 8

/-- The shares of a side panel of a height: first the metrics, then the information, then
three tenths for the lists; what is left is for the tabs and their box. -/
def ofHeight (height : Nat) : SideRows :=
  let metrics := min metricsHeight height
  let info := min infoHeight (height - metrics)
  let lists := min ((3 * height + 5) / 10) (height - metrics - info)
  let rest := height - metrics - info - lists
  ⟨info, lists, min rest 1, rest - 1, metrics⟩

end SideRows

/-- The part of a screen's width that the disassembly takes beside the side panel: 58 in a
hundred, rounded. -/
def mainWidth (width : Nat) : Nat :=
  (58 * width + 50) / 100

/-- A width shared between the two lists of references; the first takes what is left
over. -/
def halves (width : Nat) : Nat × Nat :=
  ((width + 1) / 2, width - (width + 1) / 2)

/-- A box with rows of glyphs inside. -/
def textBox (base border : Style) (title : String) (width height : Nat)
    (rows : List (List Glyph)) : Grid :=
  let inside := Grid.fit base (width - 2) (height - 2) (rows.map (textRow base (width - 2)))
  boxed (base.patch border) title width height inside

/-- A box of a list, from a line on, with one line selected. -/
def listBox (base border selection : Style) (title : String) (width height : Nat)
    (place : ListPlace) (lines : List InkLine) : Grid :=
  let box := boxed (base.patch border) title width height
    (Grid.blank base (width - 2) (height - 2))
  let shown := (lines.zipIdx.drop place.offset).take (height - 2)
  let written (line : InkLine) (i : Nat) (row : List Cell) : List Cell :=
    let row := writeSpans line.style (width - 1) 1 line.spans row
    if place.selected? = some i then
      row.mapIdx fun x c => if 0 < x && x + 1 < width then c.patch selection else c
    else row
  if width ≤ 2 then box
  else box.mapIdx fun y row =>
    match y with
    | 0 => row
    | y + 1 =>
      match shown[y]? with
      | some (line, i) => written line i row
      | none => row

/-- The place in a list that is shown in a box with so many columns and rows inside: it
starts at the same row as before, or as near as it has to for the selected row to be seen.
Where nothing is shown it stays as it is. -/
def ListPlace.scrollInto (p : ListPlace) (columns rows count : Nat) : ListPlace :=
  if columns = 0 || rows = 0 || count = 0 then p
  else
    let first := min p.offset (count - 1)
    let wanted := min (p.selected?.getD first) (count - 1)
    { p with offset :=
        if wanted < first then wanted else if first + rows ≤ wanted then wanted + 1 - rows
        else first }

namespace App

variable {σ : Type}

def disassemblyBox (a : App σ) (width height : Nat) : Grid :=
  let listing := a.session.listing
  let more? := listing.anchor.map fun anchor => s!"@ {anchor}  {listing.count} lines"
  let lines := listing.visible.mapIdx fun i line =>
    disassemblyLine a.theme line (listing.top + i = listing.cursor.line)
  let lines := if lines.isEmpty then [.whole "No disassembly loaded" a.theme.alarm] else lines
  textBox a.theme.base (a.theme.border (a.pane = .disassembly))
    (boxTitle "Disassembly" '1' more?) width height
    (lines.map (·.cutTo (width - 2)))

/-- The box of what is known about the focus. -/
def infoBox (a : App σ) (width height : Nat) : Grid :=
  let lines := locationInk a.theme a.session.panels
  textBox a.theme.base (a.theme.border false) (boxTitle "Offset" '2' none) width height
    (lines.flatMap fun l => wrapped (width - 2) l.glyphs)

def entries (a : App σ) (d : Direction) : List ReferenceRow :=
  match a.session.panels.references? with
  | some lists => lists.entries d
  | none => []

def entriesBox (a : App σ) (d : Direction) (label : String) (key : Char) (width height : Nat) :
    Grid :=
  let entries := a.entries d
  listBox a.theme.base (a.theme.border (a.pane.direction? = some d)) a.theme.selection
    (boxTitle label key (some (decimalText entries.length))) width height (a.place d)
    (entries.map (referenceInk a.theme))

def tabsRow (a : App σ) (width : Nat) : List Cell :=
  let title (t : SidePage) : List Span :=
    [⟨" ", {}⟩, ⟨t.title, if t = a.tab then a.theme.label else {}⟩, ⟨" ", {}⟩]
  let spans := List.intercalate [⟨"│", {}⟩] (SidePage.all.map title)
  textRow a.theme.footerLabel width (InkLine.cutTo width ⟨{}, spans⟩)

/-- The text of the selected tab, and how many of its lines are scrolled away. -/
def tabText (a : App σ) : Ink × Nat :=
  let panels := a.session.panels
  match a.tab with
  | .preview =>
    match panels.jumpPreview? with
    | some p => (windowInk a.theme p, windowScroll p)
    | none => (emptyNote a.theme "No jump target", 0)
  | .decompiled =>
    ((panels.decompiled?.map Ink.plain).getD (emptyNote a.theme "No decompiled body"), 0)
  | .graph =>
    ((panels.miniGraph?.map fun g => Ink.plain g.description).getD
      (emptyNote a.theme "No graph"), 0)

def tabBox (a : App σ) (width height : Nat) : Grid :=
  let (lines, scroll) := a.tabText
  let label := a.session.panels.function?.getD "no function"
  textBox a.theme.base (a.theme.border false) (boxTitle label '5' none) width height
    ((lines.drop scroll).map (·.cutTo (width - 2)))

/-- The box of the metrics, unless their chart overflows. -/
def metricsBox? (a : App σ) (width height : Nat) : Option Grid :=
  let title := boxTitle "Metrics" '6' (some a.chart.name)
  let border := a.theme.border false
  match a.session.panels.charts?, a.chart with
  | none, _ =>
    some (textBox {} border title width height
      ((emptyNote a.theme "No metrics").map (·.cutTo (width - 2))))
  | some charts, .bar =>
    (BarChart.grid? a.theme charts.metrics (width - 2) (height - 2)).map
      (boxed border title width height)
  | some charts, .radial =>
    (arcsInk? a.theme charts.metrics).map fun arcs =>
      textBox a.theme.base border title width height (arcs.map (·.cutTo (width - 2)))

def sidePanel? (a : App σ) (width height : Nat) : Option Grid := do
  let rows := SideRows.ofHeight height
  let (left, right) := halves width
  let metrics ← a.metricsBox? width rows.metrics
  some (a.infoBox width rows.info ++
    Grid.beside (a.entriesBox .outgoing "Calls" '3' left rows.lists)
      (a.entriesBox .incoming "Callers" '4' right rows.lists) ++
    (if rows.tabs = 0 then [] else [a.tabsRow width]) ++
    a.tabBox width rows.body ++
    metrics)

/-- Everything above the footer. -/
def mainArea? (a : App σ) (width height : Nat) : Option Grid :=
  if a.sideVisible then
    let left := mainWidth width
    (a.sidePanel? (width - left) height).map (Grid.beside (a.disassemblyBox left height))
  else some (a.disassemblyBox width height)

/-- The message behind the footer, while it is alive. -/
def message (a : App σ) : String :=
  match a.toast? with
  | some t => if t.expired then "" else s!" | {t.message}"
  | none => ""

/-- Text at the right end of a row, laid over what is there. -/
def overlayRight (row : List Cell) (gs : List Glyph) : List Cell :=
  let laid := glyphCells {} gs
  let start := row.length - laid.length
  row.take start ++
    List.zipWith (fun c o => { o with style := c.style.patch o.style }) (row.drop start) laid

def statusRow (a : App σ) (width : Nat) : List Cell :=
  match a.prompt? with
  | some query => textRow {} width ((promptLine a.theme query a.message).cutTo width)
  | none =>
    overlayRight (textRow {} width ((a.footerLine a.message).cutTo width))
      ((brandLine a.theme).cutTo width)

/-- Where the cursor stands while a place is asked for: behind the query, or in the last
column. -/
def promptCursor? (a : App σ) (width height : Nat) : Option (Nat × Nat) :=
  a.prompt?.map fun query => (min (promptLead.length + query.length) (width - 1), height - 1)

/-- The lists scrolled to where their selected rows are seen. -/
def scrollLists (a : App σ) (width height : Nat) : App σ :=
  if !a.sideVisible then a
  else
    let rows := (SideRows.ofHeight height).lists - 2
    let (left, right) := halves (width - mainWidth width)
    let scroll (a : App σ) (d : Direction) (width : Nat) : App σ :=
      a.setPlace ((a.place d).scrollInto (width - 2) rows (a.rowCount d)) d
    scroll (scroll a .outgoing left) .incoming right

/-- The application as it is, on a screen of a size. -/
def paint? (a : App σ) (width height : Nat) : Option Frame := do
  let area ← a.mainArea? width (height - 1)
  let footer := if height = 0 then [] else [a.statusRow width]
  some { grid := (area ++ footer).map (Cell.seen false), cursor? := a.promptCursor? width height }

/-- Draws a frame, or stops where painting overflows.  First the view learns the height of
its window, which may make it load more; a message that has expired is dropped afterwards. -/
def draw [Analyzer σ] (a : App σ) (width height : Nat) : App σ × Option Frame :=
  let a := (a.updateSession (·.setHeight (max (height - 3) 1))).takeEvents
  let a := a.scrollLists width (height - 1)
  let frame? := a.paint? width height
  ({ a with toast? := a.toast?.filter (!·.expired) }, frame?)

end App

end AsmView
