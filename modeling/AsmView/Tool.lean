/-
# Tools for other programs

Five tools answer questions about the view from what is posted on the board, and one
of them leaves a request there.  Every answer is an object that ends with the board's
revision and whether a view has posted anything.
-/
import AsmView.Board
import AsmView.Json.Printer
import AsmView.Seek

namespace AsmView

open Json

inductive ToolCall where
  | readView
  | seek (target : String)
  | readFocus
  | readPanels
  | listReferences (direction? : Option String)
deriving DecidableEq, Repr

/-- Why a tool refuses a call. -/
inductive ToolFault where
  | unresolvedTarget (target : String)
  | unknownDirection (direction : String)
deriving DecidableEq, Repr

namespace ToolFault

/-- The code of a call with parameters that make no sense. -/
def code : Int := -32602

def message : ToolFault → String
  | .unresolvedTarget _ => "target is neither a hex address nor a known function name"
  | .unknownDirection _ => "invalid direction (expected outgoing|incoming)"

/-- The parameter that was refused. -/
def data : ToolFault → Value
  | .unresolvedTarget t => .object [("target", .text t)]
  | .unknownDirection d => .object [("direction", .text d)]

end ToolFault

namespace Tool

/-- What the tools are for, in one line. -/
def instructions : String :=
  "disview disassembly viewport server (tools: view.read_state, view.seek, focus.read, panels.read, xref.list)"

/-- The tools by name, with their descriptions. -/
def descriptions : List (String × String) := [
  ("focus.read", "Read the focused address, its owning function and the line under the cursor."),
  ("panels.read",
    "Read the synchronized panels for the current focus (metadata, jump preview, label,\nmetrics, decompiled body, mini graph)."),
  ("view.read_state",
    "Read the viewport: anchor, cursor, scroll, visible text, pending seek and seek history."),
  ("view.seek",
    "Move the viewport to a hex address or a function name. The TUI applies the request on its\nnext cycle; a newer request replaces one that was not applied yet."),
  ("xref.list",
    "List cross references of the focused function; `direction` is `outgoing` or `incoming`.")]

def ofAddress (a : Address) : Value := .text a.text

def ofCount (n : Nat) : Value := .count n.toUInt64.toNat

def ofLines (lines : List String) : Value := .list (lines.map .text)

/-- An answer: its members, and the state of the board they were read from. -/
def answer (b : Board) (members : List (String × Value)) : Value :=
  .object (members ++ [("context",
    .object [("ui_rev", .count b.revision.toNat), ("attached", .flag b.isAttached)])])

def ofCursor (c : Cursor) : Value :=
  .object [("line", ofCount c.line), ("column", ofCount c.column)]

/-- The view as posted; before anything is posted, an empty one without height. -/
def readView (b : Board) : Value :=
  let get {α : Type} (f : Snapshot → α) (none_ : α) : α := (b.snapshot?.map f).getD none_
  answer b [
    ("anchor", .orNull ofAddress (get (·.anchor) none)),
    ("cursor", ofCursor (get (·.cursor) {})),
    ("scroll_top", ofCount (get (·.top) 0)),
    ("height", ofCount (get (·.height) 0)),
    ("line_count", ofCount (get (·.count) 0)),
    ("visible_lines", ofLines (get (·.visible) [])),
    ("pending_seek", .orNull ofAddress b.pending?),
    ("history", .list ((get (·.history) []).map ofAddress))]

/-- Leaves a request to go to what a query stands for among the posted functions. -/
def seek (b : Board) (query : String) : Except ToolFault Value × Board :=
  match Destination.resolve? query ((b.snapshot?.map (·.functions)).getD []) with
  | none => (.error (.unresolvedTarget query), b)
  | some target =>
    let (b, replaced) := b.request target.place
    (.ok (answer b [
      ("address", ofAddress target.place),
      ("function", .orNull .text target.functionName?),
      ("replaced", .orNull ofAddress replaced)]), b)

def readFocus (b : Board) : Value :=
  let function? := (b.snapshot?.map (·.focus.function)).filter (!·.isEmpty)
  answer b [
    ("address", .orNull ofAddress (b.snapshot?.bind (·.focus.address))),
    ("function", .orNull .text function?),
    ("cursor_line", .orNull .text (b.snapshot?.bind (·.cursorLine?)))]

/-- A labelled value in an answer. -/
def ofRow (r : LabelledValue) : Value :=
  .object [("label", .text r.label), ("value", .text r.value)]

/-- The note on an instruction in an answer. -/
def ofNote (n : OpcodeNote) : Value :=
  .object [("mnemonic", .text n.mnemonic), ("text", .text n.text)]

/-- A jump preview in an answer. -/
def ofPreview (p : TargetWindow) : Value :=
  .object [("target", ofAddress p.target), ("lines", ofLines p.lines),
    ("highlight", .orNull ofCount p.highlight?)]

def ofMetrics (m : Metrics) : Value :=
  .object [("cyclomatic_complexity", .count m.complexity.toNat),
    ("outgoing", .count m.outgoing.toNat), ("basic_blocks", .count m.blocks.toNat),
    ("incoming", .count m.incoming.toNat), ("exit_blocks", .count m.exits.toNat)]

def readPanels (b : Board) : Value :=
  let panels := (b.snapshot?.map (·.panels)).getD {}
  answer b [
    ("function_label", .orNull .text panels.function?),
    ("offset_rows", .list (((panels.offset?.map (·.rows)).getD []).map ofRow)),
    ("opcode", .orNull ofNote (panels.offset?.bind (·.note?))),
    ("jump_preview", .orNull ofPreview panels.jumpPreview?),
    ("metrics", .orNull (ofMetrics ·.metrics) panels.charts?),
    ("decompiled", .orNull .text panels.decompiled?),
    ("mini_graph", .orNull (.text ·.description) panels.miniGraph?)]

/-- A row of references in an answer. -/
def ofEntry (d : Direction) (r : ReferenceRow) : Value :=
  .object [("direction", .text d.name), ("kind", .text r.edge.kind.name),
    ("from", ofAddress r.edge.source), ("to", ofAddress r.edge.target),
    ("preview", .text r.preview)]

/-- The directions a parameter asks for: both when it is absent or empty. -/
def directions (direction? : Option String) : Except ToolFault (List Direction) :=
  match direction?.filter (!·.isEmpty) with
  | none => .ok [.outgoing, .incoming]
  | some text =>
    match Direction.parse? text with
    | some d => .ok [d]
    | none => .error (.unknownDirection text)

/-- The references of the focused function as posted. -/
def listReferences (b : Board) (direction? : Option String) : Except ToolFault Value := do
  let wanted ← directions direction?
  let lists := (b.snapshot?.bind (·.panels.references?)).getD {}
  .ok (answer b [
    ("xrefs", .list (wanted.flatMap fun d => (lists.entries d).map (ofEntry d)))])

def call (b : Board) : ToolCall → Except ToolFault Value × Board
  | .readView => (.ok (readView b), b)
  | .seek target => seek b target
  | .readFocus => (.ok (readFocus b), b)
  | .readPanels => (.ok (readPanels b), b)
  | .listReferences direction? => (listReferences b direction?, b)

end Tool

end AsmView
