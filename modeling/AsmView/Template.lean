/-
# Page templates

A page is a template text with its first marker replaced by a payload.  Templates
are built in, or come from a directory; a template that cannot be read or has no marker
is a fault.
-/
import AsmView.Disk
import AsmView.Json.Printer
import AsmView.Routine
import AsmView.Template.Builtin
import AsmView.Text.Lines
import AsmView.Text.Quoted

namespace AsmView

open Text

/-- The pages there are templates for. -/
inductive PageKind where
  | bar
  | radial
  | graph
deriving DecidableEq, Repr

/-- The file a template is kept in. -/
def PageKind.fileName : PageKind → String
  | .bar => "fcn_bar.html"
  | .radial => "fcn_radial.html"
  | .graph => "mini_graph.html"

/-- The built-in template of a page. -/
def PageKind.builtin : PageKind → String
  | .bar => String.join (Template.barPage.map (· ++ "\n"))
  | .radial => String.join (Template.radialPage.map (· ++ "\n"))
  | .graph => String.join (Template.graphPage.map (· ++ "\n"))

/-- The templates that one pass finds: the built-in pages, or what reading each of the
files in a directory comes to. -/
inductive TemplateSource where
  | builtin
  | directory (path : String) (files : PageKind → Except IoFault String)

/-- Where templates are kept.  The files in a directory are read anew in every pass, so an
edit shows with the next one; since no pass reads a file twice, the number of the pass says
what it finds. -/
inductive TemplateStore where
  | builtin
  | directory (path : String) (files : Nat → PageKind → Except IoFault String)

/-- Why a page cannot be made. -/
inductive TemplateFault where
  | missing (name path : String) (fault : IoFault)
  | noMarker (name : String)
deriving DecidableEq, Repr

def TemplateFault.message : TemplateFault → String
  | .missing name path fault => s!"missing template {name} at {quoted path}: {fault.message}"
  | .noMarker name => s!"template {name} has no \x7b\x7bpayload\x7d\x7d substitution point"

structure RenderedCharts where
  bar : String
  radial : String
deriving DecidableEq, Repr

def joinPath (dir name : String) : String :=
  match dir.toList.getLast? with
  | none => name
  | some '/' => dir ++ name
  | some _ => dir ++ "/" ++ name

namespace TemplateSource

/-- The marker that the payload replaces. -/
def marker : List Char :=
  "\x7b\x7bpayload\x7d\x7d".toList

/-- The text a template is kept as. -/
def text (source : TemplateSource) (kind : PageKind) : Except TemplateFault String :=
  match source with
  | .builtin => .ok kind.builtin
  | .directory path files =>
    (files kind).mapError (.missing kind.fileName (joinPath path kind.fileName))

/-- A template with a marker. -/
def load (source : TemplateSource) (kind : PageKind) : Except TemplateFault String := do
  let t ← source.text kind
  if occursIn marker t.toList then .ok t else .error (.noMarker kind.fileName)

/-- The page for a payload. -/
def render (source : TemplateSource) (kind : PageKind) (payload : List Char) :
    Except TemplateFault String := do
  let t ← source.load kind
  .ok (String.ofList (replaceFirst marker payload t.toList))

/-- Numbers separated by commas, each written by `form`. -/
def numberList (form : List Char → List Char) (values : List UInt64) : List Char :=
  List.intercalate [',', ' '] (values.map fun v => form (decimal v.toNat))

/-- The chart pages: the bar page takes quoted numbers, the radial page bare ones. -/
def chartPages (source : TemplateSource) (m : Metrics) : Except TemplateFault RenderedCharts := do
  let bar ← source.render .bar (numberList (fun ds => '"' :: ds ++ ['"']) m.values)
  let radial ← source.render .radial (numberList id m.values)
  .ok ⟨bar, radial⟩

/-- The graph page, which takes the description as a string literal. -/
def graphPage (source : TemplateSource) (description : String) : Except TemplateFault String :=
  source.render .graph (Json.stringLiteral description)

end TemplateSource

namespace TemplateStore

def inPass (store : TemplateStore) (pass : Nat) : TemplateSource :=
  match store with
  | .builtin => .builtin
  | .directory path files => .directory path (files pass)

/-- Templates that nobody edits: all passes find the same. -/
def still : TemplateSource → TemplateStore
  | .builtin => .builtin
  | .directory path files => .directory path fun _ => files

/-- The templates in a directory, or the built-in ones, as they are now. -/
def current {m : Type → Type} [Monad m] [Disk m] (dir? : Option String) : m TemplateStore := do
  let some dir := dir? | pure .builtin
  let file (kind : PageKind) := (Disk.readText (joinPath dir kind.fileName)).run
  let bar ← file .bar
  let radial ← file .radial
  let graph ← file .graph
  pure (.directory dir fun _ => fun
    | .bar => bar
    | .radial => radial
    | .graph => graph)

end TemplateStore

end AsmView
