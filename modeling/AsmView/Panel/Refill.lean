/-
# From a focus to the panels

One change of focus is turned into one update per panel.  Each panel has a handler
that asks the analyzer and answers with a content or with nothing, which clears the
panel; a handler that fails does not keep the others from running.  References and
numbers of the focused function are asked for once and shared between the handlers.
-/
import AsmView.Focus
import AsmView.Panel.Rows

namespace AsmView

open Text

/-- Why a panel could not be filled. -/
inductive PanelFault where
  | engine (fault : EngineFault)
  | template (fault : TemplateFault)
deriving DecidableEq, Repr

namespace PanelFault

inductive Kind where
  | engine
  | template
deriving DecidableEq, Repr

def Kind.name : Kind → String
  | .engine => "engine"
  | .template => "template"

def kind : PanelFault → Kind
  | .engine _ => .engine
  | .template _ => .template

def message : PanelFault → String
  | .engine f => f.message
  | .template f => f.message

end PanelFault

/-- References and numbers of the focused address, as far as they were asked for. -/
structure FocusFacts where
  address : Option Address := none
  outgoing? : Option (List Reference) := none
  incoming? : Option (List Reference) := none
  metrics? : Option Metrics := none
deriving DecidableEq, Repr

namespace FocusFacts

/-- Forgets everything unless the address is the one it belongs to. -/
def focusOn (c : FocusFacts) (a : Address) : FocusFacts :=
  if c.address = some a then c else { address := some a }

def references? (c : FocusFacts) : Direction → Option (List Reference)
  | .outgoing => c.outgoing?
  | .incoming => c.incoming?

def setReferences (c : FocusFacts) (edges : List Reference) : Direction → FocusFacts
  | .outgoing => { c with outgoing? := some edges }
  | .incoming => { c with incoming? := some edges }

end FocusFacts

/-- What the handlers of one pass share: the analyzer and the cache. -/
structure Desk (σ : Type) where
  engine : σ
  cache : FocusFacts := {}

/-- A handler's work: a value or a fault, and the desk as it is left. -/
abbrev Handler (σ : Type) := ExceptT PanelFault (StateM (Desk σ))

/-- Settings of a refill that do not depend on the focus. -/
structure RefillSettings where
  templates : TemplateSource
  previewLines : Nat

namespace Refill

variable {σ : Type} [Analyzer σ]

def ask {σ α : Type} (q : Query σ α) : Handler σ α := fun d =>
  match q.ask d.engine with
  | (.ok a, engine) => (.ok a, { d with engine })
  | (.error f, engine) => (.error (.engine f), { d with engine })

/-- Takes a page, or the fault of its template. -/
def page {σ α : Type} (r : Except TemplateFault α) : Handler σ α :=
  match r with
  | .ok a => pure a
  | .error f => throw (.template f)

def updateCache {σ : Type} (f : FocusFacts → FocusFacts) : Handler σ Unit :=
  modify fun d => { d with cache := f d.cache }

/-- The references of the focused function in a direction, asked for at most once. -/
def sharedReferences (a : Address) (direction : Direction) : Handler σ (List Reference) := do
  -- no fact of another address may be taken for one of this
  updateCache (·.focusOn a)
  match (← get).cache.references? direction with
  | some edges => pure edges
  | none => do
    ask (Analyzer.reposition a)
    let edges ← ask (Analyzer.references a direction)
    updateCache (·.setReferences edges direction)
    pure edges

/-- The numbers of the focused function, asked for at most once. -/
def sharedMetrics (a : Address) : Handler σ Metrics := do
  updateCache (·.focusOn a)
  match (← get).cache.metrics? with
  | some m => pure m
  | none => do
    let outgoing ← sharedReferences a .outgoing
    let incoming ← sharedReferences a .incoming
    ask (Analyzer.reposition a)
    let complexity ← ask (Analyzer.complexity a)
    let blocks ← ask (Analyzer.blockCount a)
    let exits ← ask (Analyzer.exitCount a)
    let m : Metrics :=
      ⟨outgoing.length.toUInt64, incoming.length.toUInt64, complexity, blocks, exits⟩
    updateCache ({ · with metrics? := some m })
    pure m

def offset (e : FocusEvent) : Handler σ (Option Content) := do
  ask (Analyzer.reposition e.address)
  let rows := LabelledValue.ofText (← ask (Analyzer.offsetInfo e.address))
  let note? := OpcodeNote.ofText? (← ask (Analyzer.opcodeDescription e.address))
  if rows.isEmpty && note?.isNone then pure none
  else pure (some (.offset ⟨rows, note?⟩))

/-- The lines of a window, as a preview of a target; nothing when there are none. -/
def window? (target : Address) (text : String) : Option TargetWindow :=
  let lines := linesOf text
  if lines.isEmpty then none
  else some ⟨target, lines, lines.findIdx? (lineAddress? · = some target)⟩

/-- The first window, from the given places on, that shows the target; else the first
that shows anything. -/
def previewFrom (target : Address) (count : Nat) :
    List Address → Option TargetWindow → Handler σ (Option TargetWindow)
  | [], fallback => pure fallback
  | start :: starts, fallback => do
    ask (Analyzer.reposition start)
    match window? target (← ask (Analyzer.disassemble count)) with
    | none => previewFrom target count starts fallback
    | some preview =>
      if preview.highlight?.isSome then pure (some preview)
      else previewFrom target count starts (fallback.or (some preview))

/-- Where windows on a target start: at the entry of the function that holds it, if
that lies elsewhere, and at the target itself. -/
def windowStarts (target : Address) (functions : List KnownFunction) : List Address :=
  let owner? := functions.find? (·.contains target)
  ((owner?.map (·.entry)).filter (· ≠ target)).toList ++ [target]

/-- The surroundings of the place that the focused line jumps to. -/
def jumpPreview (settings : RefillSettings) (e : FocusEvent) : Handler σ (Option Content) := do
  match ← ask (Analyzer.jumpTarget e.line) with
  | none => pure none
  | some target => do
    let starts := windowStarts target (Analyzer.functions (← get).engine)
    pure ((← previewFrom target settings.previewLines starts none).map .jumpPreview)

def function (e : FocusEvent) : Handler σ (Option Content) := do
  ask (Analyzer.reposition e.address)
  let label := match ← ask (Analyzer.functionAt e.address) with
    | some r => r.fullName
    | none => e.function
  if label.isEmpty then pure none else pure (some (.function label))

/-- The rows of a list of references, with the line of each referring instruction. -/
def entries (direction : Direction) : List Reference → Handler σ (List ReferenceRow)
  | [] => pure []
  | r :: rs => do
    let preview := trim (← ask (Analyzer.disassembleOne r.source))
    let rest ← entries direction rs
    pure (⟨r, r.shownEnd direction, preview⟩ :: rest)

def references (e : FocusEvent) : Handler σ (Option Content) := do
  let outgoing ← entries .outgoing (← sharedReferences e.address .outgoing)
  let incoming ← entries .incoming (← sharedReferences e.address .incoming)
  if outgoing.isEmpty && incoming.isEmpty then pure none
  else pure (some (.references ⟨outgoing, incoming⟩))

def charts (settings : RefillSettings) (e : FocusEvent) : Handler σ (Option Content) := do
  let m ← sharedMetrics e.address
  if m = {} then pure none
  else do
    let pages ← page (settings.templates.chartPages m)
    pure (some (.charts ⟨m, pages⟩))

def decompiled (e : FocusEvent) : Handler σ (Option Content) := do
  if e.function.isEmpty then pure none
  else do
    let text ← ask (Analyzer.decompile e.function)
    if isBlankText text then pure none else pure (some (.decompiled text))

def miniGraph (settings : RefillSettings) (e : FocusEvent) : Handler σ (Option Content) := do
  if e.function.isEmpty then pure none
  else do
    let description ← ask (Analyzer.simplifiedGraph e.function)
    if isBlankText description then pure none
    else do
      let page ← page (settings.templates.graphPage description)
      pure (some (.miniGraph ⟨description, page⟩))

def handler (settings : RefillSettings) (e : FocusEvent) :
    Panel → Handler σ (Option Content)
  | .offset => offset e
  | .jumpPreview => jumpPreview settings e
  | .function => function e
  | .references => references e
  | .charts => charts settings e
  | .decompiled => decompiled e
  | .miniGraph => miniGraph settings e

/-- How much of the panels a pass concerns. -/
inductive Scope where
  | perAddress
  | full
deriving DecidableEq, Repr

/-- The panels of a scope, in order. -/
def Scope.panels : Scope → List Panel
  | .full => Panel.ordered
  | .perAddress => Panel.ordered.filter (·.trigger = .perAddress)

/-- What a pass came to: updates and failures, each in order of the panels. -/
structure Report where
  writes : List PanelUpdate := []
  failures : List (Panel × PanelFault) := []
deriving DecidableEq, Repr

/-- Runs the handlers of some panels, one after the other. -/
def runPanels (settings : RefillSettings) (e : FocusEvent) :
    List Panel → Desk σ → Report × Desk σ
  | [], d => ({}, d)
  | k :: ks, d =>
    let (outcome, d) := (handler settings e k).run.run d
    let (rest, d) := runPanels settings e ks d
    match outcome with
    | .ok (some c) => ({ rest with writes := .fill c :: rest.writes }, d)
    | .ok none => ({ rest with writes := .clear k :: rest.writes }, d)
    | .error f => ({ rest with failures := (k, f) :: rest.failures }, d)

/-- Runs the handlers that a scope selects. -/
def run (settings : RefillSettings) (e : FocusEvent) (scope : Scope) (d : Desk σ) :
    Report × Desk σ :=
  runPanels settings e scope.panels d

end Refill

end AsmView
