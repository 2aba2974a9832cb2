/-
# The view session

A session holds the listing and what feeds it, the pending navigation, the focus, the
panels, the history of places left, and a queue of events for whoever shows the view.
This module has the state, notices, and the focus pass; reloading and the user's moves
are built on it.
-/
import AsmView.Config
import AsmView.Feed
import AsmView.Panel.Refill

namespace AsmView

/-- What a session tells its surroundings. -/
inductive ViewEvent where
  /-- The focused address changed. -/
  | focusChanged (address : Address) (function : String)
  /-- The text was replaced. -/
  | refreshed (anchor : Option Address) (lines : Nat)
  /-- Something failed. -/
  | notice (text : String)
deriving DecidableEq, Repr

structure Stats where
  refreshes : Nat := 0
  focusPasses : Nat := 0
  fullRefills : Nat := 0
  lightRefills : Nat := 0
  delivered : Nat := 0
  suppressed : Nat := 0
deriving DecidableEq, Repr

structure Session (σ : Type) extends Feed σ where
  config : Config
  templates : TemplateStore := .builtin
  /-- Where the next reload goes. -/
  pending? : Option Address := none
  watch : FocusWatch := {}
  cache : FocusFacts := {}
  panels : Panels := {}
  /-- Events not taken yet, oldest first. -/
  events : List ViewEvent := []
  lastNotice? : Option String := none
  /-- Panel failures already announced. -/
  announced : List (Panel × PanelFault.Kind) := []
  /-- Places left, most recent first. -/
  history : List Address := []
  stats : Stats := {}

namespace Session

/-- The height of the window before anything is known about it. -/
def defaultHeight : Nat := 32

def new {σ : Type} (engine : σ) (config : Config) (templates : TemplateStore := .builtin) :
    Session σ :=
  { engine, config, templates
    listing := Listing.empty defaultHeight
    pager := Pager.new config.batchSize config.passCap config.threshold }

def emit {σ : Type} (s : Session σ) (e : ViewEvent) : Session σ :=
  { s with events := s.events ++ [e] }

/-- Queues a notice, unless it repeats the one before. -/
def announce {σ : Type} (s : Session σ) (text : String) : Session σ :=
  if s.lastNotice? = some text then s
  else { s.emit (.notice text) with lastNotice? := some text }

def takeEvents {σ : Type} (s : Session σ) : List ViewEvent × Session σ :=
  (s.events, { s with events := [] })

variable {σ : Type} [Analyzer σ]

/-- Applies one update of a panel.  A panel that is filled has its failures announced
anew. -/
def applyUpdate {σ : Type} (s : Session σ) (w : PanelUpdate) : Session σ :=
  { s with
    panels := (s.panels.apply w).1
    announced := match w with
      | .fill c => s.announced.filter (·.1 ≠ c.panel)
      | .clear _ => s.announced }

/-- Clears a panel that failed, and announces the failure unless that was done
before. -/
def applyFailure {σ : Type} (s : Session σ) (failure : Panel × PanelFault) : Session σ :=
  let (panel, fault) := failure
  let s := { s with panels := (s.panels.apply (.clear panel)).1 }
  if s.announced.contains (panel, fault.kind) then s
  else
    { s with announced := s.announced ++ [(panel, fault.kind)] }.emit
      (.notice s!"{panel.name} panel: {fault.message}")

/-- What a refill works with, in the pass that the session is at. -/
def settings {σ : Type} (s : Session σ) : RefillSettings :=
  ⟨s.templates.inPass s.stats.focusPasses, s.config.previewLines⟩

/-- Brings the panels of a scope up to date. -/
def refill (s : Session σ) (e : FocusEvent) (scope : Refill.Scope) : Session σ :=
  let stats := match scope with
    | .full => { s.stats with fullRefills := s.stats.fullRefills + 1 }
    | .perAddress => { s.stats with lightRefills := s.stats.lightRefills + 1 }
  let (report, desk) := Refill.run s.settings e scope ⟨s.engine, {}⟩
  let s := { s with stats, engine := desk.engine, cache := desk.cache }
  report.failures.foldl applyFailure (report.writes.foldl applyUpdate s)

/-- Follows the focus to the line under the cursor and brings the panels up to date:
all of them when the function changed, else those that depend on the address. -/
def updateFocus (s : Session σ) : Session σ :=
  let s := { s with stats := { s.stats with focusPasses := s.stats.focusPasses + 1 } }
  let before := s.watch.focus.address
  let (outcome, watch, engine) := s.watch.observe s.listing.cursorLine? s.engine
  let s := { s with watch, engine }
  match outcome with
  | .error f => s.announce s!"cannot resolve focus: {f.message}"
  | .ok .ignored => s
  | .ok (.sameFunction e) =>
    let s := s.refill e .perAddress
    -- a cursor that moved within its line has nothing new to tell
    if before = some e.address then s else s.emit (.focusChanged e.address e.function)
  | .ok (.functionChanged e) =>
    (s.refill e .full).emit (.focusChanged e.address e.function)

end Session

end AsmView
