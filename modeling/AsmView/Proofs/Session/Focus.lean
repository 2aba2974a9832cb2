/-
# What a focus pass does to a session

A refill changes the panels and the records kept about them, and asks the analyzer;
`refill_eq` says so in one equation, in which everything else is visibly the old
session.  A panel that the refill concerns holds afterwards what the report has for it,
whatever it held before.  `updateFocus_eq` is the same equation for a whole focus pass.
-/
import AsmView.Session
import AsmView.Proofs.Focus
import AsmView.Proofs.Panel
import AsmView.Proofs.Panel.Refill

namespace AsmView.Session

open Refill

variable {σ : Type}

/-! ## Notices and the report -/

/-- A notice is an event at most, and what is remembered of it. -/
theorem announce_eq (s : Session σ) (text : String) :
    ∃ events last?, s.announce text =
      { s with events := s.events ++ events, lastNotice? := last? } := by
  unfold announce
  split
  · exact ⟨[], s.lastNotice?, by rw [List.append_nil]⟩
  · exact ⟨[.notice text], some text, rfl⟩

theorem foldl_applyUpdate (s : Session σ) (ws : List PanelUpdate) :
    ∃ announced, ws.foldl applyUpdate s =
      { s with panels := s.panels.applyAll ws, announced } := by
  induction ws generalizing s with
  | nil => exact ⟨s.announced, rfl⟩
  | cons w ws ih =>
      obtain ⟨announced, h⟩ := ih (s.applyUpdate w)
      exact ⟨announced, h⟩

theorem applyFailure_eq (s : Session σ) (failure : Panel × PanelFault) :
    ∃ announced events, s.applyFailure failure =
      { s with
        panels := (s.panels.apply (.clear failure.1)).1
        announced
        events := s.events ++ events } := by
  unfold applyFailure
  dsimp only
  split
  · exact ⟨s.announced, [], by rw [List.append_nil]⟩
  · exact ⟨s.announced ++ [(failure.1, failure.2.kind)],
      [.notice s!"{failure.1.name} panel: {failure.2.message}"], rfl⟩

theorem foldl_applyFailure (s : Session σ) (failures : List (Panel × PanelFault)) :
    ∃ announced events, failures.foldl applyFailure s =
      { s with
        panels := s.panels.applyAll (failures.map fun f => .clear f.1)
        announced
        events := s.events ++ events } := by
  induction failures generalizing s with
  | nil => exact ⟨s.announced, [], by rw [List.append_nil]; rfl⟩
  | cons f failures ih =>
      obtain ⟨announced₁, events₁, first⟩ := applyFailure_eq s f
      obtain ⟨announced, events, rest⟩ := ih (s.applyFailure f)
      refine ⟨announced, events₁ ++ events, ?_⟩
      rw [List.foldl_cons, rest, first, ← List.append_assoc]
      rfl

/-- A report that is applied changes the panels, and what is told of them. -/
theorem apply_report (s : Session σ) (r : Report) :
    ∃ announced events, r.failures.foldl applyFailure (r.writes.foldl applyUpdate s) =
      { s with
        panels := s.panels.applyAll r.updates
        announced
        events := s.events ++ events } := by
  obtain ⟨announced₁, filled⟩ := foldl_applyUpdate s r.writes
  obtain ⟨announced, events, failed⟩ :=
    foldl_applyFailure (r.writes.foldl applyUpdate s) r.failures
  refine ⟨announced, events, ?_⟩
  rw [failed, filled, Report.updates, Panels.applyAll_append]

/-! ## A refill -/

variable [Analyzer σ]

/-- What a refill finds for the panels, started with nothing remembered. -/
def report (s : Session σ) (e : FocusEvent) (scope : Scope) : Report :=
  (Refill.run s.settings e scope ⟨s.engine, {}⟩).1

theorem asked_runPanels (settings : RefillSettings) (e : FocusEvent) (ks : List Panel)
    (d : Desk σ) : Analyzer.Asked d.engine (runPanels settings e ks d).2.engine := by
  induction ks generalizing d with
  | nil => exact .refl
  | cons k ks ih =>
      rw [runPanels_cons]
      exact (handler_onward settings e k d).trans (ih _)

/-- A refill applies its report, asks the analyzer, and keeps its own records. -/
theorem refill_eq (s : Session σ) (e : FocusEvent) (scope : Scope) :
    ∃ engine cache announced events full light, Analyzer.Asked s.engine engine ∧
      s.refill e scope =
        { s with
          engine, cache, announced
          panels := s.panels.applyAll (s.report e scope).updates
          events := s.events ++ events
          stats := { s.stats with fullRefills := full, lightRefills := light } } := by
  let desk := (Refill.run s.settings e scope ⟨s.engine, {}⟩).2
  have asked : Analyzer.Asked s.engine desk.engine := asked_runPanels _ e _ ⟨s.engine, {}⟩
  cases scope with
  | full =>
      obtain ⟨announced, events, h⟩ := apply_report
        { s with
          stats := { s.stats with fullRefills := s.stats.fullRefills + 1 }
          engine := desk.engine, cache := desk.cache }
        (s.report e .full)
      exact ⟨desk.engine, desk.cache, announced, events, _, _, asked, h⟩
  | perAddress =>
      obtain ⟨announced, events, h⟩ := apply_report
        { s with
          stats := { s.stats with lightRefills := s.stats.lightRefills + 1 }
          engine := desk.engine, cache := desk.cache }
        (s.report e .perAddress)
      exact ⟨desk.engine, desk.cache, announced, events, _, _, asked, h⟩

theorem nodup_panels (scope : Scope) : scope.panels.Nodup := by
  cases scope <;> decide

/-- After a refill each panel it concerns holds what the report has for it, and the
others what they held. -/
theorem content?_refill (s : Session σ) (e : FocusEvent) (scope : Scope) (k : Panel) :
    (s.refill e scope).panels.content? k =
      if k ∈ scope.panels then (s.report e scope).content? k else s.panels.content? k := by
  obtain ⟨engine, cache, announced, events, full, light, -, h⟩ := refill_eq s e scope
  rw [h]
  by_cases hk : k ∈ scope.panels
  · rw [if_pos hk]
    refine Panels.content?_applyAll_of_forall _ ?_ ?_
    · rintro w hw rfl
      exact content?_of_mem_updates _ e (nodup_panels scope) hw
    · exact exists_mem_updates _ e hk _
  · rw [if_neg hk]
    refine Panels.content?_applyAll_of_forall_ne _ ?_
    rintro w hw rfl
    exact hk (panel_mem_of_mem_updates _ e hw)

/-! ## A focus pass -/

/-- The session in its next pass, which finds the templates as they are then. -/
def nextPass (s : Session σ) : Session σ :=
  { s with stats := { s.stats with focusPasses := s.stats.focusPasses + 1 } }

/-- A focus pass changes the focus, the panels and the records kept about them, and asks
the analyzer. -/
theorem updateFocus_eq (s : Session σ) :
    ∃ engine watch cache panels announced events last? full light,
      Analyzer.Asked s.engine engine ∧
      s.updateFocus =
        { s with
          engine, watch, cache, panels, announced
          events := s.events ++ events
          lastNotice? := last?
          stats := { s.stats with
            focusPasses := s.stats.focusPasses + 1, fullRefills := full, lightRefills := light } } := by
  have asked := FocusWatch.asked_observe s.watch s.listing.cursorLine? s.engine
  unfold updateFocus
  dsimp only
  generalize s.watch.observe s.listing.cursorLine? s.engine = found at asked ⊢
  obtain ⟨outcome, watch, engine⟩ := found
  dsimp only at asked ⊢
  let s₁ : Session σ := { s with
    watch, engine, stats := { s.stats with focusPasses := s.stats.focusPasses + 1 } }
  cases outcome with
  | error f =>
      obtain ⟨events, last?, h⟩ := announce_eq s₁ s!"cannot resolve focus: {f.message}"
      exact ⟨engine, watch, s.cache, s.panels, s.announced, events, last?, _, _, asked, h⟩
  | ok finding =>
      cases finding with
      | ignored =>
          exact ⟨engine, watch, s.cache, s.panels, s.announced, [], s.lastNotice?, _, _, asked,
            by rw [List.append_nil]⟩
      | sameFunction e =>
          obtain ⟨engine', cache, announced, events, full, light, asked', h⟩ :=
            refill_eq s₁ e .perAddress
          dsimp only
          rw [h]
          split
          · exact ⟨engine', watch, cache, _, announced, events, s.lastNotice?, full, light,
              asked.trans asked', rfl⟩
          · exact ⟨engine', watch, cache, _, announced,
              events ++ [.focusChanged e.address e.function], s.lastNotice?, full, light,
              asked.trans asked', by rw [← List.append_assoc]; rfl⟩
      | functionChanged e =>
          obtain ⟨engine', cache, announced, events, full, light, asked', h⟩ :=
            refill_eq s₁ e .full
          dsimp only
          rw [h]
          exact ⟨engine', watch, cache, _, announced,
            events ++ [.focusChanged e.address e.function], s.lastNotice?, full, light,
            asked.trans asked', by rw [← List.append_assoc]; rfl⟩

/-- What a focus pass makes of focus and panels. -/
inductive FocusPass (s t : Session σ) : Prop
  | ignored (none : s.listing.cursorLine?.bind lineAddress? = none)
      (focus : t.watch.focus = s.watch.focus) (panels : t.panels = s.panels)
  | failed {line : String} {a : Address} {f : EngineFault} {engine : σ}
      (under : s.listing.cursorLine? = some line) (address : lineAddress? line = some a)
      (answer : (FocusWatch.ownerAt a).ask s.engine = (.error f, engine))
      (focus : t.watch.focus = s.watch.focus) (panels : t.panels = s.panels)
  | sameFunction {line : String} {a : Address} {name : String} {engine : σ}
      (under : s.listing.cursorLine? = some line) (address : lineAddress? line = some a)
      (answer : (FocusWatch.ownerAt a).ask s.engine = (.ok name, engine))
      (same : s.watch.focus.function = name) (focus : t.watch.focus = ⟨some a, name⟩)
      (panels : ∀ k, t.panels.content? k = if k ∈ Scope.perAddress.panels
        then (({ s.nextPass with engine } : Session σ).report ⟨a, name, line⟩ .perAddress).content? k
        else s.panels.content? k)
  | functionChanged {line : String} {a : Address} {name : String} {engine : σ}
      (under : s.listing.cursorLine? = some line) (address : lineAddress? line = some a)
      (answer : (FocusWatch.ownerAt a).ask s.engine = (.ok name, engine))
      (focus : t.watch.focus = ⟨some a, name⟩)
      (panels : ∀ k, t.panels.content? k = if k ∈ Scope.full.panels
        then (({ s.nextPass with engine } : Session σ).report ⟨a, name, line⟩ .full).content? k
        else s.panels.content? k)

theorem watch_refill (s : Session σ) (e : FocusEvent) (scope : Scope) :
    (s.refill e scope).watch = s.watch := by
  obtain ⟨_, _, _, _, _, _, -, h⟩ := refill_eq s e scope
  rw [h]

theorem focusPass (s : Session σ) : s.FocusPass s.updateFocus := by
  have seen := FocusWatch.observed s.watch s.listing.cursorLine? s.engine
  unfold updateFocus
  dsimp only
  generalize s.watch.observe s.listing.cursorLine? s.engine = result at seen ⊢
  obtain ⟨outcome, watch, engine⟩ := result
  dsimp only at seen ⊢
  let s₁ : Session σ := { s with
    watch, engine, stats := { s.stats with focusPasses := s.stats.focusPasses + 1 } }
  cases seen with
  | ignored none => exact .ignored none rfl rfl
  | @failed line a f _ under address answer =>
      obtain ⟨_, _, announced⟩ := announce_eq s₁ s!"cannot resolve focus: {f.message}"
      dsimp only
      rw [announced]
      exact .failed under address answer rfl rfl
  | @sameFunction line a name _ under address answer _ same =>
      have watch := watch_refill s₁ ⟨a, name, line⟩ .perAddress
      have panels := content?_refill s₁ ⟨a, name, line⟩ .perAddress
      refine .sameFunction under address answer same ?_ ?_
      · dsimp only
        split
        · exact congrArg (·.focus) watch
        · exact congrArg (·.focus) watch
      · intro k
        dsimp only
        split
        · exact panels k
        · exact panels k
  | @functionChanged line a name _ under address answer _ =>
      have watch := watch_refill s₁ ⟨a, name, line⟩ .full
      have panels := content?_refill s₁ ⟨a, name, line⟩ .full
      exact .functionChanged under address answer (congrArg (·.focus) watch) panels

end AsmView.Session
