/-
# The numbers shown count the references shown

A full refill fills the panels of references and of charts from one cache, which starts
empty; so whatever the analyzer answers to them, the two agree when both are filled, and
they are only ever filled together.  `Panels.Agree` is this as a property of what is shown.
A full refill establishes it from nothing, a refill for an address does not touch the two
panels, and no other step of a session touches any.
-/
import AsmView.Proofs.Panel.Agreement
import AsmView.Proofs.Session.Step

namespace AsmView

/-- Numbers count the rows of two lists of references, as far as 64 bits go. -/
def Metrics.Count (m : Metrics) (rows : ReferenceRows) : Prop :=
  m.outgoing = rows.outgoing.length.toUInt64 ∧ m.incoming = rows.incoming.length.toUInt64

/-- Where both panels are filled, the numbers of one count the rows of the other. -/
def Panels.Agree (p : Panels) : Prop :=
  ∀ rows charts, p.references? = some rows → p.charts? = some charts → charts.metrics.Count rows

namespace Session

open Refill FocusFacts

variable {σ : Type} [Analyzer σ]

/-! ## A full refill -/

/-- The cache that a refill leaves is the one that its handlers shared. -/
theorem cache_refill (s : Session σ) (e : FocusEvent) (scope : Scope) :
    (s.refill e scope).cache =
      (Refill.run s.settings e scope ⟨s.engine, {}⟩).2.cache := by
  unfold refill
  dsimp only
  obtain ⟨announced, events, h⟩ := apply_report _ (s.report e scope)
  unfold report at h
  rw [h]

/-- What the handlers of a refill come to, one after the other. -/
def outcomes (s : Session σ) (e : FocusEvent) (scope : Scope) : List (Panel × Refill.Outcome) :=
  trace s.settings e scope.panels ⟨s.engine, {}⟩

/-- The cache that a refill leaves records all that its handlers answered. -/
theorem refill_recorded (s : Session σ) (e : FocusEvent) (scope : Scope) :
    (s.refill e scope).cache.Counted ∧
      ∀ k content?, (k, .ok content?) ∈ s.outcomes e scope →
        Recorded e.address (s.refill e scope).cache k content? := by
  rw [cache_refill]
  exact runPanels_recorded _ e (lasting_counted e.address) _ _ (counted_of_unnumbered rfl)

/-- What a panel of the refill holds afterwards is what its handler answered. -/
theorem answered_of_shown (s : Session σ) (e : FocusEvent) {scope : Scope} {k : Panel}
    (hk : k ∈ scope.panels) {c : Content}
    (shown : (s.refill e scope).panels.content? k = some c) :
    (k, .ok (some c)) ∈ s.outcomes e scope := by
  have settles := runPanels_settles s.settings e (nodup_panels scope)
    hk ⟨s.engine, {}⟩
  rw [content?_refill, if_pos hk] at shown
  have same : (runPanels s.settings e scope.panels
      ⟨s.engine, {}⟩).1.content? k = some c := shown
  rw [same] at settles
  cases settles with
  | filled own written => exact own ▸ mem_trace_of_mem_writes _ e written

theorem refill_agrees (s : Session σ) (e : FocusEvent) : (s.refill e .full).panels.Agree := by
  intro rows charts references numbers
  obtain ⟨-, recorded⟩ := refill_recorded s e .full
  have listed : (s.refill e .full).cache.Listed e.address rows :=
    recorded .references _ (answered_of_shown s e (by decide)
      (congrArg (Option.map Content.references) references))
  have counted : (s.refill e .full).cache.CountedBy e.address charts.metrics :=
    recorded .charts _ (answered_of_shown s e (by decide)
      (congrArg (Option.map Content.charts) numbers))
  exact counted.agrees listed

/-- A refill that clears the panel of references because there are none remembers
no number of them but zero, and shows none. -/
theorem refill_counts_none (s : Session σ) (e : FocusEvent)
    (cleared : .clear .references ∈ (s.report e .full).writes) :
    (∀ m, (s.refill e .full).cache.metrics? = some m → m.Count {}) ∧
      ∀ charts, (s.refill e .full).panels.charts? = some charts → charts.metrics.Count {} := by
  obtain ⟨counted, recorded⟩ := refill_recorded s e .full
  have listed : (s.refill e .full).cache.Listed e.address {} :=
    recorded .references none (mem_trace_of_mem_writes _ e cleared)
  refine ⟨fun m numbers => ?_, fun charts numbers => ?_⟩
  · obtain ⟨a, counts⟩ := counted m numbers
    exact counts.agrees listed
  · have counts : (s.refill e .full).cache.CountedBy e.address charts.metrics :=
      recorded .charts _ (answered_of_shown s e (by decide)
        (congrArg (Option.map Content.charts) numbers))
    exact counts.agrees listed

/-! ## Every step -/

/-- Agreement is a matter of two panels. -/
theorem agree_of_content? {p q : Panels} (h : p.Agree)
    (references : q.content? .references = p.content? .references)
    (charts : q.content? .charts = p.content? .charts) : q.Agree := by
  have same : q.references? = p.references? :=
    Option.map_injective (fun _ _ => Content.references.inj) references
  have same' : q.charts? = p.charts? :=
    Option.map_injective (fun _ _ => Content.charts.inj) charts
  unfold Panels.Agree
  rw [same, same']
  exact h

theorem updateFocus_agrees {s : Session σ} (h : s.panels.Agree) : s.updateFocus.panels.Agree := by
  have pass := focusPass s
  generalize s.updateFocus = t at pass ⊢
  cases pass with
  | ignored _ _ panels => exact panels ▸ h
  | failed _ _ _ _ panels => exact panels ▸ h
  | sameFunction _ _ _ _ _ panels => exact agree_of_content? h (panels .references) (panels .charts)
  | @functionChanged line a name engine _ _ _ _ panels =>
      have filled := refill_agrees { s.nextPass with engine } ⟨a, name, line⟩
      have whole := content?_refill { s.nextPass with engine } ⟨a, name, line⟩ .full
      exact agree_of_content? filled ((panels .references).trans (whole .references).symm)
        ((panels .charts).trans (whole .charts).symm)

theorem Move.agrees {s t : Session σ} (step : Move s t) (calm : s.Calm) (h : s.panels.Agree) :
    t.panels.Agree := by
  cases step with
  | text step => exact step.steps.frame.panels ▸ h
  | moved c => exact updateFocus_agrees (s := s.withCursor c) h
  | focused => exact updateFocus_agrees h
  | reloaded =>
      cases target : s.reloadTarget? with
      | none =>
          rw [reload_nowhere target]
          exact h
      | some _ =>
          obtain ⟨u, rewritten, reloaded⟩ := reload_rewritten calm.rest (by rw [target]; rfl)
          rw [reloaded]
          exact updateFocus_agrees (rewritten.panels ▸ h)
  | dropped => exact h
  | noted _ _ => exact h

theorem Step.agrees {s t : Session σ} (step : Step s t) (calm : s.Calm) (h : s.panels.Agree) :
    t.panels.Agree := by
  cases step with
  | move step => exact step.agrees calm h
  | taken => exact h

/-! ## Whole runs -/

/-- After any operations, and whatever the analyzer has answered to them: when the panels of
references and of charts are both filled, the numbers of the charts count the rows of the
references.  And a full refill that clears the panel of references because it found none
leaves no other numbers than zero for them, in its cache or on show. -/
theorem run_agrees (engine : σ) (config : Config) (templates : TemplateStore)
    (ops : List Operation) :
    ((Session.new engine config templates).run ops).panels.Agree ∧
      ∀ (s : Session σ) (e : FocusEvent), .clear .references ∈ (s.report e .full).writes →
        (∀ m, (s.refill e .full).cache.metrics? = some m → m.outgoing = 0 ∧ m.incoming = 0) ∧
        ∀ charts, (s.refill e .full).panels.charts? = some charts →
          charts.metrics.outgoing = 0 ∧ charts.metrics.incoming = 0 := by
  have start : ({} : Panels).Agree := fun _ _ h => nomatch h
  have kept := run_invariant (P := fun s => s.panels.Agree) (fun step calm => step.agrees calm)
    (calm_new engine config templates) start ops
  exact ⟨kept.2, refill_counts_none⟩

end Session

end AsmView
