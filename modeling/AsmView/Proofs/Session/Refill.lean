/-
# No panel is stale and none is lost

A refill hands the outcomes of its handlers over in two lists, which are applied one after
the other.  `refill_settled` says that nothing goes wrong between the two: whatever the
analyzer answers and wherever it fails, every panel of the refill has one outcome and holds
what this outcome says, not what it held before, and a refill for an address leaves the
panels of the function as they were.
-/
import AsmView.Proofs.Panel.Report
import AsmView.Proofs.Session.Focus

namespace AsmView.Session

open Refill

variable {σ : Type} [Analyzer σ]

theorem report_covers (s : Session σ) (e : FocusEvent) (scope : Scope) :
    (s.report e scope).Covers scope.panels :=
  runPanels_covers _ e (nodup_panels scope) _

/-- A panel of the refill holds what the report settles for it. -/
theorem refill_settles (s : Session σ) (e : FocusEvent) {scope : Scope} {k : Panel}
    (hk : k ∈ scope.panels) :
    (s.report e scope).Settles k ((s.refill e scope).panels.content? k) := by
  rw [content?_refill, if_pos hk]
  exact runPanels_settles _ e (nodup_panels scope) hk _

/-- A panel that the refill does not concern is not written. -/
theorem writeCount_refill (s : Session σ) (e : FocusEvent) {scope : Scope} {k : Panel}
    (hk : k ∉ scope.panels) :
    (s.refill e scope).panels.writeCount k = s.panels.writeCount k := by
  obtain ⟨engine, cache, announced, events, full, light, -, h⟩ := refill_eq s e scope
  rw [h]
  refine Panels.writeCount_applyAll_of_forall_ne _ ?_
  rintro w hw rfl
  exact hk (panel_mem_of_mem_updates _ e hw)

/-- What panels held before makes no difference to a panel of the refill. -/
theorem content?_refill_of_panels (s : Session σ) (e : FocusEvent) {scope : Scope} {k : Panel}
    (hk : k ∈ scope.panels) (panels : Panels) :
    (({ s with panels } : Session σ).refill e scope).panels.content? k =
      (s.refill e scope).panels.content? k := by
  rw [content?_refill, content?_refill, if_pos hk, if_pos hk]
  rfl

/-- A full refill has one outcome for each panel, and each panel holds what its outcome says,
whatever the panels held before.  A refill for an address does the same for the offset and
the jump preview, and neither changes nor writes the other panels. -/
theorem refill_settled (s : Session σ) (e : FocusEvent) :
    ((s.report e .full).Covers Panel.ordered ∧
      ∀ k, (s.report e .full).Settles k ((s.refill e .full).panels.content? k) ∧
        ∀ panels, (({ s with panels } : Session σ).refill e .full).panels.content? k =
          (s.refill e .full).panels.content? k) ∧
    (s.report e .perAddress).Covers [.offset, .jumpPreview] ∧
      ∀ k, if k = .offset ∨ k = .jumpPreview then
          (s.report e .perAddress).Settles k ((s.refill e .perAddress).panels.content? k) ∧
            ∀ panels, (({ s with panels } : Session σ).refill e .perAddress).panels.content? k =
              (s.refill e .perAddress).panels.content? k
        else
          (s.refill e .perAddress).panels.content? k = s.panels.content? k ∧
            (s.refill e .perAddress).panels.writeCount k = s.panels.writeCount k := by
  refine ⟨⟨report_covers s e .full, fun k => ?_⟩, report_covers s e .perAddress, fun k => ?_⟩
  · have all : k ∈ Scope.full.panels := by cases k <;> decide
    exact ⟨refill_settles s e all, content?_refill_of_panels s e all⟩
  · have concerned : k ∈ Scope.perAddress.panels ↔ k = .offset ∨ k = .jumpPreview := by
      cases k <;> decide
    split
    · rename_i here
      have hk := concerned.mpr here
      exact ⟨refill_settles s e hk, content?_refill_of_panels s e hk⟩
    · rename_i elsewhere
      have hk : k ∉ Scope.perAddress.panels := fun h => elsewhere (concerned.mp h)
      exact ⟨by rw [content?_refill, if_neg hk], writeCount_refill s e hk⟩

end AsmView.Session
