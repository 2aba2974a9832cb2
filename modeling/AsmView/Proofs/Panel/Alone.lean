/-
# Each handler as if it were alone

A refill runs its handlers one after the other, over one analyzer and with one cache.  Over
an analyzer whose answers are fixed nothing of this shows in its report: each panel has the
outcome that its handler comes to alone, with nothing remembered.  So it makes no difference
which other handlers run, in which order, and which of them fail.
-/
import AsmView.Proofs.Loaded.Panels

namespace AsmView

open Handler Refill

namespace FixedAnswers

variable {σ : Type} [Analyzer σ] {F : FixedAnswers σ} (settings : RefillSettings) (e : FocusEvent)
  {d : Desk σ} {engine alone : σ}

theorem trace_eq_alone (hd : F.OnDesk F.Sound d) (other : F.On alone) (ks : List Panel) :
    trace settings e ks d = ks.map fun k => (k, outcome settings e k ⟨alone, {}⟩) := by
  induction ks generalizing d with
  | nil => rfl
  | cons k ks ih =>
      obtain ⟨same, left⟩ := outcome_eq_alone settings e hd other k
      rw [trace, List.map_cons, ih left, same]

/-- Over an analyzer with fixed answers a refill reports for each of its panels what the
handler of the panel comes to alone, started with nothing remembered and wherever the
analyzer stands; and so does a pass over any panels in any order. -/
theorem run_alone (on : F.On engine) (other : F.On alone) :
    (∀ scope, (run settings e scope ⟨engine, {}⟩).1 =
      .ofOutcomes (scope.panels.map fun k => (k, outcome settings e k ⟨alone, {}⟩))) ∧
    ∀ ks, (runPanels settings e ks ⟨engine, {}⟩).1 =
      .ofOutcomes (ks.map fun k => (k, outcome settings e k ⟨alone, {}⟩)) := by
  have passes : ∀ ks, (runPanels settings e ks ⟨engine, {}⟩).1 =
      .ofOutcomes (ks.map fun k => (k, outcome settings e k ⟨alone, {}⟩)) := by
    intro ks
    rw [runPanels_eq, trace_eq_alone settings e (F.fresh on) other]
  exact ⟨fun scope => passes scope.panels, passes⟩

/-- A refill at the call of the small image, and its handlers alone with the analyzer at the
other function. -/
theorem run_alone_pair :
    (Loaded.load .pair).fixed.On (Loaded.load .pair) ∧
      (Loaded.load .pair).fixed.On { Loaded.load .pair with cursor := ⟨0x1010⟩ } ∧
      (run ⟨.builtin, 24⟩ ⟨⟨0x1000⟩, "main", "0x00001000"⟩ .full ⟨Loaded.load .pair, {}⟩).1 =
        .ofOutcomes (Panel.ordered.map fun k =>
          (k, outcome ⟨.builtin, 24⟩ ⟨⟨0x1000⟩, "main", "0x00001000"⟩ k
            ⟨{ Loaded.load .pair with cursor := ⟨0x1010⟩ }, {}⟩)) := by
  have here : (Loaded.load .pair).fixed.On (Loaded.load .pair) := .refl _
  have there : (Loaded.load .pair).fixed.On { Loaded.load .pair with cursor := ⟨0x1010⟩ } :=
    ⟨rfl, rfl⟩
  exact ⟨here, there, (run_alone ⟨.builtin, 24⟩ ⟨⟨0x1000⟩, "main", "0x00001000"⟩ here there).1 .full⟩

end FixedAnswers

end AsmView
