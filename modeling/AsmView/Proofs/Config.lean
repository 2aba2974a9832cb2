/-
# Settings that are accepted

Settings come from the default ones, one after the other, and each is checked as it is
set.  `Accepted` has the settings that can come about in this way.
-/
import AsmView.Config

namespace AsmView.Config

/-- Settings that the checks let through. -/
inductive Accepted : Config → Prop
  | default : Accepted {}
  | batchSize {c d : Config} {n : Nat} (h : Accepted c) (set : c.setBatchSize n = .ok d) :
      Accepted d
  | passCap {c d : Config} {n : Nat} (h : Accepted c) (set : c.setPassCap n = .ok d) : Accepted d
  | threshold {c d : Config} {f : Float} (h : Accepted c) (set : c.setThreshold f = .ok d) :
      Accepted d
  | previewLines {c d : Config} {n : Nat} (h : Accepted c) (set : c.setPreviewLines n = .ok d) :
      Accepted d
  | historyLimit {c : Config} (n : Nat) (h : Accepted c) : Accepted { c with historyLimit := n }
  | templateDir {c : Config} (dir : Option String) (h : Accepted c) :
      Accepted { c with templateDir := dir }

/-- The limits that whatever was accepted keeps. -/
theorem Accepted.limits {c : Config} (h : c.Accepted) : 2 ≤ c.batchSize ∧ 1 ≤ c.passCap := by
  induction h with
  | default => decide
  | batchSize _ set ih =>
      unfold setBatchSize at set
      split at set
      · exact nomatch set
      · obtain rfl := Except.ok.inj set
        exact ⟨by dsimp only; omega, ih.2⟩
  | passCap _ set ih =>
      unfold setPassCap at set
      split at set
      · exact nomatch set
      · obtain rfl := Except.ok.inj set
        exact ⟨ih.1, by dsimp only; omega⟩
  | threshold _ set ih =>
      unfold setThreshold at set
      split at set
      · obtain rfl := Except.ok.inj set
        exact ih
      · exact nomatch set
  | previewLines _ set ih =>
      unfold setPreviewLines at set
      split at set
      · exact nomatch set
      · obtain rfl := Except.ok.inj set
        exact ih
  | historyLimit _ _ ih => exact ih
  | templateDir _ _ ih => exact ih

/-- A batch always has a line besides the one it repeats. -/
theorem Accepted.two_le_batchSize {c : Config} (h : c.Accepted) : 2 ≤ c.batchSize :=
  h.limits.1

/-- One pass at least is always allowed. -/
theorem Accepted.one_le_passCap {c : Config} (h : c.Accepted) : 1 ≤ c.passCap :=
  h.limits.2

end AsmView.Config
