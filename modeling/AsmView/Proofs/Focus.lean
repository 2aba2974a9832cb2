/-
# What tracking a line can find

`Observed` lists the outcomes of `FocusWatch.observe` with the watch and the analyzer
each of them leaves.  The watch changes only when the owner of the line's address was
found, and then its focus is that address and that owner; whether this counts as a
change of function depends on the function last resolved and on the watch being stale.
-/
import AsmView.Focus
import AsmView.Proofs.Analyzer

namespace AsmView.FocusWatch

variable {σ : Type} [Analyzer σ]

/-- Every outcome of tracking a line, with the watch and the analyzer it leaves. -/
inductive Observed (t : FocusWatch) (line? : Option String) (engine : σ) :
    Except EngineFault FocusFinding → FocusWatch → σ → Prop
  | ignored (none : line?.bind lineAddress? = none) :
      Observed t line? engine (.ok .ignored) t engine
  | failed {line : String} {a : Address} {e : EngineFault} {engine' : σ}
      (under : line? = some line) (address : lineAddress? line = some a)
      (answer : (ownerAt a).ask engine = (.error e, engine')) :
      Observed t line? engine (.error e) t engine'
  | sameFunction {line : String} {a : Address} {name : String} {engine' : σ}
      (under : line? = some line) (address : lineAddress? line = some a)
      (answer : (ownerAt a).ask engine = (.ok name, engine'))
      (fresh : t.stale = false) (same : t.focus.function = name) :
      Observed t line? engine (.ok (.sameFunction ⟨a, name, line⟩))
        { t with focus := ⟨some a, name⟩ } engine'
  | functionChanged {line : String} {a : Address} {name : String} {engine' : σ}
      (under : line? = some line) (address : lineAddress? line = some a)
      (answer : (ownerAt a).ask engine = (.ok name, engine'))
      (changed : t.stale = true ∨ t.focus.function ≠ name) :
      Observed t line? engine (.ok (.functionChanged ⟨a, name, line⟩)) ⟨⟨some a, name⟩, false⟩ engine'

theorem observed (t : FocusWatch) (line? : Option String) (engine : σ) :
    t.Observed line? engine (t.observe line? engine).1 (t.observe line? engine).2.1
      (t.observe line? engine).2.2 := by
  cases line? with
  | none => exact .ignored rfl
  | some line =>
      cases address : lineAddress? line with
      | none =>
          simp only [observe, address]
          exact .ignored address
      | some a =>
          cases answer : (ownerAt a).ask engine with
          | mk result engine' =>
              simp only [observe, address, answer]
              cases result with
              | error e => exact .failed rfl address answer
              | ok name =>
                  dsimp only [settle]
                  by_cases h : (!t.stale && decide (t.focus.function = name)) = true
                  · have hs : t.stale = false ∧ t.focus.function = name := by simpa using h
                    have ht : { t with focus := { t.focus with address := some a } } =
                        ({ t with focus := ⟨some a, name⟩ } : FocusWatch) := by rw [← hs.2]
                    rw [if_pos h, ht]
                    exact .sameFunction rfl address answer hs.1 hs.2
                  · have hs : t.stale = true ∨ t.focus.function ≠ name := by
                      cases stale : t.stale with
                      | true => exact .inl rfl
                      | false => exact .inr fun same => h (by simp [stale, same])
                    rw [if_neg h]
                    exact .functionChanged rfl address answer hs

theorem plain_ownerAt (a : Address) : (ownerAt a : Query σ String).Plain :=
  (Query.plain_query (.reposition a)).bind fun _ => Query.plain_query (.functionNameAt a)

/-- Tracking a line does nothing to the analyzer but ask it. -/
theorem asked_observe (t : FocusWatch) (line? : Option String) (engine : σ) :
    Analyzer.Asked engine (t.observe line? engine).2.2 := by
  have found := observed t line? engine
  generalize t.observe line? engine = result at found ⊢
  obtain ⟨outcome, t', engine'⟩ := result
  cases found with
  | ignored => exact .refl
  | failed _ _ answer => exact (plain_ownerAt _).asked answer
  | sameFunction _ _ answer => exact (plain_ownerAt _).asked answer
  | functionChanged _ _ answer => exact (plain_ownerAt _).asked answer

end AsmView.FocusWatch
