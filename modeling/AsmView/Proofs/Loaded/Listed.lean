/-
# Every address on screen is an instruction's

Whatever is fetched over a loaded image, in whatever order, the lines of the text that
have an address have that of an instruction.  This holds for any image of single lines,
also for one in which instructions share an address.
-/
import AsmView.Proofs.Feed.Step
import AsmView.Proofs.Loaded.Text

namespace AsmView

open Text Loaded

namespace Feed

/-- Every line that has an address has that of a slot of the image. -/
structure Listed (l : Loaded) (f : Feed Loaded) : Prop where
  engine : l.SameImage f.engine
  lines : ∀ line ∈ f.listing.lines, ∀ a, lineAddress? line = some a → ∃ s ∈ l.slots, s.address = a

variable {l : Loaded} {f g : Feed Loaded}

theorem Listed.of_lines (h : f.Listed l) (engine : Analyzer.Asked f.engine g.engine)
    (lines : g.listing.lines = f.listing.lines) : g.Listed l where
  engine := h.engine.trans (sameImage_of_asked engine)
  lines := by
    rw [lines]
    exact h.lines

/-- The slots of a batch that was given are slots of the image, one line each. -/
theorem Listed.batch (h : f.Listed l) (oneLined : ∀ r ∈ l.slots, r.OneLined) {a : Address}
    {n : Nat} {batch : String} {engine : Loaded}
    (answer : (Query.batchAt a n).ask f.engine = (.ok batch, engine)) :
    ∃ slots : List Slot, batch = String.ofList (batchText slots) ∧ (∀ s ∈ slots, s ∈ l.slots) ∧
      ∀ s ∈ slots, s.OneLined := by
  obtain ⟨rfl, -⟩ := batch_of_answer answer
  rw [h.engine.slotsFrom]
  have inside : ∀ s ∈ (l.slotsFrom a).take n, s ∈ l.slots := fun s hs =>
    (l.slotsFrom_suffix a).subset (List.mem_of_mem_take hs)
  exact ⟨_, rfl, inside, fun s hs => oneLined s (inside s hs)⟩

theorem Listed.pass (h : f.Listed l) (oneLined : ∀ r ∈ l.slots, r.OneLined) :
    f.pass.2.Listed l := by
  have passed := f.passed
  generalize f.pass = result at passed ⊢
  obtain ⟨outcome, g⟩ := result
  cases passed with
  | overflow _ => exact h.of_lines .refl rfl
  | notNearEnd _ => exact h
  | noBoundary _ _ => exact h.of_lines .refl rfl
  | failed _ _ answer => exact h.of_lines ((Query.plain_batchAt _ _).asked answer) rfl
  | exhausted _ _ answer _ => exact h.of_lines ((Query.plain_batchAt _ _).asked answer) rfl
  | appended _ _ answer _ =>
      refine ⟨h.engine.trans (sameImage_of_asked ((Query.plain_batchAt _ _).asked answer)), ?_⟩
      obtain ⟨slots, rfl, inside, single⟩ := h.batch oneLined answer
      intro line hline a ha
      rcases List.mem_append.mp hline with before | fresh
      · exact h.lines line before a ha
      · rw [freshLines, String.toList_ofList, afterFirstLine_batchText single,
          lines_furtherText fun s hs => single s (List.mem_of_mem_tail hs)] at fresh
        obtain ⟨s, hs, here⟩ := exists_of_mem_furtherLines fresh ha
        exact ⟨s, inside s (List.mem_of_mem_tail hs), here⟩

theorem Step.listed {size : Nat} (step : Step size f g) (h : f.Listed l)
    (oneLined : ∀ r ∈ l.slots, r.OneLined) : g.Listed l := by
  cases step with
  | placed c => exact h.of_lines .refl rfl
  | held _ => exact h.of_lines .refl rfl
  | shift shift =>
      cases shift with
      | asked asked => exact h.of_lines asked rfl
      | passed => exact h.pass oneLined
      | scrolled top => exact h.of_lines .refl rfl
      | resized height => exact h.of_lines .refl rfl
  | restarted answer =>
      refine ⟨h.engine.trans (sameImage_of_asked ((Query.plain_batchAt _ _).asked answer)), ?_⟩
      obtain ⟨slots, rfl, inside, single⟩ := h.batch oneLined answer
      intro line hline a ha
      rw [restart_lines, Session.addressedLines, linesOf_batchText single] at hline
      obtain ⟨s, hs, here⟩ := exists_of_mem_batchLines ((List.dropWhile_sublist _).subset hline) ha
      exact ⟨s, inside s hs, here⟩

theorem Steps.listed {size : Nat} (steps : Steps size f g) (h : f.Listed l)
    (oneLined : ∀ r ∈ l.slots, r.OneLined) : g.Listed l := by
  induction steps with
  | refl => exact h
  | tail _ last ih => exact last.listed ih oneLined

end Feed

end AsmView
