/-
# How a feed is moved and restarted

Between the moment a first batch is put in place and the next one, the text is only ever
moved on: passes append to it, the window is moved or resized, the analyzer is asked.
`Feed.Shift` is one such step.  A step of a feed, `Feed.Step`, is a shift, a cursor put
somewhere, or a restart with a first batch that the analyzer gave.  Every property of
texts that this library knows is a property of the feeds that such steps lead to.
-/
import AsmView.Session.Reload
import AsmView.Proofs.Feed

namespace AsmView

variable {σ : Type}

namespace Feed

/-- The anchor that a first batch gives: the address of its first line that has one, and
without such a line the place asked for. -/
def anchorOf (target : Address) (batch : String) : Option Address :=
  ((Session.addressedLines batch).head?.bind lineAddress?).or (some target)

/-- The feed with a first batch put in place of the text. -/
def restart (f : Feed σ) (target : Address) (batch : String) : Feed σ :=
  { f with
    pager := f.pager.reset
    listing := f.listing.replace (anchorOf target batch) (Session.addressedLines batch) }

@[simp] theorem restart_lines (f : Feed σ) (target : Address) (batch : String) :
    (f.restart target batch).listing.lines = Session.addressedLines batch :=
  rfl

@[simp] theorem restart_anchor (f : Feed σ) (target : Address) (batch : String) :
    (f.restart target batch).listing.anchor = anchorOf target batch :=
  rfl

@[simp] theorem restart_remainder (f : Feed σ) (target : Address) (batch : String) :
    (f.restart target batch).pager.remainder? = none :=
  rfl

variable [Analyzer σ]

/-- One step that moves the listing on, or the analyzer that feeds it, without replacing
the text. -/
inductive Shift : Feed σ → Feed σ → Prop
  | asked {f : Feed σ} {engine : σ} (h : Analyzer.Asked f.engine engine) :
      Shift f { f with engine }
  | passed (f : Feed σ) : Shift f f.pass.2
  | scrolled (f : Feed σ) (top : Nat) : Shift f { f with listing := f.listing.setTop top }
  | resized (f : Feed σ) (height : Nat) :
      Shift f { f with listing := f.listing.setHeight height }

/-- A pass holds the scroll channel at most for its own length. -/
theorem pass_channels (f : Feed σ) :
    f.pass.2.channels = f.channels ∨
      f.pass.2.channels = (f.channels.holdEach [.scroll]).releaseEach [.scroll] := by
  have h := f.passed
  generalize f.pass = result at h ⊢
  obtain ⟨outcome, g⟩ := result
  cases h with
  | overflow _ => exact .inl rfl
  | notNearEnd _ => exact .inl rfl
  | noBoundary _ _ => exact .inr rfl
  | failed _ _ _ => exact .inr rfl
  | exhausted _ _ _ _ => exact .inr rfl
  | appended _ _ _ _ => exact .inr rfl

theorem Shift.channels {f g : Feed σ} (h : f.Shift g) :
    g.channels = f.channels ∨
      g.channels = (f.channels.holdEach [.scroll]).releaseEach [.scroll] := by
  cases h with
  | passed => exact f.pass_channels
  | asked _ => exact .inl rfl
  | scrolled _ => exact .inl rfl
  | resized _ => exact .inl rfl

/-- Shifts leave the anchor, and a text without a line stays without one. -/
theorem shifts_anchor {f g : Feed σ} (h : Relation.ReflTransGen Shift f g) :
    g.listing.anchor = f.listing.anchor ∧ (f.listing.lines = [] → g.listing.lines = []) := by
  induction h with
  | refl => exact ⟨rfl, id⟩
  | tail _ last ih =>
      obtain ⟨anchor, empty⟩ := ih
      cases last with
      | asked _ => exact ⟨anchor, empty⟩
      | passed => exact ⟨(pass_kept _).2.2.trans anchor, fun h => (pass_of_empty (empty h)).1⟩
      | scrolled _ => exact ⟨anchor, empty⟩
      | resized _ => exact ⟨anchor, empty⟩

/-- Several passes in a row are shifts. -/
theorem extendFrom_shifts (n : Nat) (report : PageReport) (f : Feed σ) :
    Relation.ReflTransGen Shift f (extendFrom n report f).2 := by
  induction n generalizing report f with
  | zero => exact .refl
  | succ n ih =>
      have first : Shift f f.pass.2 := .passed f
      rw [extendFrom]
      generalize f.pass = result at first ⊢
      obtain ⟨outcome, g⟩ := result
      cases outcome with
      | error e => exact .single first
      | ok result =>
          cases result with
          | appended k => exact .head first (ih _ g)
          | overflow => exact .single first
          | notNearEnd => exact .single first
          | invalidBoundary => exact .single first
          | exhausted => exact .single first

/-! ## Steps of a feed -/

/-- One step of a feed whose first batches are asked with `size` lines.  The channels are
not its concern: whoever moves a feed may hold them. -/
inductive Step (size : Nat) : Feed σ → Feed σ → Prop
  | shift {f g : Feed σ} (h : Shift f g) : Step size f g
  | placed (f : Feed σ) (c : Cursor) :
      Step size f { f with listing := f.listing.setCursor c }
  | restarted {f : Feed σ} {target : Address} {batch : String} {engine : σ}
      (answer : (Query.batchAt target size).ask f.engine = (.ok batch, engine)) :
      Step size f ({ f with engine }.restart target batch)
  | held (f : Feed σ) (channels : Channels) : Step size f { f with channels }

/-- Steps of a feed, one after the other. -/
abbrev Steps (size : Nat) : Feed σ → Feed σ → Prop :=
  Relation.ReflTransGen (Step size)

theorem steps_of_shifts {size : Nat} {f g : Feed σ} (h : Relation.ReflTransGen Shift f g) :
    Steps size f g :=
  Relation.ReflTransGen.mono (fun _ _ step => .shift step) _ _ h

/-- Asking the analyzer is a step. -/
theorem step_asked {size : Nat} {f : Feed σ} {engine : σ} (h : Analyzer.Asked f.engine engine) :
    Step size f { f with engine } :=
  .shift (.asked h)

/-- A shift does nothing to the analyzer but ask it. -/
theorem Shift.asks {f g : Feed σ} (h : f.Shift g) : Analyzer.Asked f.engine g.engine := by
  cases h with
  | asked h => exact h
  | passed => exact (pass_kept f).1
  | scrolled _ => exact .refl
  | resized _ => exact .refl

theorem Step.asks {size : Nat} {f g : Feed σ} (step : Step size f g) :
    Analyzer.Asked f.engine g.engine := by
  cases step with
  | shift h => exact h.asks
  | placed _ => exact .refl
  | restarted answer => exact (Query.plain_batchAt _ _).asked answer
  | held _ => exact .refl

theorem Steps.asks {size : Nat} {f g : Feed σ} (steps : Steps size f g) :
    Analyzer.Asked f.engine g.engine := by
  induction steps with
  | refl => exact .refl
  | tail _ last ih => exact ih.trans last.asks

/-- Steps leave the settings of the pager. -/
theorem Step.pager {size : Nat} {f g : Feed σ} (step : Step size f g) :
    ∃ phase remainder? fetches, g.pager = { f.pager with phase, remainder?, fetches } := by
  cases step with
  | placed c => exact ⟨_, _, _, rfl⟩
  | restarted _ => exact ⟨_, _, _, rfl⟩
  | held _ => exact ⟨_, _, _, rfl⟩
  | shift shift =>
      cases shift with
      | asked _ => exact ⟨_, _, _, rfl⟩
      | scrolled _ => exact ⟨_, _, _, rfl⟩
      | resized _ => exact ⟨_, _, _, rfl⟩
      | passed =>
          have passed := f.passed
          generalize f.pass = result at passed ⊢
          obtain ⟨outcome, g⟩ := result
          cases passed with
          | overflow _ => exact ⟨_, _, _, rfl⟩
          | notNearEnd _ => exact ⟨_, _, _, rfl⟩
          | noBoundary _ _ => exact ⟨_, _, _, rfl⟩
          | failed _ _ _ => exact ⟨_, _, _, rfl⟩
          | exhausted _ _ _ _ => exact ⟨_, _, _, rfl⟩
          | appended _ _ _ _ => exact ⟨_, _, _, rfl⟩

theorem Steps.pager {size : Nat} {f g : Feed σ} (steps : Steps size f g) :
    ∃ phase remainder? fetches, g.pager = { f.pager with phase, remainder?, fetches } := by
  induction steps with
  | refl => exact ⟨_, _, _, rfl⟩
  | tail _ last ih =>
      obtain ⟨_, _, _, before⟩ := ih
      obtain ⟨_, _, _, after⟩ := last.pager
      rw [before] at after
      exact ⟨_, _, _, after⟩

end Feed

end AsmView
