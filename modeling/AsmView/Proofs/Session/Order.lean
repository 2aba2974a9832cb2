/-
# What a user finds between two operations

However an analyzer answers, and wherever it fails, a session that is not in the middle
of an operation is in order: `Listing.InOrder` holds of its listing, its pager is idle,
and it remembers no more places than it is set to.  The first two are kept by each step
of the feed.  A restart starts the text at its first line with an address and makes that
address the anchor; a pass appends only to a text that has a last line, so it never has
to invent an anchor.
-/
import AsmView.Proofs.Session.Step

namespace AsmView

variable {σ : Type} [Analyzer σ]

namespace Feed

/-- A feed as it stands between two operations. -/
structure InOrder (f : Feed σ) : Prop where
  listing : f.listing.InOrder
  idle : f.pager.phase = .idle

theorem InOrder.pass {f : Feed σ} (h : f.InOrder) : f.pass.2.InOrder := by
  have passed := f.passed
  generalize f.pass = result at passed ⊢
  obtain ⟨outcome, g⟩ := result
  cases passed with
  | overflow _ => exact ⟨h.listing, h.idle⟩
  | notNearEnd _ => exact h
  | noBoundary _ _ => exact ⟨h.listing, rfl⟩
  | failed _ _ _ => exact ⟨h.listing, rfl⟩
  | exhausted _ _ _ _ => exact ⟨h.listing, rfl⟩
  | appended _ last _ _ =>
      exact ⟨h.listing.append (Listing.ne_nil_of_lastAddress? last) _, rfl⟩

theorem Shift.inOrder {f g : Feed σ} (step : f.Shift g) (h : f.InOrder) : g.InOrder := by
  cases step with
  | asked _ => exact ⟨h.listing, h.idle⟩
  | passed => exact h.pass
  | scrolled top => exact ⟨h.listing.setTop top, h.idle⟩
  | resized height => exact ⟨h.listing.setHeight height, h.idle⟩

/-- However the text moves on, the line under the cursor stays. -/
theorem Shift.cursorLine?_eq {f g : Feed σ} (step : f.Shift g) (h : f.InOrder) :
    g.listing.cursorLine? = f.listing.cursorLine? := by
  cases step with
  | asked _ => rfl
  | scrolled _ => rfl
  | resized _ => rfl
  | passed =>
      rcases f.pass_listing with same | ⟨hsome, lines, grown⟩
      · rw [same]
      · rw [grown, h.listing.cursorLine?_append hsome]

end Feed

/-- The first of the addressed lines has an address. -/
theorem Session.head?_addressedLines {batch line : String}
    (h : (addressedLines batch).head? = some line) : ∃ a, lineAddress? line = some a := by
  have hp := List.head?_dropWhile_not (fun line => (lineAddress? line).isNone) (Text.linesOf batch)
  rw [addressedLines] at h
  rw [h] at hp
  cases address : lineAddress? line with
  | none => simp [address] at hp
  | some a => exact ⟨a, rfl⟩

namespace Feed

/-- The anchor of a restart is the address of its first line, if it has a line. -/
theorem anchorOf_of_head? {target : Address} {batch line : String}
    (h : (Session.addressedLines batch).head? = some line) :
    ∃ a, anchorOf target batch = some a ∧ lineAddress? line = some a := by
  obtain ⟨a, address⟩ := Session.head?_addressedLines h
  exact ⟨a, by simp [anchorOf, h, address], address⟩

omit [Analyzer σ] in
theorem InOrder.restart {f : Feed σ} (h : f.InOrder) (target : Address) (batch : String) :
    (f.restart target batch).InOrder :=
  ⟨h.listing.replace fun _ hline => anchorOf_of_head? hline, rfl⟩

theorem Step.inOrder {size : Nat} {f g : Feed σ} (step : Step size f g) (h : f.InOrder) :
    g.InOrder := by
  cases step with
  | shift step => exact step.inOrder h
  | placed c => exact ⟨h.listing.setCursor c, h.idle⟩
  | restarted _ =>
      refine InOrder.restart ?_ _ _
      exact ⟨h.listing, h.idle⟩
  | held _ => exact ⟨h.listing, h.idle⟩

theorem Steps.inOrder {size : Nat} {f g : Feed σ} (steps : Steps size f g) (h : f.InOrder) :
    g.InOrder := by
  induction steps with
  | refl => exact h
  | tail _ last ih => exact last.inOrder ih

end Feed

namespace Session

omit [Analyzer σ] in
theorem inOrder_new (engine : σ) (config : Config) (templates : TemplateStore) :
    (Session.new engine config templates).toFeed.InOrder :=
  ⟨Listing.inOrder_empty _, rfl⟩

theorem feed_inOrder (engine : σ) (config : Config) (templates : TemplateStore)
    (ops : List Operation) : ((Session.new engine config templates).run ops).toFeed.InOrder :=
  (run_steps (calm_new engine config templates) ops).2.2.2.inOrder
    (inOrder_new engine config templates)

/-- After any operations, whatever the analyzer answers: the listing is in order, the
pager is idle, and no more places are remembered than the settings allow. -/
theorem run_inOrder (engine : σ) (config : Config) (templates : TemplateStore)
    (ops : List Operation) :
    ((Session.new engine config templates).run ops).listing.InOrder ∧
      ((Session.new engine config templates).run ops).pager.phase = .idle ∧
      ((Session.new engine config templates).run ops).history.length ≤ config.historyLimit := by
  obtain ⟨calm, settings, -, -⟩ := run_steps (calm_new engine config templates) ops
  have order := feed_inOrder engine config templates ops
  have short := calm.short
  rw [settings] at short
  exact ⟨order.listing, order.idle, short⟩

end Session

end AsmView
