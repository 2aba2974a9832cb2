/-
# Rows of passes

There are two loops of passes: one behind a scroll notification and one behind a new text.
The second puts the window back to a scroll position after each pass.  The first does not
have to, since a pass leaves the window where it is and the text can only get longer; so
both are a `Feed.Row`.  A row ends with its last pass, or with the first one that does not
append.
-/
import AsmView.Proofs.Feed.Passes
import AsmView.Proofs.Session.Whole

namespace AsmView

variable {σ : Type}

namespace Feed

/-- The feed with its window as close to a scroll position as the text allows. -/
def backTo (f : Feed σ) (top : Nat) : Feed σ :=
  { f with listing := f.listing.setTop top }

theorem backTo_eq_self {f : Feed σ} {top : Nat}
    (h : f.listing.top = min top f.listing.maxTop) : f.backTo top = f := by
  rw [backTo, Listing.setTop_eq_self h]

theorem backTo_top (f : Feed σ) (top : Nat) :
    (f.backTo top).listing.top = min top (f.backTo top).listing.maxTop :=
  rfl

variable [Analyzer σ]

/-- A row of at most so many passes, with the window put back after each that does not
fail. -/
inductive Row (top : Nat) : Nat → Feed σ → Feed σ → Prop
  | spent (f : Feed σ) : Row top 0 f f
  | failed {n : Nat} {f : Feed σ} {e : EngineFault} (h : f.pass.1 = .error e) :
      Row top (n + 1) f f.pass.2
  | ended {n : Nat} {f : Feed σ} {r : PassResult} (h : f.pass.1 = .ok r)
      (stops : r.stop?.isSome) : Row top (n + 1) f (f.pass.2.backTo top)
  | further {n : Nat} {f g : Feed σ} {k : Nat} (h : f.pass.1 = .ok (.appended k))
      (rest : Row top n (f.pass.2.backTo top) g) : Row top (n + 1) f g

/-- A pass does not shorten the text, so the window need not be put back after it. -/
theorem backTo_pass {f : Feed σ} (h : f.listing.top ≤ f.listing.maxTop) :
    f.pass.2.backTo f.listing.top = f.pass.2 ∧ f.pass.2.listing.top = f.listing.top ∧
      f.pass.2.listing.top ≤ f.pass.2.listing.maxTop := by
  have appends := f.pass_onlyAppends
  have longer := appends.text.length_le
  have fits : f.listing.top ≤ f.pass.2.listing.maxTop := by
    rw [Listing.maxTop, Listing.count] at h ⊢
    rw [appends.height]
    omega
  refine ⟨backTo_eq_self ?_, appends.top, ?_⟩
  · rw [appends.top, Nat.min_eq_left fits]
  · rw [appends.top]
    exact fits

theorem extendFrom_row (n : Nat) (report : PageReport) {f : Feed σ}
    (h : f.listing.top ≤ f.listing.maxTop) :
    Row f.listing.top n f (extendFrom n report f).2 := by
  induction n generalizing report f with
  | zero => exact .spent f
  | succ n ih =>
      obtain ⟨back, top, fits⟩ := backTo_pass h
      have ended : ∀ {r : PassResult}, f.pass.1 = .ok r → r.stop?.isSome →
          Row f.listing.top (n + 1) f f.pass.2 := by
        intro r passed stops
        have row : Row f.listing.top (n + 1) f (f.pass.2.backTo f.listing.top) :=
          .ended passed stops
        rwa [back] at row
      have failed : ∀ {e : EngineFault}, f.pass.1 = .error e →
          Row f.listing.top (n + 1) f f.pass.2 := fun passed => .failed passed
      have more : ∀ {k : Nat} {g : Feed σ}, f.pass.1 = .ok (.appended k) →
          Row f.listing.top n f.pass.2 g → Row f.listing.top (n + 1) f g := by
        intro k g passed rest
        rw [← back] at rest
        exact .further passed rest
      have further := fun report => ih report fits
      rw [top] at further
      rw [extendFrom]
      generalize f.pass = result at ended failed more further
      obtain ⟨outcome, g⟩ := result
      cases outcome with
      | error e => exact failed rfl
      | ok r =>
          cases r with
          | appended k => exact more rfl (further _)
          | notNearEnd => exact ended rfl rfl
          | overflow => exact ended rfl rfl
          | invalidBoundary => exact ended rfl rfl
          | exhausted => exact ended rfl rfl

end Feed

namespace Session

variable [Analyzer σ]

/-- The passes behind a new text are a row. -/
theorem prefill_row {s : Session σ} (silent : s.channels.Silenced) (target : Address)
    (top n : Nat) : Feed.Row top n s.toFeed (prefill target top n s).toFeed := by
  induction n generalizing s with
  | zero => exact .spent s.toFeed
  | succ n ih =>
      have channels := s.toFeed.pass_channels
      rw [silent.hold_release_scroll, or_self] at channels
      have failed : ∀ {e : EngineFault}, s.toFeed.pass.1 = .error e →
          Feed.Row top (n + 1) s.toFeed s.toFeed.pass.2 := fun passed => .failed passed
      have ended : ∀ {r : PassResult}, s.toFeed.pass.1 = .ok r → r.stop?.isSome →
          Feed.Row top (n + 1) s.toFeed (s.toFeed.pass.2.backTo top) := fun passed => .ended passed
      have more : ∀ {k : Nat} {g : Feed σ}, s.toFeed.pass.1 = .ok (.appended k) →
          Feed.Row top n (s.toFeed.pass.2.backTo top) g → Feed.Row top (n + 1) s.toFeed g :=
        fun passed => .further passed
      rw [prefill]
      generalize s.toFeed.pass = result at channels failed ended more ⊢
      obtain ⟨outcome, feed⟩ := result
      have silent' : feed.channels.Silenced := channels ▸ silent
      cases outcome with
      | error e =>
          obtain ⟨events, last?, told⟩ := announce_eq { s with toFeed := feed }
            s!"cannot load more disassembly at {target}: {e.message}"
          show Feed.Row top (n + 1) s.toFeed (Session.announce { s with toFeed := feed } _).toFeed
          rw [told]
          exact failed rfl
      | ok r =>
          obtain ⟨stats, scrolled⟩ := setTop_of_silenced (s := { s with toFeed := feed }) silent' top
          have back : ({ s with toFeed := feed }.setTop top).toFeed = feed.backTo top := by
            rw [scrolled]
            rfl
          have stops : r.stop?.isSome →
              Feed.Row top (n + 1) s.toFeed ({ s with toFeed := feed }.setTop top).toFeed := by
            rw [back]
            exact ended rfl
          cases r with
          | appended k =>
              have silent'' : ({ s with toFeed := feed }.setTop top).channels.Silenced := by
                rw [scrolled]
                exact silent'
              have rest := ih silent''
              rw [back] at rest
              exact more rfl rest
          | notNearEnd => exact stops rfl
          | overflow => exact stops rfl
          | invalidBoundary => exact stops rfl
          | exhausted => exact stops rfl

/-- What putting a first batch in place does to the feed: the text is replaced, grows in a row
of passes, and the cursor is placed in what has grown. -/
theorem install_row {s : Session σ} (silent : s.channels.Silenced) (target : Address)
    (batch : String) (cursor : Cursor) (top : Nat) :
    ∃ filled, Feed.Row top s.config.passCap ((s.toFeed.restart target batch).backTo top) filled ∧
      (s.install target batch cursor top).toFeed =
        { filled with listing := filled.listing.setCursor cursor } := by
  let s₁ : Session σ := { s with toFeed := s.toFeed.restart target batch }
  obtain ⟨stats, raised⟩ := raise_of_silenced (s := s₁) silent .scroll
  obtain ⟨stats', scrolled⟩ := setTop_of_silenced (s := { s₁ with stats }) silent top
  let s₂ : Session σ := { s₁ with listing := s₁.listing.setTop top, stats := stats' }
  have row : Feed.Row top s.config.passCap s₂.toFeed
      (prefill target top s.config.passCap s₂).toFeed :=
    prefill_row (s := s₂) silent target top s.config.passCap
  have quiet : (prefill target top s.config.passCap s₂).channels.Silenced := by
    rw [((prefill_steps target top s.config.passCap s₂).silenced silent).1]
    exact silent
  obtain ⟨stats'', placed⟩ := setCursor_of_silenced quiet cursor
  refine ⟨_, row, ?_⟩
  show ((prefill target top ((s₁.raise .scroll).setTop top).config.passCap
    ((s₁.raise .scroll).setTop top)).setCursor cursor).toFeed = _
  rw [raised, scrolled]
  show ((prefill target top s.config.passCap s₂).setCursor cursor).toFeed = _
  rw [placed]

/-- What a reload that loads does to the feed. -/
theorem reload_row {s : Session σ} (rest : s.channels.AtRest) {target : Address} {batch : String}
    {engine : σ} (going : s.reloadTarget? = some target)
    (answer : (Query.batchAt target s.config.batchSize).ask s.engine = (.ok batch, engine)) :
    ∃ filled channels engine',
      Feed.Row (s.listing.placeFor s.pending?.isNone).2 s.config.passCap
        (((s.rewriting engine).toFeed.restart target batch).backTo
          (s.listing.placeFor s.pending?.isNone).2) filled ∧
      Analyzer.Asked filled.engine engine' ∧
      s.reload.1.toFeed = { filled with
        engine := engine'
        channels
        listing := filled.listing.setCursor (s.listing.placeFor s.pending?.isNone).1 } := by
  have found := reloaded s
  generalize s.reload = result at found ⊢
  obtain ⟨after, loaded⟩ := result
  cases found with
  | nowhere none => exact nomatch going.symm.trans none
  | @refused target' f engine' goal refused =>
      obtain rfl : target = target' := Option.some.inj (going.symm.trans goal)
      exact nomatch (Prod.mk.inj (answer.symm.trans refused)).1
  | @loaded target' batch' engine' place t goal answer' kept installed =>
      obtain rfl : target = target' := Option.some.inj (going.symm.trans goal)
      obtain ⟨same, rfl⟩ := Prod.mk.inj (answer.symm.trans answer')
      obtain rfl := Except.ok.inj same
      have silent : (s.rewriting engine).channels.Silenced := rest.silenced
      obtain ⟨filled, row, feed⟩ := install_row silent target batch place.1 place.2
      obtain ⟨engine', asked, focused⟩ := updateFocus_feed { t with lastNotice? := none }.letGo
      rw [← installed, kept] at feed
      rw [kept] at row
      have unmoved : t.engine = filled.engine := congrArg (·.engine) feed
      let channels := (t.channels.releaseEach Channel.all).attachAll
      exact ⟨filled, channels, engine', row, unmoved ▸ asked,
        focused.trans (congrArg (fun f : Feed σ => { f with engine := engine', channels }) feed)⟩

/-- A reload that is refused leaves the feed but for the analyzer and the channels. -/
theorem reload_refused {s : Session σ} {target : Address} {f : EngineFault} {engine : σ}
    (going : s.reloadTarget? = some target)
    (answer : (Query.batchAt target s.config.batchSize).ask s.engine = (.error f, engine)) :
    ∃ engine' channels, s.reload.1.toFeed = { s.toFeed with engine := engine', channels } := by
  have found := reloaded s
  generalize s.reload = result at found ⊢
  obtain ⟨after, loaded⟩ := result
  cases found with
  | nowhere none => exact nomatch going.symm.trans none
  | @refused target' f' engine' goal answer' =>
      obtain ⟨events, last?, told⟩ := announce_eq (s.rewriting engine') (refusal target' f')
      obtain ⟨engine'', -, focused⟩ :=
        updateFocus_feed ((s.rewriting engine').announce (refusal target' f')).letGo
      rw [told] at focused ⊢
      exact ⟨engine'', _, focused⟩
  | @loaded target' batch engine' place t goal loads _ _ =>
      obtain rfl : target = target' := Option.some.inj (going.symm.trans goal)
      exact nomatch (Prod.mk.inj (answer.symm.trans loads)).1

end Session

end AsmView
