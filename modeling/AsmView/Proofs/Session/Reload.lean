/-
# How a text is moved and replaced

A text step of a session shifts its feed, and may tell something or count a notification.
Every part of a reload is a row of text steps, and so is whatever a scroll notification
brings about.  A text step leaves the focus, the panels and the history alone; while the
channels are silenced it cannot even count a delivery, so a rewrite never reaches
paging or the focus through a notification.

`Reloaded` puts the parts together: what a reload can come to, with the session it
leaves.
-/
import AsmView.Proofs.Channels
import AsmView.Proofs.Feed.Step
import AsmView.Proofs.Session.Told

namespace AsmView

variable {σ : Type} [Analyzer σ]

/-- Where a rewrite puts the cursor and the window: where they are, or at the start. -/
def Listing.placeFor (l : Listing) (hkeep : Bool) : Cursor × Nat :=
  if hkeep then (l.cursor, l.top) else ({}, 0)

namespace Session

/-- One step on the text of a session. -/
inductive TextStep : Session σ → Session σ → Prop
  | fed {s : Session σ} {f : Feed σ} (h : s.toFeed.Shift f) : TextStep s { s with toFeed := f }
  | told (s : Session σ) (events : List ViewEvent) (last? : Option String)
      (silent : events.filterMap ViewEvent.focus? = []) :
      TextStep s { s with events := s.events ++ events, lastNotice? := last? }
  | dropped (s : Session σ) :
      TextStep s { s with stats := { s.stats with suppressed := s.stats.suppressed + 1 } }
  | delivered {s : Session σ} {c : Channel} (h : s.channels.isAttached c = true) :
      TextStep s { s with stats := { s.stats with delivered := s.stats.delivered + 1 } }
  | refreshed (s : Session σ) :
      TextStep s { s with stats := { s.stats with refreshes := s.stats.refreshes + 1 } }

/-- Steps on the text, one after the other. -/
abbrev TextSteps : Session σ → Session σ → Prop :=
  Relation.ReflTransGen TextStep

/-! ## What text steps leave alone -/

/-- Text steps change the feed, what is told, and the counts of notifications and
refreshes. -/
theorem TextSteps.eq {s t : Session σ} (h : TextSteps s t) :
    ∃ feed events last? refreshes delivered suppressed,
      t = { s with
        toFeed := feed
        events := s.events ++ events
        lastNotice? := last?
        stats := { s.stats with refreshes, delivered, suppressed } } := by
  induction h with
  | refl => exact ⟨s.toFeed, [], s.lastNotice?, _, _, _, by rw [List.append_nil]⟩
  | tail _ step ih =>
      obtain ⟨feed, events, last?, refreshes, delivered, suppressed, rfl⟩ := ih
      cases step with
      | fed _ => exact ⟨_, events, last?, _, _, _, rfl⟩
      | told more last? _ =>
          exact ⟨feed, events ++ more, last?, _, _, _, by rw [← List.append_assoc]⟩
      | dropped => exact ⟨feed, events, last?, _, _, _, rfl⟩
      | delivered _ => exact ⟨feed, events, last?, _, _, _, rfl⟩
      | refreshed => exact ⟨feed, events, last?, _, _, _, rfl⟩

/-- Text steps shift the feed. -/
theorem TextSteps.shifts {s t : Session σ} (h : TextSteps s t) :
    Relation.ReflTransGen Feed.Shift s.toFeed t.toFeed := by
  induction h with
  | refl => exact .refl
  | tail _ step ih =>
      cases step with
      | fed h => exact ih.tail h
      | told _ _ _ => exact ih
      | dropped => exact ih
      | delivered _ => exact ih
      | refreshed => exact ih

theorem TextSteps.atRest {s t : Session σ} (h : TextSteps s t) (rest : s.channels.AtRest) :
    t.channels.AtRest := by
  induction h with
  | refl => exact rest
  | tail _ step ih =>
      cases step with
      | fed h =>
          rcases h.channels with same | held
          · exact same ▸ ih
          · exact held ▸ ih.hold_release_scroll
      | told _ _ _ => exact ih
      | dropped => exact ih
      | delivered _ => exact ih
      | refreshed => exact ih

/-- Text steps tell nothing of the focus. -/
theorem TextSteps.foci {s t : Session σ} (h : TextSteps s t) : t.foci = s.foci := by
  induction h with
  | refl => rfl
  | tail _ step ih =>
      rw [← ih]
      cases step with
      | told events _ silent =>
          exact List.filterMap_append.trans (by rw [silent, List.append_nil]; rfl)
      | _ => rfl

/-- While the channels are silenced they stay as they are, and nothing is delivered. -/
theorem TextSteps.silenced {s t : Session σ} (h : TextSteps s t) (silent : s.channels.Silenced) :
    t.channels = s.channels ∧ t.stats.delivered = s.stats.delivered := by
  induction h with
  | refl => exact ⟨rfl, rfl⟩
  | tail _ step ih =>
      obtain ⟨same, count⟩ := ih
      cases step with
      | fed h =>
          refine ⟨?_, count⟩
          rcases h.channels with kept | held
          · exact kept.trans same
          · exact held.trans (by rw [same]; exact silent.hold_release_scroll)
      | told _ _ _ => exact ⟨same, count⟩
      | dropped => exact ⟨same, count⟩
      | delivered attached =>
          rw [same, silent.not_attached] at attached
          exact nomatch attached
      | refreshed => exact ⟨same, count⟩

/-! ## The parts of a reload are text steps -/

theorem emit_step (s : Session σ) {e : ViewEvent} (silent : e.focus? = none) :
    TextStep s (s.emit e) :=
  .told s [e] s.lastNotice? (List.filterMap_cons_none silent)

theorem announce_step (s : Session σ) (text : String) : TextStep s (s.announce text) := by
  unfold announce
  split
  · have nothing := TextStep.told s [] s.lastNotice? rfl
    rwa [List.append_nil] at nothing
  · exact .told s [.notice text] (some text) rfl

/-- Shifts of the feed are text steps of the session around it. -/
theorem textSteps_of_shifts {s : Session σ} {f : Feed σ}
    (h : Relation.ReflTransGen Feed.Shift s.toFeed f) : TextSteps s { s with toFeed := f } :=
  h.lift (fun f => { s with toFeed := f }) fun _ _ step => .fed step

theorem extendText_steps (s : Session σ) : TextSteps s s.extendText := by
  have fed : TextSteps s { s with toFeed := s.toFeed.extend.2 } :=
    textSteps_of_shifts (Feed.extendFrom_shifts _ _ _)
  unfold extendText
  generalize s.toFeed.extend = result at fed ⊢
  obtain ⟨outcome, feed⟩ := result
  cases outcome with
  | ok report => exact fed
  | error f => exact fed.tail (announce_step _ _)

/-- What a scroll notification brings about, delivered or not. -/
theorem raise_scroll_steps (s : Session σ) : TextSteps s (s.raise .scroll) := by
  unfold raise
  split
  · rename_i attached
    exact .head (.delivered attached) (extendText_steps _)
  · exact .single (.dropped s)

theorem setTop_steps (s : Session σ) (top : Nat) : TextSteps s (s.setTop top) := by
  unfold setTop
  dsimp only
  split
  · exact .refl
  · exact .head (.fed (.scrolled s.toFeed top)) (raise_scroll_steps _)

/-- A cursor that is moved while the channels are silenced is not followed. -/
theorem setCursor_steps {s : Session σ} (silent : s.channels.Silenced) (c : Cursor) :
    TextSteps { s with listing := s.listing.setCursor c } (s.setCursor c) := by
  unfold setCursor
  dsimp only
  split
  · rename_i same
    rw [Listing.setCursor_of_cursor_eq same]
  · unfold raise
    rw [if_neg (by simp [silent.not_attached])]
    exact .single (.dropped _)

theorem prefill_steps (target : Address) (top n : Nat) (s : Session σ) :
    TextSteps s (prefill target top n s) := by
  induction n generalizing s with
  | zero => exact .refl
  | succ n ih =>
      have first : TextStep s { s with toFeed := s.toFeed.pass.2 } := .fed (.passed _)
      rw [prefill]
      generalize s.toFeed.pass = result at first ⊢
      obtain ⟨outcome, feed⟩ := result
      cases outcome with
      | error f => exact .head first (.single (announce_step _ _))
      | ok outcome =>
          have scrolled : TextSteps s ({ s with toFeed := feed }.setTop top) :=
            .head first (setTop_steps _ top)
          cases outcome with
          | appended k => exact scrolled.trans (ih _)
          | notNearEnd => exact scrolled
          | overflow => exact scrolled
          | invalidBoundary => exact scrolled
          | exhausted => exact scrolled

/-- Putting a first batch in place replaces the text, lets it grow back, and then places
the cursor once; everything between is text steps. -/
theorem install_steps {s : Session σ} (silent : s.channels.Silenced) (target : Address)
    (batch : String) (cursor : Cursor) (top : Nat) :
    ∃ filled : Session σ,
      TextSteps { s with toFeed := s.toFeed.restart target batch } filled ∧
      TextSteps { filled with listing := filled.listing.setCursor cursor }
        (s.install target batch cursor top) := by
  let s₁ : Session σ := { s with toFeed := s.toFeed.restart target batch }
  let s₂ := (s₁.raise .scroll).setTop top
  let s₃ := prefill target top s₂.config.passCap s₂
  have filled : TextSteps s₁ s₃ :=
    ((raise_scroll_steps s₁).trans (setTop_steps _ top)).trans (prefill_steps _ _ _ _)
  have silent₃ : s₃.channels.Silenced := by
    rw [(filled.silenced silent).1]
    exact silent
  exact ⟨s₃, filled, ((setCursor_steps silent₃ cursor).tail (.refreshed _)).tail (emit_step _ rfl)⟩

/-! ## A whole reload -/

/-- The session at the start of a rewrite: the navigation is taken, the channels are
silenced, and the analyzer has answered. -/
def rewriting (s : Session σ) (engine : σ) : Session σ :=
  { s with engine, pending? := none, channels := s.channels.holdEach Channel.all }

/-- The session at the end of a rewrite, with the channels let go. -/
def letGo (s : Session σ) : Session σ :=
  { s with channels := (s.channels.releaseEach Channel.all).attachAll }

/-- The notice of a place that does not load. -/
def refusal (target : Address) (f : EngineFault) : String :=
  s!"cannot load disassembly at {target}: {f.message}"

/-- Where a reload goes: to the pending navigation, else back to the anchor. -/
def reloadTarget? (s : Session σ) : Option Address :=
  s.pending?.or s.listing.anchor

/-- What a reload can come to, with the session it leaves: there is nowhere to go; the
place or its first batch is refused, and the text is as it was; or the batch is put in
place. -/
inductive Reloaded (s : Session σ) : Session σ → Bool → Prop
  | nowhere (h : s.reloadTarget? = none) : Reloaded s { s with pending? := none } false
  | refused {target : Address} {f : EngineFault} {engine : σ}
      (h : s.reloadTarget? = some target)
      (answer : (Query.batchAt target s.config.batchSize).ask s.engine = (.error f, engine)) :
      Reloaded s ((s.rewriting engine).announce (refusal target f)).letGo.updateFocus false
  | loaded {target : Address} {batch : String} {engine : σ} {place : Cursor × Nat} {t : Session σ}
      (h : s.reloadTarget? = some target)
      (answer : (Query.batchAt target s.config.batchSize).ask s.engine = (.ok batch, engine))
      (kept : place = s.listing.placeFor s.pending?.isNone)
      (installed : t = (s.rewriting engine).install target batch place.1 place.2) :
      Reloaded s { t with lastNotice? := none }.letGo.updateFocus true

/-- A rewrite in one question. -/
theorem replaceText_eq (s : Session σ) (target : Address) (hkeep : Bool) :
    s.replaceText target hkeep =
      match (Query.batchAt target s.config.batchSize).ask s.engine with
      | (.error f, engine) => (.error f, { s with engine })
      | (.ok batch, engine) =>
        (.ok (), { s with engine }.install target batch
          (s.listing.placeFor hkeep).1 (s.listing.placeFor hkeep).2) := by
  unfold replaceText
  simp only [Feed.ask, Query.batchAt_ask]
  cases (Analyzer.reposition target : Query σ Unit).ask s.engine with
  | mk placed engine =>
      cases placed with
      | error e => rfl
      | ok u =>
          dsimp only
          cases (Analyzer.disassemble s.config.batchSize : Query σ String).ask engine with
          | mk answer engine' => cases answer <;> cases hkeep <;> rfl

/-- What a reload makes of the outcome of its rewrite. -/
theorem reload_of_replaceText {s t : Session σ} {target : Address}
    {result : Except EngineFault Unit} (h : s.reloadTarget? = some target)
    (replaced : (s.rewriting s.engine).replaceText target s.pending?.isNone = (result, t)) :
    s.reload = match result with
      | .error f => ((t.announce (refusal target f)).letGo.updateFocus, false)
      | .ok _ => ({ t with lastNotice? := none }.letGo.updateFocus, true) := by
  unfold reloadTarget? at h
  unfold rewriting at replaced
  unfold reload
  dsimp only
  rw [h]
  dsimp only
  rw [replaced]
  cases result <;> rfl

theorem reloaded (s : Session σ) : s.Reloaded s.reload.1 s.reload.2 := by
  cases h : s.reloadTarget? with
  | none =>
      have stays : s.reload = ({ s with pending? := none }, false) := by
        unfold reloadTarget? at h
        unfold reload
        dsimp only
        rw [h]
      rw [stays]
      exact .nowhere h
  | some target =>
      cases answer : (Query.batchAt target s.config.batchSize).ask s.engine with
      | mk result engine =>
          have replaced := replaceText_eq (s.rewriting s.engine) target s.pending?.isNone
          rw [show (s.rewriting s.engine).engine = s.engine from rfl,
            show (s.rewriting s.engine).config = s.config from rfl,
            show (s.rewriting s.engine).listing = s.listing from rfl, answer] at replaced
          cases result with
          | error f =>
              rw [reload_of_replaceText h replaced]
              exact .refused h answer
          | ok batch =>
              rw [reload_of_replaceText h replaced]
              exact .loaded h answer rfl rfl

/-! ## What a reload does before its focus pass -/

/-- What neither text steps nor a rewrite of the text change. -/
structure Frame (s t : Session σ) : Prop where
  config : t.config = s.config
  templates : t.templates = s.templates
  watch : t.watch = s.watch
  cache : t.cache = s.cache
  panels : t.panels = s.panels
  history : t.history = s.history
  focusPasses : t.stats.focusPasses = s.stats.focusPasses
  foci : t.foci = s.foci

omit [Analyzer σ] in
theorem Frame.trans {s t u : Session σ} (h : s.Frame t) (h' : t.Frame u) : s.Frame u where
  config := h'.config.trans h.config
  templates := h'.templates.trans h.templates
  watch := h'.watch.trans h.watch
  cache := h'.cache.trans h.cache
  panels := h'.panels.trans h.panels
  history := h'.history.trans h.history
  focusPasses := h'.focusPasses.trans h.focusPasses
  foci := h'.foci.trans h.foci

theorem TextSteps.frame {s t : Session σ} (h : TextSteps s t) : s.Frame t := by
  have foci := h.foci
  obtain ⟨_, _, _, _, _, _, rfl⟩ := h.eq
  exact ⟨rfl, rfl, rfl, rfl, rfl, rfl, rfl, foci⟩

/-- A session about to make the focus pass of a reload: the feed has moved, the channels
are at rest again, and nothing was delivered. -/
structure Rewritten (s t : Session σ) : Prop extends s.Frame t where
  feed : Feed.Steps s.config.batchSize s.toFeed t.toFeed
  rest : t.channels.AtRest
  delivered : t.stats.delivered = s.stats.delivered

/-- Behind the channels of a rewrite, the first batch goes in place and nothing is
delivered. -/
theorem install_rewritten {s : Session σ} {target : Address} {batch : String} {engine : σ}
    (rest : s.channels.AtRest)
    (answer : (Query.batchAt target s.config.batchSize).ask s.engine = (.ok batch, engine))
    (cursor : Cursor) (top : Nat) :
    s.Rewritten ((s.rewriting engine).install target batch cursor top).letGo := by
  have silent : (s.rewriting engine).channels.Silenced := rest.silenced
  obtain ⟨filled, grow, finish⟩ := install_steps silent target batch cursor top
  generalize (s.rewriting engine).install target batch cursor top = t at finish
  have same := grow.silenced silent
  have silent' : filled.channels.Silenced := same.1 ▸ silent
  have same' := finish.silenced silent'
  have channels : t.channels = s.channels.holdEach Channel.all := same'.1.trans same.1
  have replaced : s.Frame { s.rewriting engine with
      toFeed := (s.rewriting engine).toFeed.restart target batch } :=
    ⟨rfl, rfl, rfl, rfl, rfl, rfl, rfl, rfl⟩
  have moved : filled.Frame { filled with listing := filled.listing.setCursor cursor } :=
    ⟨rfl, rfl, rfl, rfl, rfl, rfl, rfl, rfl⟩
  have frame : s.Frame t :=
    replaced.trans (grow.frame.trans (moved.trans finish.frame))
  have restarted : Feed.Steps s.config.batchSize s.toFeed
      ((s.rewriting engine).toFeed.restart target batch) :=
    .head (.held s.toFeed (s.channels.holdEach Channel.all)) (.single (.restarted answer))
  have placed : Feed.Steps s.config.batchSize s.toFeed
      { filled.toFeed with listing := filled.listing.setCursor cursor } :=
    (restarted.trans (Feed.steps_of_shifts grow.shifts)).tail (.placed filled.toFeed cursor)
  refine { frame with
    feed := (placed.trans (Feed.steps_of_shifts finish.shifts)).tail (.held t.toFeed _)
    rest := ?_
    delivered := same'.2.trans same.2 }
  show ((t.channels.releaseEach Channel.all).attachAll).AtRest
  rw [channels, rest.release_all.attachAll]
  exact rest.release_all

/-- A refusal leaves the text as it was, and says so. -/
theorem refused_rewritten {s : Session σ} {engine : σ} (rest : s.channels.AtRest)
    (asked : Analyzer.Asked s.engine engine) (text : String) :
    s.Rewritten ((s.rewriting engine).announce text).letGo := by
  obtain ⟨events, last?, told⟩ := announce_eq (s.rewriting engine) text
  have moved : Feed.Steps s.config.batchSize s.toFeed
      { s.toFeed with
        engine
        channels := ((s.channels.holdEach Channel.all).releaseEach Channel.all).attachAll } :=
    .head (Feed.step_asked asked) (.single (.held { s.toFeed with engine } _))
  have foci : ((s.rewriting engine).announce text).foci = s.foci :=
    (notes_announce (s.rewriting engine) text).foci
  rw [told] at foci ⊢
  refine { config := rfl, templates := rfl, watch := rfl, cache := rfl, panels := rfl
           history := rfl, focusPasses := rfl, foci, feed := moved, rest := ?_, delivered := rfl }
  show (((s.channels.holdEach Channel.all).releaseEach Channel.all).attachAll).AtRest
  rw [rest.release_all.attachAll]
  exact rest.release_all

/-- A reload that has somewhere to go ends with one focus pass on the session it has
rewritten, whether or not the place loads. -/
theorem reload_rewritten {s : Session σ} (rest : s.channels.AtRest)
    (target : s.reloadTarget?.isSome) :
    ∃ t, s.Rewritten t ∧ s.reload.1 = t.updateFocus := by
  have h := reloaded s
  generalize s.reload = result at h ⊢
  obtain ⟨after, loaded⟩ := result
  cases h with
  | nowhere none => simp [none] at target
  | refused _ answer =>
      exact ⟨_, refused_rewritten rest ((Query.plain_batchAt _ _).asked answer) _, rfl⟩
  | @loaded target batch engine place t _ answer _ installed =>
      have rewritten := install_rewritten rest answer place.1 place.2
      rw [← installed] at rewritten
      refine ⟨{ t with lastNotice? := none }.letGo, ?_, rfl⟩
      exact ⟨⟨rewritten.config, rewritten.templates, rewritten.watch, rewritten.cache,
        rewritten.panels, rewritten.history, rewritten.focusPasses, rewritten.foci⟩,
        rewritten.feed, rewritten.rest, rewritten.delivered⟩

/-- A reload that has nowhere to go only forgets the pending navigation. -/
theorem reload_nowhere {s : Session σ} (h : s.reloadTarget? = none) :
    s.reload.1 = { s with pending? := none } := by
  have found := reloaded s
  generalize s.reload = result at found ⊢
  obtain ⟨after, loaded⟩ := result
  cases found with
  | nowhere _ => rfl
  | refused some _ => exact absurd (h.symm.trans some) (by simp)
  | loaded some _ _ _ => exact absurd (h.symm.trans some) (by simp)

/-- Wherever a first batch is put in place, the text begins at its anchor. -/
theorem install_anchor {s : Session σ} (silent : s.channels.Silenced) (target : Address)
    (batch : String) (cursor : Cursor) (top : Nat) :
    (s.install target batch cursor top).listing.anchor = Feed.anchorOf target batch ∧
      (addressedLines batch = [] → (s.install target batch cursor top).listing.lines = []) := by
  obtain ⟨filled, grow, finish⟩ := install_steps silent target batch cursor top
  generalize s.install target batch cursor top = t at finish ⊢
  have grown := Feed.shifts_anchor grow.shifts
  have finished := Feed.shifts_anchor finish.shifts
  exact ⟨finished.1.trans grown.1, fun h => finished.2 (grown.2 h)⟩

/-- A reload that loads leaves the anchor of its first batch. -/
theorem reload_anchor {s t : Session σ} (rest : s.channels.AtRest) (h : s.reload = (t, true)) :
    ∃ target batch engine, s.reloadTarget? = some target ∧
      (Query.batchAt target s.config.batchSize).ask s.engine = (.ok batch, engine) ∧
      t.listing.anchor = Feed.anchorOf target batch ∧
      (addressedLines batch = [] → t.listing.lines = []) := by
  have found : s.Reloaded t true := by
    have found := reloaded s
    rwa [h] at found
  cases found with
  | @loaded target batch engine place u goal answer _ installed =>
      have placed := install_anchor (s := s.rewriting engine) rest.silenced target batch
        place.1 place.2
      rw [← installed] at placed
      obtain ⟨_, _, _, _, _, _, _, _, _, -, focused⟩ :=
        updateFocus_eq { u with lastNotice? := none }.letGo
      rw [focused]
      exact ⟨target, batch, engine, goal, answer, placed⟩

end Session

end AsmView
