/-
# A reload is not entered again

A reload replaces the text, scrolls and moves the cursor, and each of these raises a
notification.  None of them may reach paging or the focus, or a reload would set off
another one in its midst: the channels are held until the text stands, and one focus
pass follows.  `run_reload_once` says so of every operation that reloads, after any
operations before it and whatever the analyzer answers or refuses on the way.
-/
import AsmView.Proofs.Loaded
import AsmView.Proofs.Session.Step

namespace AsmView.Session

variable {σ : Type} [Analyzer σ]

/-- Where the transfer under the cursor leads, if following it leads anywhere. -/
def transfer? (s : Session σ) : Option Address :=
  match s.listing.cursorLine? with
  | none => none
  | some line =>
    match ((knownTarget line).ask s.engine).1 with
    | .ok target? => target?
    | .error _ => none

/-- Where the reload of an operation goes, for the operations that reload. -/
def destination? (s : Session σ) : Operation → Option Address
  | .goToStart => Analyzer.start? s.engine
  | .goTo target => some target
  | .goBack => s.history.head?
  | .goToQuery query =>
    (Destination.resolve? query (Analyzer.functions s.engine)).map (·.place)
  | .refresh => s.reloadTarget?
  | .showAnew => s.reloadTarget?
  | .followTransfer => s.transfer?
  | .followRow direction index =>
    (s.panels.references?.bind fun lists => (lists.entries direction)[index]?).map (·.address)
  | _ => none

/-- An operation that goes to another place, if it knows of one. -/
def Operation.Navigates : Operation → Prop
  | .goToStart => True
  | .goTo _ => True
  | .goBack => True
  | .goToQuery _ => True
  | .followTransfer => True
  | .followRow _ _ => True
  | _ => False

theorem followTransfer_steps {s : Session σ} (h : s.transfer? = none) :
    TextSteps s s.followTransfer.1 := by
  unfold transfer? at h
  unfold followTransfer
  cases line : s.listing.cursorLine? with
  | none => exact .refl
  | some text =>
      have asked := plain_knownTarget (σ := σ) text s.engine
      rw [line] at h
      dsimp only [Feed.ask] at h ⊢
      generalize (knownTarget text).ask s.engine = answer at asked h ⊢
      obtain ⟨result, engine⟩ := answer
      have step : TextStep s { s with engine } := .fed (.asked asked)
      cases result with
      | error f => exact .head step (.single (announce_step _ _))
      | ok target? =>
          obtain rfl : target? = none := h
          exact .single step

/-- An operation that knows of no place to go to asks the analyzer at most, and tells when that
does not answer. -/
theorem perform_steps_of_nowhere {s : Session σ} {op : Operation} (navigates : op.Navigates)
    (h : s.destination? op = none) : TextSteps s (s.perform op) := by
  cases op with
  | goToStart =>
      have unknown : Analyzer.start? s.engine = none := h
      show TextSteps s s.goToStart
      rw [goToStart, unknown]
  | goTo target => exact absurd h (Option.some_ne_none target)
  | goBack =>
      have empty : s.history = [] := List.head?_eq_none_iff.mp h
      show TextSteps s s.goBack.1
      rw [goBack, empty]
  | goToQuery query =>
      have unknown := Option.map_eq_none_iff.mp h
      show TextSteps s (s.goToQuery query).1
      rw [goToQuery, unknown]
  | followTransfer => exact followTransfer_steps h
  | followRow direction index =>
      have unlisted := Option.map_eq_none_iff.mp h
      show TextSteps s (s.followRow direction index).1
      rw [followRow, unlisted]
  | _ => exact navigates.elim

/-- One focus pass was made, and no notification delivered. -/
structure FocusedOnce (s t : Session σ) : Prop where
  focusPasses : t.stats.focusPasses = s.stats.focusPasses + 1
  delivered : t.stats.delivered = s.stats.delivered

/-- A reload that has somewhere to go makes one focus pass and delivers nothing. -/
theorem reload_focusedOnce {s : Session σ} (rest : s.channels.AtRest) {target : Address}
    (h : s.reloadTarget? = some target) : s.FocusedOnce s.reload.1 := by
  obtain ⟨t, rewritten, reloaded⟩ := reload_rewritten rest (by rw [h]; rfl)
  obtain ⟨_, _, _, _, _, _, _, _, _, -, focused⟩ := updateFocus_eq t
  rw [reloaded, focused]
  exact ⟨congrArg (· + 1) rewritten.focusPasses, rewritten.delivered⟩

theorem goTo_focusedOnce {s : Session σ} (rest : s.channels.AtRest) (target : Address) :
    s.FocusedOnce (s.goTo target) := by
  have once := reload_focusedOnce (s := (s.request target).1) rest rfl
  unfold goTo
  generalize (s.request target).1.reload = result at once ⊢
  obtain ⟨after, loaded⟩ := result
  dsimp only at once ⊢
  split
  · exact ⟨once.focusPasses, once.delivered⟩
  · exact ⟨once.focusPasses, once.delivered⟩

theorem goBack_focusedOnce {s : Session σ} (rest : s.channels.AtRest) {place : Address}
    (h : s.history.head? = some place) : s.FocusedOnce s.goBack.1 := by
  unfold goBack
  cases history : s.history with
  | nil => simp [history] at h
  | cons place' places =>
      have once := reload_focusedOnce
        (s := (({ s with history := places } : Session σ).request place').1) rest rfl
      dsimp only
      generalize (({ s with history := places } : Session σ).request place').1.reload = result
        at once ⊢
      obtain ⟨after, loaded⟩ := result
      cases loaded with
      | true => exact ⟨once.focusPasses, once.delivered⟩
      | false => exact ⟨once.focusPasses, once.delivered⟩

theorem followTransfer_focusedOnce {s : Session σ} (rest : s.channels.AtRest) {target : Address}
    (h : s.transfer? = some target) : s.FocusedOnce s.followTransfer.1 := by
  unfold transfer? at h
  unfold followTransfer
  cases line : s.listing.cursorLine? with
  | none => simp [line] at h
  | some text =>
      rw [line] at h
      dsimp only [Feed.ask] at h ⊢
      generalize (knownTarget text).ask s.engine = answer at h ⊢
      obtain ⟨result, engine⟩ := answer
      dsimp only at h ⊢
      cases result with
      | error f => simp at h
      | ok target? =>
          dsimp only at h
          subst h
          have once := goTo_focusedOnce (s := { s with engine }) rest target
          exact ⟨once.focusPasses, once.delivered⟩

theorem perform_focusedOnce {s : Session σ} (rest : s.channels.AtRest) {op : Operation}
    {target : Address} (h : s.destination? op = some target) : s.FocusedOnce (s.perform op) := by
  cases op with
  | goToStart =>
      have start : Analyzer.start? s.engine = some target := h
      have once := reload_focusedOnce (s := (s.request target).1) rest rfl
      show s.FocusedOnce s.goToStart
      rw [goToStart, start]
      exact ⟨once.focusPasses, once.delivered⟩
  | goTo place => exact goTo_focusedOnce rest place
  | goBack => exact goBack_focusedOnce rest h
  | goToQuery query =>
      obtain ⟨found, resolved, -⟩ := Option.map_eq_some_iff.mp h
      show s.FocusedOnce (s.goToQuery query).1
      rw [goToQuery, resolved]
      exact goTo_focusedOnce rest _
  | refresh => exact reload_focusedOnce rest h
  | showAnew =>
      have once := reload_focusedOnce (s := { s with
        watch := s.watch.markStale, cache := {}, announced := [] }) rest h
      exact ⟨once.focusPasses, once.delivered⟩
  | followTransfer => exact followTransfer_focusedOnce rest h
  | followRow direction index =>
      obtain ⟨entry, listed, -⟩ := Option.map_eq_some_iff.mp h
      show s.FocusedOnce (s.followRow direction index).1
      rw [followRow, listed]
      exact goTo_focusedOnce rest _
  | request _ => exact nomatch h
  | setHeight _ => exact nomatch h
  | scrollTo _ => exact nomatch h
  | scrollBy _ => exact nomatch h
  | placeCursor _ => exact nomatch h
  | stepCursor _ => exact nomatch h
  | raise _ => exact nomatch h
  | updateFocus => exact nomatch h
  | takeEvents => exact nomatch h

/-- After any operations, whatever the analyzer answers, both channels are attached and
were attached again as often as they were detached; and every operation that reloads
from there makes exactly one focus pass and delivers no notification. -/
theorem run_reload_once (engine : σ) (config : Config) (templates : TemplateStore)
    (ops : List Operation) :
    ((Session.new engine config templates).run ops).channels.allAttached = true ∧
      ((Session.new engine config templates).run ops).channels.detaches =
        ((Session.new engine config templates).run ops).channels.reattaches ∧
      ∀ op target,
        ((Session.new engine config templates).run ops).destination? op = some target →
        (((Session.new engine config templates).run ops).perform op).stats.focusPasses =
            ((Session.new engine config templates).run ops).stats.focusPasses + 1 ∧
          (((Session.new engine config templates).run ops).perform op).stats.delivered =
            ((Session.new engine config templates).run ops).stats.delivered := by
  have calm := (run_steps (calm_new engine config templates) ops).1
  generalize (Session.new engine config templates).run ops = s at calm ⊢
  refine ⟨?_, calm.rest.balanced, ?_⟩
  · simp [Channels.allAttached, Channel.all, calm.rest.attached]
  · intro op target h
    have once := perform_focusedOnce calm.rest h
    exact ⟨once.focusPasses, once.delivered⟩

/-- Going to the second function of the small image. -/
theorem run_reload_once_pair :
    (((Session.new (Loaded.load .pair) {}).run [.goToStart]).perform
        (.goTo ⟨0x1010⟩)).stats.focusPasses =
        ((Session.new (Loaded.load .pair) {}).run [.goToStart]).stats.focusPasses + 1 ∧
      (((Session.new (Loaded.load .pair) {}).run [.goToStart]).perform
        (.goTo ⟨0x1010⟩)).stats.delivered =
        ((Session.new (Loaded.load .pair) {}).run [.goToStart]).stats.delivered :=
  (run_reload_once (Loaded.load .pair) {} .builtin [.goToStart]).2.2 (.goTo ⟨0x1010⟩) ⟨0x1010⟩ rfl

end AsmView.Session
