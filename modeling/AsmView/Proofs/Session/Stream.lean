/-
# The events lead to the focus

Whoever shows a session knows its focus from the events alone.  A run queues events and has
them taken in between, so what was ever told lies in pieces; `stream` puts them together.
`Follows` is what every move of a session keeps: what it goes on to tell of the focus ends
with the focus it has then, and when it tells nothing the focus has not changed.  A focus
pass has this from `updateFocus_turns`, since it looks at the focus of before; every other
move leaves the focus and its events alone.
-/
import AsmView.Proofs.Session.Step

namespace AsmView.Session

variable {σ : Type}

/-! ## Sessions whose telling follows the focus -/

/-- What the second session has told of the focus beyond the first leads from the focus of
the first to its own. -/
def Follows (s t : Session σ) : Prop :=
  ∃ told, t.foci = s.foci ++ told ∧ t.watch.focus = told.getLast?.getD s.watch.focus

theorem Follows.of_same {s t : Session σ} (foci : t.foci = s.foci)
    (focus : t.watch.focus = s.watch.focus) : s.Follows t :=
  ⟨[], by rw [foci, List.append_nil], focus⟩

theorem Follows.trans {s t u : Session σ} (h : s.Follows t) (h' : t.Follows u) : s.Follows u := by
  obtain ⟨told, first, focus⟩ := h
  obtain ⟨told', second, focus'⟩ := h'
  refine ⟨told ++ told', by rw [second, first, List.append_assoc], ?_⟩
  rw [focus', focus, List.getLast?_append]
  cases told'.getLast? <;> rfl

variable [Analyzer σ]

theorem follows_updateFocus (s : Session σ) : s.Follows s.updateFocus := by
  obtain ⟨noted, notes, turns⟩ := updateFocus_turns s
  have silent := notes.foci
  cases turn : s.turn? with
  | none =>
      rw [turn] at turns
      obtain ⟨events, focus⟩ := turns
      exact .of_same (by rw [← silent, foci, events]; rfl) focus
  | some e =>
      rw [turn] at turns
      obtain ⟨events, focus⟩ := turns
      refine ⟨[⟨some e.address, e.function⟩], ?_, focus⟩
      rw [← silent, foci, events, List.filterMap_append]
      rfl

theorem Move.follows {s t : Session σ} (h : Move s t) (calm : s.Calm) : s.Follows t := by
  cases h with
  | text h =>
      have frame := h.steps.frame
      exact .of_same frame.foci (by rw [frame.watch])
  | moved c =>
      have placed : s.Follows (s.withCursor c) := .of_same rfl rfl
      exact placed.trans (follows_updateFocus _)
  | focused => exact follows_updateFocus s
  | reloaded =>
      cases target : s.reloadTarget? with
      | none =>
          rw [reload_nowhere target]
          exact .of_same rfl rfl
      | some _ =>
          obtain ⟨t, rewritten, reloaded⟩ := reload_rewritten calm.rest (by rw [target]; rfl)
          have before : s.Follows t := .of_same rewritten.foci (by rw [rewritten.watch])
          rw [reloaded]
          exact before.trans (follows_updateFocus t)
  | dropped => exact .of_same rfl rfl
  | noted _ _ => exact .of_same rfl rfl

theorem Moves.follows {s t : Session σ} (h : Moves s t) (calm : s.Calm) :
    t.Calm ∧ s.Follows t := by
  induction h with
  | refl => exact ⟨calm, .of_same rfl rfl⟩
  | tail _ last ih =>
      obtain ⟨calm, told⟩ := ih
      exact ⟨last.calm calm, told.trans (last.follows calm)⟩

/-! ## Whole runs -/

/-- What an operation takes out of the queue. -/
def taken (s : Session σ) : Operation → List ViewEvent
  | .takeEvents => s.takeEvents.1
  | _ => []

omit [Analyzer σ] in
theorem taken_of_ne (s : Session σ) {op : Operation} (h : op ≠ .takeEvents) :
    s.taken op = [] := by
  cases op with
  | takeEvents => exact absurd rfl h
  | _ => rfl

/-- All events there ever are in a run, oldest first: those that are taken on its way, and
those that are still queued at its end. -/
def stream (s : Session σ) : List Operation → List ViewEvent
  | [] => s.events
  | op :: ops => s.taken op ++ (s.perform op).stream ops

/-- When what was told before a run leads to the focus, what was told after it does too. -/
theorem run_focus {s : Session σ} (calm : s.Calm) (past : List Focus)
    (h : s.watch.focus = (past ++ s.foci).getLast?.getD {}) (ops : List Operation) :
    (s.run ops).watch.focus =
      (past ++ (s.stream ops).filterMap ViewEvent.focus?).getLast?.getD {} := by
  induction ops generalizing s past with
  | nil => exact h
  | cons op ops ih =>
      rw [stream, List.filterMap_append]
      by_cases taking : op = .takeEvents
      · subst taking
        -- The queue is emptied, and what was in it belongs to the past.
        have later := ih (s := s.takeEvents.2) ⟨calm.rest, calm.short⟩ (past ++ s.foci)
          (h.trans (by rw [show s.takeEvents.2.foci = [] from rfl, List.append_nil]))
        rw [List.append_assoc] at later
        exact later
      · obtain ⟨calm', told, more, focus⟩ := (perform_moves calm taking).follows calm
        have later := ih calm' past <| by
          rw [focus, h, more, ← List.append_assoc, List.getLast?_append (l := past ++ s.foci)]
          cases told.getLast? <;> rfl
        rw [taken_of_ne s taking]
        exact later

/-- An event tells of a focus that has an address. -/
theorem address_of_mem_foci {events : List ViewEvent} {f : Focus}
    (h : f ∈ events.filterMap ViewEvent.focus?) : f.address ≠ none := by
  obtain ⟨e, -, told⟩ := List.mem_filterMap.mp h
  cases e with
  | focusChanged a name =>
      obtain rfl := Option.some.inj told
      exact Option.some_ne_none a
  | refreshed _ _ => exact nomatch told
  | notice _ => exact nomatch told

/-- Over any run from a new session, whatever the analyzer answers: the newest change of
focus that was ever told is to the focused address and its function, and while nothing is
focused none was told.  A focus pass that passes over its line, does not find the owner, or
finds the address and the function focused already tells of failures at most. -/
theorem run_stream (engine : σ) (config : Config) (templates : TemplateStore)
    (ops : List Operation) :
    (∀ a, ((Session.new engine config templates).run ops).watch.focus.address = some a →
      (((Session.new engine config templates).stream ops).filterMap ViewEvent.focus?).getLast? =
        some ⟨some a, ((Session.new engine config templates).run ops).watch.focus.function⟩) ∧
    (((Session.new engine config templates).run ops).watch.focus.address = none →
      ((Session.new engine config templates).stream ops).filterMap ViewEvent.focus? = []) ∧
    ∀ s : Session σ,
      ((s.watch.observe s.listing.cursorLine? s.engine).1 = .ok .ignored ∨
        (∃ f, (s.watch.observe s.listing.cursorLine? s.engine).1 = .error f) ∨
        ∃ e, (s.watch.observe s.listing.cursorLine? s.engine).1 = .ok (.sameFunction e) ∧
          s.watch.focus.address = some e.address) →
      s.Notes s.updateFocus := by
  have followed := run_focus (calm_new engine config templates) [] rfl ops
  generalize (Session.new engine config templates).run ops = t at followed ⊢
  rw [List.nil_append] at followed
  refine ⟨fun a focused => ?_, fun unfocused => ?_, fun s quiet => ?_⟩
  · cases newest : (((Session.new engine config templates).stream ops).filterMap
        ViewEvent.focus?).getLast? with
    | none =>
        rw [newest] at followed
        rw [followed] at focused
        exact nomatch focused
    | some f =>
        rw [newest] at followed
        rw [← focused, followed]
        rfl
  · rw [← List.getLast?_eq_none_iff, Option.eq_none_iff_forall_ne_some]
    intro f newest
    rw [newest] at followed
    rw [followed] at unfocused
    exact address_of_mem_foci (List.mem_of_getLast? newest) unfocused
  · have still : s.turn? = none := by
      unfold turn?
      rcases quiet with outcome | ⟨f, outcome⟩ | ⟨e, outcome, here⟩
      · rw [outcome]
      · rw [outcome]
      · rw [outcome]
        exact if_pos here
    obtain ⟨noted, notes, turns⟩ := updateFocus_turns s
    rw [still] at turns
    exact notes.trans (.nothing turns.1)

end AsmView.Session
