/-
# Operations and the steps they are made of

`Operation` has everything a user can do in a view, and `run` does it in order.  However
different the operations are, they move a session in only six ways, and `Move` lists
them: the text moves on, the cursor moves and is followed, a focus pass is made, the text
is reloaded, the focus is dropped for a new analysis, and something is noted that
concerns neither text nor panels.  `perform_moves` breaks every operation into such moves,
but for the one that takes the events told; a `Step` is a move or that.  What holds of
sessions is then shown one step at a time.
-/
import AsmView.Session.Move
import AsmView.Proofs.Session.Reload

namespace AsmView

variable {σ : Type} [Analyzer σ]

namespace Session

/-- What a user, or the surroundings of a view, can ask of it. -/
inductive Operation where
  | goToStart
  | request (target : Address)
  | goTo (target : Address)
  | goBack
  | goToQuery (query : String)
  | refresh
  | showAnew
  | setHeight (height : Nat)
  | scrollTo (top : Nat)
  | scrollBy (delta : Int)
  | placeCursor (c : Cursor)
  | stepCursor (delta : Int)
  | raise (channel : Channel)
  | followTransfer
  | followRow (direction : Direction) (index : Nat)
  | updateFocus
  | takeEvents

/-- The session behind an operation. -/
def perform (s : Session σ) : Operation → Session σ
  | .goToStart => s.goToStart
  | .request target => (s.request target).1
  | .goTo target => s.goTo target
  | .goBack => s.goBack.1
  | .goToQuery query => (s.goToQuery query).1
  | .refresh => s.refresh
  | .showAnew => s.showAnew
  | .setHeight height => s.setHeight height
  | .scrollTo top => s.scrollTo top
  | .scrollBy delta => s.scrollBy delta
  | .placeCursor c => s.placeCursor c
  | .stepCursor delta => s.stepCursor delta
  | .raise channel => s.raise channel
  | .followTransfer => s.followTransfer.1
  | .followRow direction index => (s.followRow direction index).1
  | .updateFocus => s.updateFocus
  | .takeEvents => s.takeEvents.2

/-- The session behind a row of operations. -/
def run (s : Session σ) (ops : List Operation) : Session σ :=
  ops.foldl perform s

/-! ## Steps -/

/-- The session with its cursor on another place, and the notification of that
delivered. -/
def withCursor (s : Session σ) (c : Cursor) : Session σ :=
  { s with
    listing := s.listing.setCursor c
    stats := { s.stats with delivered := s.stats.delivered + 1 } }

/-- One way in which an operation moves the text on: whatever follows from a scroll
notification belongs to it. -/
inductive TextMove : Session σ → Session σ → Prop
  | asked {s : Session σ} {engine : σ} (h : Analyzer.Asked s.engine engine) :
      TextMove s { s with engine }
  | told (s : Session σ) (text : String) : TextMove s (s.announce text)
  | delivered {s : Session σ} {c : Channel} (h : s.channels.isAttached c = true) :
      TextMove s { s with stats := { s.stats with delivered := s.stats.delivered + 1 } }
  | scrolled (s : Session σ) (top : Nat) : TextMove s (s.setTop top)
  | resized (s : Session σ) (height : Nat) : TextMove s (s.setHeight height)
  | paged (s : Session σ) : TextMove s (s.raise .scroll)

theorem TextMove.steps {s t : Session σ} (h : TextMove s t) : TextSteps s t := by
  cases h with
  | asked h => exact .single (.fed (.asked h))
  | told text => exact .single (announce_step s text)
  | delivered h => exact .single (.delivered h)
  | scrolled top => exact setTop_steps s top
  | resized height =>
      unfold setHeight
      split
      · exact .refl
      · exact .head (.fed (.resized s.toFeed height)) (raise_scroll_steps _)
  | paged => exact raise_scroll_steps s

/-- One way in which an operation moves a session. -/
inductive Move : Session σ → Session σ → Prop
  | text {s t : Session σ} (h : TextMove s t) : Move s t
  | moved (s : Session σ) (c : Cursor) : Move s (s.withCursor c).updateFocus
  | focused (s : Session σ) : Move s s.updateFocus
  | reloaded (s : Session σ) : Move s s.reload.1
  | dropped (s : Session σ) :
      Move s { s with watch := s.watch.markStale, cache := {}, announced := [] }
  | noted {s : Session σ} {history : List Address} (pending? : Option Address)
      (short : history.length ≤ s.config.historyLimit) : Move s { s with pending?, history }

/-- A move of a user who only looks around in the text. -/
inductive Look : Session σ → Session σ → Prop
  | text {s t : Session σ} (h : TextMove s t) : Look s t
  | moved (s : Session σ) (c : Cursor) : Look s (s.withCursor c).updateFocus
  | focused (s : Session σ) : Look s s.updateFocus

theorem Look.move {s t : Session σ} (h : Look s t) : Move s t := by
  cases h with
  | text h => exact .text h
  | moved c => exact .moved s c
  | focused => exact .focused s

/-- Looks, one after the other. -/
abbrev Looks : Session σ → Session σ → Prop :=
  Relation.ReflTransGen Look

/-- Moves, one after the other. -/
abbrev Moves : Session σ → Session σ → Prop :=
  Relation.ReflTransGen Move

/-- A move, or the events are taken. -/
inductive Step : Session σ → Session σ → Prop
  | move {s t : Session σ} (h : Move s t) : Step s t
  | taken (s : Session σ) : Step s s.takeEvents.2

/-- Steps, one after the other. -/
abbrev Steps : Session σ → Session σ → Prop :=
  Relation.ReflTransGen Step

theorem Looks.moves {s t : Session σ} (h : Looks s t) : Moves s t :=
  h.lift id fun _ _ => Look.move

theorem Moves.steps {s t : Session σ} (h : Moves s t) : Steps s t :=
  h.lift id fun _ _ => .move

/-- What every step preserves along its way, every row of steps preserves. -/
theorem Steps.invariant {P : Session σ → Prop} (step : ∀ {s t : Session σ}, Step s t → P s → P t)
    {s t : Session σ} (h : Steps s t) (start : P s) : P t := by
  induction h with
  | refl => exact start
  | tail _ last ih => exact step last ih

/-! ## What a focus pass and a reload leave alone -/

/-- A focus pass does nothing to the feed but ask the analyzer. -/
theorem updateFocus_feed (s : Session σ) :
    ∃ engine, Analyzer.Asked s.engine engine ∧ s.updateFocus.toFeed = { s.toFeed with engine } := by
  obtain ⟨engine, _, _, _, _, _, _, _, _, asked, h⟩ := updateFocus_eq s
  rw [h]
  exact ⟨engine, asked, rfl⟩

/-- What stays as it is for as long as the user only looks around. -/
structure Settled (s t : Session σ) : Prop where
  config : t.config = s.config
  templates : t.templates = s.templates
  history : t.history = s.history

omit [Analyzer σ] in
theorem Frame.settled {s t : Session σ} (h : s.Frame t) : s.Settled t :=
  ⟨h.config, h.templates, h.history⟩

theorem updateFocus_settled (s : Session σ) : s.Settled s.updateFocus := by
  obtain ⟨_, _, _, _, _, _, _, _, _, -, h⟩ := updateFocus_eq s
  rw [h]
  exact ⟨rfl, rfl, rfl⟩

theorem reload_settled {s : Session σ} (rest : s.channels.AtRest) : s.Settled s.reload.1 := by
  cases target : s.reloadTarget? with
  | none =>
      rw [reload_nowhere target]
      exact ⟨rfl, rfl, rfl⟩
  | some _ =>
      obtain ⟨t, rewritten, h⟩ := reload_rewritten rest (by rw [target]; rfl)
      have focused := updateFocus_settled t
      rw [h]
      exact ⟨focused.config.trans rewritten.config, focused.templates.trans rewritten.templates,
        focused.history.trans rewritten.history⟩

/-! ## Every operation is made of moves -/

/-- What a session is like between two operations, as far as moving depends on
it. -/
structure Calm (s : Session σ) : Prop where
  rest : s.channels.AtRest
  short : s.history.length ≤ s.config.historyLimit

theorem request_move {s : Session σ} (calm : s.Calm) (target : Address) :
    Move s (s.request target).1 :=
  .noted (some target) calm.short

/-- A navigation is a request and a reload. -/
theorem navigate_moves {s : Session σ} (calm : s.Calm) (target : Address) :
    Moves s (s.request target).1.reload.1 ∧ s.Settled (s.request target).1.reload.1 := by
  have settled := reload_settled (s := (s.request target).1) calm.rest
  exact ⟨.head (request_move calm target) (.single (.reloaded _)),
    settled.config, settled.templates, settled.history⟩

theorem goToStart_moves {s : Session σ} (calm : s.Calm) : Moves s s.goToStart := by
  unfold goToStart
  cases Analyzer.start? s.engine with
  | none => exact .refl
  | some entry => exact (navigate_moves calm entry).1

theorem goTo_moves {s : Session σ} (calm : s.Calm) (target : Address) :
    Moves s (s.goTo target) := by
  obtain ⟨moves, settled⟩ := navigate_moves calm target
  unfold goTo
  generalize (s.request target).1.reload = result at moves settled ⊢
  obtain ⟨after, loaded⟩ := result
  dsimp only at moves settled ⊢
  split
  · refine moves.tail (.noted (s := after) after.pending? ?_)
    exact List.length_take_le _ _
  · exact moves

theorem goBack_moves {s : Session σ} (calm : s.Calm) : Moves s s.goBack.1 := by
  have short := calm.short
  unfold goBack
  cases history : s.history with
  | nil => exact .refl
  | cons place rest =>
      rw [history, List.length_cons] at short
      have forget : Move s { s with history := rest } :=
        .noted s.pending? (by omega)
      obtain ⟨moves, settled⟩ :=
        navigate_moves (s := { s with history := rest }) ⟨calm.rest, by dsimp only; omega⟩ place
      dsimp only
      generalize (({ s with history := rest } : Session σ).request place).1.reload = result
        at moves settled ⊢
      obtain ⟨after, loaded⟩ := result
      dsimp only at moves settled ⊢
      cases loaded with
      | true => exact .head forget moves
      | false =>
          refine .head forget (moves.tail (.noted (s := after) after.pending? ?_))
          rw [List.length_cons, settled.history, settled.config]
          exact short

/-- A cursor that the user moves is followed. -/
theorem setCursor_looks_of_attached {s : Session σ} (calm : s.Calm) (c : Cursor) :
    Looks s (s.setCursor c) := by
  unfold setCursor
  dsimp only
  split
  · exact .refl
  · unfold raise
    rw [if_pos (calm.rest.attached .cursor)]
    exact .single (.moved s c)

theorem scrollTo_looks (s : Session σ) (top : Nat) : Looks s (s.scrollTo top) :=
  .single (.text (.scrolled s top))

theorem placeCursor_looks {s : Session σ} (calm : s.Calm) (c : Cursor) :
    Looks s (s.placeCursor c) := by
  have moved := setCursor_looks_of_attached calm c
  unfold placeCursor
  dsimp only
  split
  · exact .refl
  · split
    · exact moved.trans (scrollTo_looks _ _)
    · split
      · exact moved.trans (scrollTo_looks _ _)
      · exact moved

theorem setHeight_looks (s : Session σ) (height : Nat) : Looks s (s.setHeight height) :=
  .single (.text (.resized s height))

theorem raise_looks {s : Session σ} (calm : s.Calm) (channel : Channel) :
    Looks s (s.raise channel) := by
  cases channel with
  | scroll => exact .single (.text (.paged s))
  | cursor =>
      have attached := calm.rest.attached .cursor
      unfold raise
      rw [if_pos attached]
      exact .head (.text (.delivered attached)) (.single (.focused _))

theorem plain_knownTarget (line : String) : (knownTarget line : Query σ _).Plain := by
  refine (Query.plain_query (.jumpTarget line)).bind fun target? => ?_
  cases target? with
  | none => exact Query.plain_pure none
  | some target =>
      exact (Query.plain_query (.functionNameAt target)).bind fun _ => Query.plain_pure _

theorem followTransfer_moves {s : Session σ} (calm : s.Calm) : Moves s s.followTransfer.1 := by
  unfold followTransfer
  cases s.listing.cursorLine? with
  | none => exact .refl
  | some line =>
      have asked := plain_knownTarget (σ := σ) line s.engine
      dsimp only [Feed.ask]
      generalize (knownTarget line).ask s.engine = answer at asked ⊢
      obtain ⟨result, engine⟩ := answer
      have step : Move s { s with engine } := .text (.asked asked)
      cases result with
      | error f => exact .head step (.single (.text (.told _ _)))
      | ok target? =>
          cases target? with
          | none => exact .single step
          | some target =>
              exact .head step (goTo_moves (s := { s with engine }) ⟨calm.rest, calm.short⟩ target)

theorem followRow_moves {s : Session σ} (calm : s.Calm) (direction : Direction) (index : Nat) :
    Moves s (s.followRow direction index).1 := by
  unfold followRow
  split
  · exact goTo_moves calm _
  · exact .refl

theorem goToQuery_moves {s : Session σ} (calm : s.Calm) (query : String) :
    Moves s (s.goToQuery query).1 := by
  unfold goToQuery
  split
  · exact goTo_moves calm _
  · exact .refl

/-- An operation is made of moves, unless it takes the events. -/
theorem perform_moves {s : Session σ} (calm : s.Calm) {op : Operation} (h : op ≠ .takeEvents) :
    Moves s (s.perform op) := by
  cases op with
  | goToStart => exact goToStart_moves calm
  | request target => exact .single (request_move calm target)
  | goTo target => exact goTo_moves calm target
  | goBack => exact goBack_moves calm
  | goToQuery query => exact goToQuery_moves calm query
  | refresh => exact .single (.reloaded s)
  | showAnew => exact .head (.dropped s) (.single (.reloaded _))
  | setHeight height => exact (setHeight_looks s height).moves
  | scrollTo top => exact (scrollTo_looks s top).moves
  | scrollBy delta => exact (scrollTo_looks s _).moves
  | placeCursor c => exact (placeCursor_looks calm c).moves
  | stepCursor delta => exact (placeCursor_looks calm _).moves
  | raise channel => exact (raise_looks calm channel).moves
  | followTransfer => exact followTransfer_moves calm
  | followRow direction index => exact followRow_moves calm direction index
  | updateFocus => exact .single (.focused s)
  | takeEvents => exact absurd rfl h

theorem perform_steps {s : Session σ} (calm : s.Calm) (op : Operation) :
    Steps s (s.perform op) := by
  by_cases h : op = .takeEvents
  · exact h ▸ .single (.taken s)
  · exact (perform_moves calm h).steps

/-! ## What one step does -/

theorem Move.settings {s t : Session σ} (h : Move s t) (calm : s.Calm) :
    t.config = s.config ∧ t.templates = s.templates := by
  cases h with
  | text h =>
      have settled := h.steps.frame.settled
      exact ⟨settled.config, settled.templates⟩
  | moved c =>
      have settled := updateFocus_settled (s.withCursor c)
      exact ⟨settled.config, settled.templates⟩
  | focused =>
      have settled := updateFocus_settled s
      exact ⟨settled.config, settled.templates⟩
  | reloaded =>
      have settled := reload_settled calm.rest
      exact ⟨settled.config, settled.templates⟩
  | dropped => exact ⟨rfl, rfl⟩
  | noted _ _ => exact ⟨rfl, rfl⟩

theorem Step.settings {s t : Session σ} (h : Step s t) (calm : s.Calm) :
    t.config = s.config ∧ t.templates = s.templates := by
  cases h with
  | move h => exact h.settings calm
  | taken => exact ⟨rfl, rfl⟩

theorem updateFocus_steps (s : Session σ) (size : Nat) :
    Feed.Steps size s.toFeed s.updateFocus.toFeed := by
  obtain ⟨engine, asked, h⟩ := updateFocus_feed s
  rw [h]
  exact .single (Feed.step_asked asked)

theorem reload_steps {s : Session σ} (rest : s.channels.AtRest) :
    Feed.Steps s.config.batchSize s.toFeed s.reload.1.toFeed := by
  cases target : s.reloadTarget? with
  | none =>
      rw [reload_nowhere target]
  | some _ =>
      obtain ⟨t, rewritten, h⟩ := reload_rewritten rest (by rw [target]; rfl)
      rw [h]
      exact rewritten.feed.trans (updateFocus_steps t _)

/-- A move of a session is a row of steps of its feed. -/
theorem Move.feed {s t : Session σ} (h : Move s t) (calm : s.Calm) :
    Feed.Steps s.config.batchSize s.toFeed t.toFeed := by
  cases h with
  | text h => exact Feed.steps_of_shifts h.steps.shifts
  | moved c => exact .head (.placed s.toFeed c) (updateFocus_steps (s.withCursor c) _)
  | focused => exact updateFocus_steps s _
  | reloaded => exact reload_steps calm.rest
  | dropped => exact .refl
  | noted _ _ => exact .refl

theorem Step.feed {s t : Session σ} (h : Step s t) (calm : s.Calm) :
    Feed.Steps s.config.batchSize s.toFeed t.toFeed := by
  cases h with
  | move h => exact h.feed calm
  | taken => exact .refl

omit [Analyzer σ] in
theorem Calm.of_settled {s t : Session σ} (calm : s.Calm) (settled : s.Settled t)
    (rest : t.channels.AtRest) : t.Calm where
  rest := rest
  short := by
    rw [settled.history, settled.config]
    exact calm.short

theorem Calm.updateFocus {s : Session σ} (calm : s.Calm) : s.updateFocus.Calm := by
  obtain ⟨engine, -, h⟩ := updateFocus_feed s
  refine calm.of_settled (updateFocus_settled s) ?_
  rw [h]
  exact calm.rest

theorem Calm.reload {s : Session σ} (calm : s.Calm) : s.reload.1.Calm := by
  refine calm.of_settled (reload_settled calm.rest) ?_
  cases target : s.reloadTarget? with
  | none =>
      rw [reload_nowhere target]
      exact calm.rest
  | some _ =>
      obtain ⟨t, rewritten, h⟩ := reload_rewritten calm.rest (by rw [target]; rfl)
      obtain ⟨engine, -, focused⟩ := updateFocus_feed t
      rw [h, focused]
      exact rewritten.rest

theorem Move.calm {s t : Session σ} (h : Move s t) (calm : s.Calm) : t.Calm := by
  cases h with
  | text h =>
      exact calm.of_settled h.steps.frame.settled (h.steps.atRest calm.rest)
  | moved c =>
      have placed : (s.withCursor c).Calm := ⟨calm.rest, calm.short⟩
      exact placed.updateFocus
  | focused => exact calm.updateFocus
  | reloaded => exact calm.reload
  | dropped => exact ⟨calm.rest, calm.short⟩
  | noted _ short => exact ⟨calm.rest, short⟩

theorem Step.calm {s t : Session σ} (h : Step s t) (calm : s.Calm) : t.Calm := by
  cases h with
  | move h => exact h.calm calm
  | taken => exact ⟨calm.rest, calm.short⟩

/-! ## Whole runs -/

omit [Analyzer σ] in
theorem calm_new (engine : σ) (config : Config) (templates : TemplateStore) :
    (Session.new engine config templates).Calm :=
  ⟨Channels.atRest_new, Nat.zero_le _⟩

/-- A property that steps preserve survives every operation. -/
theorem run_invariant {P : Session σ → Prop}
    (step : ∀ {s t : Session σ}, Step s t → s.Calm → P s → P t) {s : Session σ} (calm : s.Calm)
    (start : P s) (ops : List Operation) : (s.run ops).Calm ∧ P (s.run ops) := by
  induction ops generalizing s with
  | nil => exact ⟨calm, start⟩
  | cons op ops ih =>
      have performed : (s.perform op).Calm ∧ P (s.perform op) := by
        refine Steps.invariant (P := fun t => t.Calm ∧ P t) ?_ (perform_steps calm op) ⟨calm, start⟩
        rintro t u h ⟨calm, kept⟩
        exact ⟨h.calm calm, step h calm kept⟩
      exact ih performed.1 performed.2

/-- A run keeps the session calm and its settings as they were, and moves its feed by
steps. -/
theorem run_steps {s : Session σ} (calm : s.Calm) (ops : List Operation) :
    (s.run ops).Calm ∧ (s.run ops).config = s.config ∧ (s.run ops).templates = s.templates ∧
      Feed.Steps s.config.batchSize s.toFeed (s.run ops).toFeed := by
  refine run_invariant (P := fun t => t.config = s.config ∧ t.templates = s.templates ∧
    Feed.Steps s.config.batchSize s.toFeed t.toFeed) ?_ calm ⟨rfl, rfl, .refl⟩ ops
  rintro t u h calm ⟨config, templates, moved⟩
  obtain ⟨config', templates'⟩ := h.settings calm
  refine ⟨config'.trans config, templates'.trans templates, moved.trans ?_⟩
  rw [← config]
  exact h.feed calm

theorem perform_keeps {s : Session σ} (calm : s.Calm) (op : Operation) :
    (s.perform op).Calm ∧ (s.perform op).config = s.config ∧
      (s.perform op).templates = s.templates ∧
      Feed.Steps s.config.batchSize s.toFeed (s.perform op).toFeed :=
  run_steps calm [op]

end Session

end AsmView
