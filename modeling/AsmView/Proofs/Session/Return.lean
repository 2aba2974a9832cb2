/-
# Going back undoes going

Every place that is left is remembered, but what is remembered is the anchor and not the
place once asked for, only a navigation that loads counts, and one to the anchor itself does
not.  So it has to be said of a whole row of operations what going back through them means.
`Wanders` splits a row into operations that stay where they are and those that leave an
anchor for another place.  The first keep anchor and history, the second put the anchor in
front of the history, and going back takes it from there again: over a loaded image every
anchor is a `Home`, so it is found again.
-/
import AsmView.Proofs.Loaded.Home
import AsmView.Proofs.Session.Whole

namespace AsmView

open Loaded

namespace Session

section Stays

variable {σ : Type}

/-- Neither the history nor the anchor is another. -/
structure Stays (s t : Session σ) : Prop where
  history : t.history = s.history
  anchor : t.listing.anchor = s.listing.anchor

theorem Stays.trans {s t u : Session σ} (h : s.Stays t) (h' : t.Stays u) : s.Stays u :=
  ⟨h'.history.trans h.history, h'.anchor.trans h.anchor⟩

theorem Untouched.stays {s t : Session σ} (h : s.Untouched t) : s.Stays t :=
  ⟨h.history, by rw [h.listing]⟩

variable [Analyzer σ]

theorem stays_updateFocus (s : Session σ) : s.Stays s.updateFocus := by
  obtain ⟨engine, -, feed⟩ := updateFocus_feed s
  exact ⟨(updateFocus_settled s).history, by rw [feed]⟩

theorem TextSteps.stays {s t : Session σ} (h : TextSteps s t) : s.Stays t :=
  ⟨h.frame.history, (Feed.shifts_anchor h.shifts).1⟩

theorem Look.stays {s t : Session σ} (h : Look s t) : s.Stays t := by
  cases h with
  | text h => exact h.steps.stays
  | moved c =>
      have placed : s.Stays (s.withCursor c) := ⟨rfl, rfl⟩
      exact placed.trans (stays_updateFocus _)
  | focused => exact stays_updateFocus s

/-- Whoever only looks around stays. -/
theorem Looks.stays {s t : Session σ} (h : Looks s t) : s.Stays t := by
  induction h with
  | refl => exact ⟨rfl, rfl⟩
  | tail _ last ih => exact ih.trans last.stays

/-! ## Operations that stay -/

/-- The operation goes nowhere: it does not reload, or it reloads the text in place, or the
place it goes to is refused. -/
def Lingers (s : Session σ) (op : Operation) : Prop :=
  ∀ target, s.destination? op = some target → s.keepsPlace op = true ∨
    ((Query.batchAt target s.config.batchSize).ask (s.analyzerFor op)).1.isOk = false

/-- An operation that does not reload stays. -/
theorem perform_stays_of_nowhere {s : Session σ} (calm : s.Calm) {op : Operation}
    (h : s.destination? op = none) : s.Stays (s.perform op) := by
  have homeless : op.Navigates → s.Stays (s.perform op) :=
    fun navigates => (perform_steps_of_nowhere navigates h).stays
  cases op with
  | request target => exact ⟨rfl, rfl⟩
  | refresh =>
      show s.Stays s.reload.1
      rw [reload_nowhere h]
      exact ⟨rfl, rfl⟩
  | showAnew =>
      show s.Stays (reload { s with watch := s.watch.markStale, cache := {}, announced := [] }).1
      rw [reload_nowhere (s := { s with
        watch := s.watch.markStale, cache := {}, announced := [] }) h]
      exact ⟨rfl, rfl⟩
  | setHeight height => exact (setHeight_looks s height).stays
  | scrollTo top => exact (scrollTo_looks s top).stays
  | scrollBy delta => exact (scrollTo_looks s _).stays
  | placeCursor c => exact (placeCursor_looks calm c).stays
  | stepCursor delta => exact (placeCursor_looks calm _).stays
  | raise channel => exact (raise_looks calm channel).stays
  | updateFocus => exact stays_updateFocus s
  | takeEvents => exact ⟨rfl, rfl⟩
  | _ => exact homeless trivial

omit [Analyzer σ] in
theorem keepsPlace_eq_true {s : Session σ} {op : Operation} (h : s.keepsPlace op = true) :
    (op = .refresh ∨ op = .showAnew) ∧ s.pending? = none := by
  cases op with
  | refresh => exact ⟨.inl rfl, Option.isNone_iff_eq_none.mp h⟩
  | showAnew => exact ⟨.inr rfl, Option.isNone_iff_eq_none.mp h⟩
  | _ => exact absurd h Bool.false_ne_true

/-- An operation that goes nowhere leaves the history alone, so one that is refused does. -/
theorem Lingers.history {s : Session σ} (calm : s.Calm) {op : Operation} (h : s.Lingers op) :
    (s.perform op).history = s.history := by
  cases going : s.destination? op with
  | none => exact (perform_stays_of_nowhere calm going).history
  | some target =>
      rcases h target going with keeps | refused
      · obtain ⟨rfl | rfl, -⟩ := keepsPlace_eq_true keeps
        · exact (reload_settled calm.rest).history
        · exact (reload_settled (s := { s with
            watch := s.watch.markStale, cache := {}, announced := [] }) calm.rest).history
      · obtain ⟨-, whole⟩ := perform_whole calm.rest going
        cases answer : ((Query.batchAt target s.config.batchSize).ask (s.analyzerFor op)).1 with
        | ok batch =>
            rw [answer] at refused
            exact nomatch refused
        | error f =>
            rw [answer] at whole
            exact Untouched.history whole

/-! ## Operations that leave a place, and going back -/

/-- The operations that go to a place and remember the one they leave. -/
def Operation.Seeks : Operation → Prop
  | .goTo _ | .goToQuery _ | .followTransfer | .followRow _ _ => True
  | _ => False

/-- The operation leaves its anchor for another place, which loads. -/
structure Departs (s : Session σ) (op : Operation) (a : Address) : Prop where
  seeks : op.Seeks
  anchor : s.listing.anchor = some a
  loads : ∃ target, s.destination? op = some target ∧ target ≠ a ∧
    ((Query.batchAt target s.config.batchSize).ask (s.analyzerFor op)).1.isOk = true

theorem perform_of_seeks {s : Session σ} {op : Operation} (seeks : op.Seeks) {target : Address}
    (going : s.destination? op = some target) :
    s.perform op = ({ s with engine := s.analyzerFor op } : Session σ).goTo target := by
  cases op with
  | goTo place =>
      obtain rfl : place = target := Option.some.inj going
      rfl
  | goToQuery query =>
      obtain ⟨found, resolved, rfl⟩ := Option.map_eq_some_iff.mp going
      show (s.goToQuery query).1 = _
      rw [goToQuery, resolved]
      rfl
  | followTransfer =>
      have goal : s.transfer? = some target := going
      unfold transfer? at goal
      show s.followTransfer.1 = _
      unfold followTransfer analyzerFor
      cases line : s.listing.cursorLine? with
      | none => simp [line] at goal
      | some text =>
          rw [line] at goal
          dsimp only [Feed.ask] at goal ⊢
          generalize (knownTarget text).ask s.engine = answer at goal ⊢
          obtain ⟨result, engine⟩ := answer
          dsimp only at goal ⊢
          cases result with
          | error f => simp at goal
          | ok target? =>
              dsimp only at goal
              subst goal
              rfl
  | followRow direction index =>
      obtain ⟨entry, listed, rfl⟩ := Option.map_eq_some_iff.mp going
      show (s.followRow direction index).1 = _
      rw [followRow, listed]
      rfl
  | _ => exact seeks.elim

/-- Going to a place that loads puts the anchor in front of the history, unless the place is
the anchor. -/
theorem goTo_history {s : Session σ} (calm : s.Calm) {target : Address}
    (loads : ((Query.batchAt target s.config.batchSize).ask s.engine).1.isOk = true) :
    (s.goTo target).history =
      match s.listing.anchor.filter (· ≠ target) with
      | some a => (a :: s.history).take s.config.historyLimit
      | none => s.history := by
  obtain ⟨-, settled⟩ := navigate_moves calm target
  obtain ⟨-, loaded, -⟩ := navigate_whole calm.rest target
  unfold goTo
  generalize (s.request target).1.reload = result at settled loaded ⊢
  obtain ⟨after, outcome⟩ := result
  obtain rfl : outcome = true := loaded.trans loads
  cases s.listing.anchor.filter (· ≠ target) with
  | none => exact settled.history
  | some a =>
      show (a :: after.history).take after.config.historyLimit = _
      rw [settled.history, settled.config]

theorem Departs.history {s : Session σ} (calm : s.Calm) {op : Operation} {a : Address}
    (h : s.Departs op a) : (s.perform op).history = (a :: s.history).take s.config.historyLimit := by
  obtain ⟨target, going, elsewhere, loads⟩ := h.loads
  rw [perform_of_seeks h.seeks going,
    goTo_history (s := { s with engine := s.analyzerFor op }) ⟨calm.rest, calm.short⟩ loads]
  dsimp only
  rw [h.anchor, Option.filter_some, if_pos (by simpa using elsewhere.symm)]

/-- Going back to a place that loads takes it out of the history. -/
theorem goBack_history {s : Session σ} (calm : s.Calm) {a : Address} {rest : List Address}
    (history : s.history = a :: rest)
    (loads : ((Query.batchAt a s.config.batchSize).ask s.engine).1.isOk = true) :
    s.goBack.1.history = rest := by
  have short := calm.short
  rw [history, List.length_cons] at short
  have calm' : ({ s with history := rest } : Session σ).Calm := ⟨calm.rest, by dsimp only; omega⟩
  obtain ⟨-, settled⟩ := navigate_moves calm' a
  obtain ⟨-, loaded, -⟩ := navigate_whole calm'.rest a
  unfold goBack
  rw [history]
  dsimp only
  generalize (({ s with history := rest } : Session σ).request a).1.reload = result
    at settled loaded ⊢
  obtain ⟨after, outcome⟩ := result
  obtain rfl : outcome = true := loaded.trans loads
  exact settled.history

/-- Finding the place to go to does nothing to the analyzer but ask it. -/
theorem asked_analyzerFor (s : Session σ) (op : Operation) :
    Analyzer.Asked s.engine (s.analyzerFor op) := by
  cases op with
  | followTransfer =>
      unfold analyzerFor
      cases s.listing.cursorLine? with
      | none => exact .refl
      | some line => exact plain_knownTarget line s.engine
  | _ => exact .refl

/-- Operations that each stay or leave an anchor for another place, with the anchors that are
left, the last one first. -/
inductive Wanders : Session σ → List Operation → List Address → Prop
  | done (s : Session σ) : Wanders s [] []
  | lingers {s : Session σ} {op : Operation} {ops : List Operation} {left : List Address}
      (here : s.Lingers op) (rest : Wanders (s.perform op) ops left) : Wanders s (op :: ops) left
  | departs {s : Session σ} {op : Operation} {ops : List Operation} {left : List Address}
      {a : Address} (away : s.Departs op a) (rest : Wanders (s.perform op) ops left) :
      Wanders s (op :: ops) (left ++ [a])

end Stays

/-! ## Over a loaded image -/

variable {l : Loaded}

/-- A session between two operations whose anchor, if it has one, is a home. -/
structure Rooted (l : Loaded) (s : Session Loaded) : Prop where
  calm : s.Calm
  homed : s.toFeed.Homed l s.config.batchSize

theorem Rooted.run {s : Session Loaded} (h : s.Rooted l)
    (covered : ∀ r ∈ l.slots, l.covers r.address = true) (ops : List Operation) :
    (s.run ops).Rooted l := by
  obtain ⟨calm, config, -, steps⟩ := run_steps h.calm ops
  exact ⟨calm, config ▸ steps.homed h.homed covered⟩

/-- An operation that loads goes to a place in the image, and to where that leads. -/
theorem anchor_of_loads {s : Session Loaded} (rest : s.channels.AtRest)
    (image : l.SameImage s.engine) {op : Operation} {target : Address}
    (going : s.destination? op = some target)
    (loads : ((Query.batchAt target s.config.batchSize).ask (s.analyzerFor op)).1.isOk = true) :
    l.covers target = true ∧
      (s.perform op).listing.anchor = some (l.landing s.config.batchSize target) := by
  have image' := image.trans (sameImage_of_asked (asked_analyzerFor s op))
  obtain ⟨-, whole⟩ := perform_whole rest going
  cases asked : (Query.batchAt target s.config.batchSize).ask (s.analyzerFor op) with
  | mk answer engine =>
      rw [asked] at loads whole
      cases answer with
      | error f => exact nomatch loads
      | ok batch =>
          obtain ⟨inside, begins⟩ := anchorOf_answer image' asked
          refine ⟨inside, ?_⟩
          rw [Replaced.anchor whole, ← begins, Feed.anchorOf]
          cases (addressedLines batch).head?.bind lineAddress? <;> rfl

theorem Rooted.anchor_of_loads {s : Session Loaded} (h : s.Rooted l) {op : Operation}
    {target : Address} (going : s.destination? op = some target)
    (loads : ((Query.batchAt target s.config.batchSize).ask (s.analyzerFor op)).1.isOk = true) :
    (s.perform op).listing.anchor = some (l.landing s.config.batchSize target) :=
  (Session.anchor_of_loads h.calm.rest h.homed.engine going loads).2

/-- A home loads. -/
theorem Rooted.loads {s : Session Loaded} (h : s.Rooted l) {a : Address}
    (home : l.Home s.config.batchSize a) :
    ((Query.batchAt a s.config.batchSize).ask s.engine).1.isOk = true :=
  h.homed.engine.isOk_batchAt home.inside _

/-- An operation that goes nowhere leaves the anchor: reloaded in place, the text begins
where it did. -/
theorem Lingers.anchor {s : Session Loaded} (h : s.Rooted l) {op : Operation} (here : s.Lingers op)
    {a : Address} (anchor : s.listing.anchor = some a) :
    (s.perform op).listing.anchor = some a := by
  cases going : s.destination? op with
  | none => exact (perform_stays_of_nowhere h.calm going).anchor.trans anchor
  | some target =>
      rcases here target going with keeps | refused
      · have home := h.homed.anchor a anchor
        obtain ⟨reloads, unasked⟩ := keepsPlace_eq_true keeps
        have again : s.reloadTarget? = some a := by rw [reloadTarget?, unasked, anchor]; rfl
        have refreshed : s.destination? .refresh = some a := again
        have hanew : s.destination? .showAnew = some a := again
        rcases reloads with rfl | rfl
        · exact (h.anchor_of_loads refreshed (h.loads home)).trans (by rw [home.lands])
        · exact (h.anchor_of_loads hanew (h.loads home)).trans (by rw [home.lands])
      · obtain ⟨-, whole⟩ := perform_whole h.calm.rest going
        cases answer : ((Query.batchAt target s.config.batchSize).ask (s.analyzerFor op)).1 with
        | ok batch =>
            rw [answer] at refused
            exact nomatch refused
        | error f =>
            rw [answer] at whole
            exact (Untouched.stays whole).anchor.trans anchor

/-- What wandering about comes to: the anchors left stand in front of the history, the last
one first, every one of them is a home, and the first that was left is where it began. -/
theorem Wanders.arrives {s : Session Loaded} {ops : List Operation} {left : List Address}
    (h : s.Wanders ops left) (rooted : s.Rooted l)
    (covered : ∀ r ∈ l.slots, l.covers r.address = true) {a : Address}
    (anchor : s.listing.anchor = some a)
    (room : s.history.length + left.length ≤ s.config.historyLimit) :
    ∃ b, (s.run ops).listing.anchor = some b ∧ left.getLast?.getD b = a ∧
      (s.run ops).history = left ++ s.history ∧ ∀ c ∈ left, l.Home s.config.batchSize c := by
  induction h generalizing a with
  | done s => exact ⟨a, anchor, rfl, rfl, fun _ h => nomatch h⟩
  | @lingers s op ops left here _ ih =>
      have after := rooted.run covered [op]
      have config : (s.perform op).config = s.config := (run_steps rooted.calm [op]).2.1
      have history := here.history rooted.calm
      have arrived := ih after (here.anchor rooted anchor) (by rw [history, config]; exact room)
      rw [history, config] at arrived
      exact arrived
  | @departs s op ops left b away _ ih =>
      have after := rooted.run covered [op]
      have config : (s.perform op).config = s.config := (run_steps rooted.calm [op]).2.1
      obtain rfl : a = b := Option.some.inj (anchor.symm.trans away.anchor)
      obtain ⟨target, going, -, loads⟩ := away.loads
      rw [List.length_append, List.length_singleton] at room
      have history : (s.perform op).history = a :: s.history := by
        rw [away.history rooted.calm, List.take_of_length_le]
        rw [List.length_cons]
        omega
      obtain ⟨b, there, -, past, homes⟩ := ih after (rooted.anchor_of_loads going loads) (by
        rw [history, config, List.length_cons]
        omega)
      rw [history, config] at *
      refine ⟨b, there, by simp, ?_, fun c hc => ?_⟩
      · exact past.trans (by simp)
      · rcases List.mem_append.mp hc with later | first
        · exact homes c later
        · exact List.mem_singleton.mp first ▸ rooted.homed.anchor a anchor

/-- Going back through homes visits them one after the other and forgets them. -/
theorem Rooted.goesBack {s : Session Loaded} (h : s.Rooted l)
    (covered : ∀ r ∈ l.slots, l.covers r.address = true) (places past : List Address)
    (history : s.history = places ++ past)
    (homes : ∀ c ∈ places, l.Home s.config.batchSize c) :
    (∀ i c, places[i]? = some c →
      (s.run (List.replicate (i + 1) .goBack)).listing.anchor = some c) ∧
      (s.run (List.replicate places.length .goBack)).history = past := by
  induction places generalizing s with
  | nil => exact ⟨fun _ _ found => (nomatch found), history⟩
  | cons place places ih =>
      have home := homes place List.mem_cons_self
      have loads := h.loads home
      have going : s.destination? .goBack = some place := by
        show s.history.head? = some place
        rw [history]
        rfl
      have there : (s.perform .goBack).listing.anchor = some place :=
        (h.anchor_of_loads going loads).trans (by rw [home.lands])
      have config : (s.perform .goBack).config = s.config := (run_steps h.calm [.goBack]).2.1
      obtain ⟨visits, left⟩ := ih (h.run covered [.goBack])
        (goBack_history h.calm history loads)
        (fun c hc => config ▸ homes c (List.mem_cons_of_mem place hc))
      refine ⟨fun i c found => ?_, left⟩
      cases i with
      | zero => exact there.trans found
      | succ i => exact visits i c found

/-! ## Whole runs -/

/-- Over an image whose instructions lie in it, from any session that operations lead to:
when operations that otherwise stay leave anchors for other places, and the history has room
for them, then going back as often visits these anchors, the last one first, ends at the
anchor of the beginning, and leaves the history of the beginning.  And whatever the analyzer
and the session, an operation that goes nowhere leaves the history alone. -/
theorem run_goBack :
    (∀ img : Image, (∀ i ∈ img.instructions, (load img).covers i.address = true) →
      ∀ (config : Config) (templates : TemplateStore) (before ops : List Operation)
        (left : List Address) (a : Address) (s t : Session Loaded),
        (Session.new (load img) config templates).run before = s → s.run ops = t →
        s.listing.anchor = some a → s.Wanders ops left →
        s.history.length + left.length ≤ config.historyLimit →
        (∀ i c, left[i]? = some c →
          (t.run (List.replicate (i + 1) .goBack)).listing.anchor = some c) ∧
        (t.run (List.replicate left.length .goBack)).listing.anchor = some a ∧
        (t.run (List.replicate left.length .goBack)).history = s.history) ∧
    ∀ (σ : Type) [Analyzer σ] (engine : σ) (config : Config) (templates : TemplateStore)
      (ops : List Operation) (s : Session σ) (op : Operation),
      (Session.new engine config templates).run ops = s → s.Lingers op →
      (s.perform op).history = s.history := by
  constructor
  · intro img covered config templates before ops left a s t reached wandered anchor wanders room
    have inside : ∀ r ∈ (load img).slots, (load img).covers r.address = true := fun r hr =>
      covered r.instruction (mem_instructions.mpr ⟨r, hr, rfl⟩)
    have fresh : (Session.new (load img) config templates).Rooted (load img) :=
      ⟨calm_new _ _ _, .refl _, fun _ h => nomatch h⟩
    have rooted := fresh.run inside before
    have settings : s.config = config :=
      reached ▸ (run_steps (calm_new (load img) config templates) before).2.1
    rw [reached] at rooted
    obtain ⟨b, there, first, history, homes⟩ :=
      wanders.arrives rooted inside anchor (by rw [settings]; exact room)
    have kept := (run_steps rooted.calm ops).2.1
    have arrived := rooted.run inside ops
    rw [wandered] at there history kept arrived
    obtain ⟨visits, past⟩ := arrived.goesBack inside left s.history history (kept ▸ homes)
    refine ⟨visits, ?_, past⟩
    -- The last place visited is the first that was left, if any was.
    cases places : left with
    | nil =>
        rw [places] at first
        exact there.trans (congrArg some first)
    | cons c rest =>
        refine visits rest.length a ?_
        rw [← first, places, List.getLast?_eq_getElem?, List.length_cons]
        simp
  · rintro σ _ engine config templates ops s op rfl here
    exact here.history (run_steps (calm_new engine config templates) ops).1

/-- In the small image, going from its start to the second function and back. -/
theorem run_goBack_pair :
    ((((Session.new (load .pair) {}).run [.goToStart]).run [.goTo ⟨0x1010⟩]).run
        [.goBack]).listing.anchor = some ⟨0x1000⟩ ∧
      ((((Session.new (load .pair) {}).run [.goToStart]).run [.goTo ⟨0x1010⟩]).run
        [.goBack]).history = [] := by
  have covered : ∀ i ∈ Image.pair.instructions, (load .pair).covers i.address = true := by decide
  have inside : ∀ r ∈ (load .pair).slots, (load .pair).covers r.address = true := fun r hr =>
    covered r.instruction (mem_instructions.mpr ⟨r, hr, rfl⟩)
  have fresh : (Session.new (load .pair) {}).Rooted (load .pair) :=
    ⟨calm_new _ _ _, .refl _, fun _ h => nomatch h⟩
  have main : (load .pair).landing (Config.batchSize {}) ⟨0x1000⟩ = ⟨0x1000⟩ := by
    rw [load_pair]
    rfl
  have start : (Session.new (load .pair) {}).destination? .goToStart = some ⟨0x1000⟩ := by
    show startOf? (load .pair).image = _
    rw [load_pair]
    rfl
  have anchor : ((Session.new (load .pair) {}).run [.goToStart]).listing.anchor =
      some ⟨0x1000⟩ :=
    (fresh.anchor_of_loads start (fresh.loads ⟨by decide, main⟩)).trans (congrArg some main)
  have history : ((Session.new (load .pair) {}).run [.goToStart]).history = [] := by
    have started : Analyzer.start? (Session.new (load .pair) {}).engine = some ⟨0x1000⟩ := start
    show (Session.new (load .pair) {}).goToStart.history = []
    rw [goToStart, started]
    exact (navigate_moves fresh.calm ⟨0x1000⟩).2.history
  have rooted := fresh.run inside [.goToStart]
  generalize reached : (Session.new (load .pair) {}).run [.goToStart] = s at *
  have loads : ((Query.batchAt ⟨0x1010⟩ s.config.batchSize).ask s.engine).1.isOk = true := by
    rw [ask_batchAt, rooted.homed.engine.covers, if_pos (by decide)]
    rfl
  have leaves : s.Departs (.goTo ⟨0x1010⟩) ⟨0x1000⟩ :=
    ⟨trivial, anchor, ⟨0x1010⟩, rfl, by decide, loads⟩
  have room : s.history.length + [(⟨0x1000⟩ : Address)].length ≤ Config.historyLimit {} := by
    rw [history]
    decide
  obtain ⟨-, back, past⟩ := run_goBack.1 .pair covered {} .builtin [.goToStart]
    [.goTo ⟨0x1010⟩] [⟨0x1000⟩] ⟨0x1000⟩ s _ reached rfl anchor (.departs leaves (.done _)) room
  exact ⟨back, past.trans history⟩

end Session

end AsmView
