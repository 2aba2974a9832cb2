/-
# A reload replaces the text whole, or not at all

Whether a reload loads is settled by its first batch.  If that is refused, nothing a user
sees of the text has changed, and no new text is told of.  If it is given, the text begins
with it, and what follows can only add to the text: passes behind it that fail end the
growth and no more.  `Filling` is what holds from one pass to the next: the text begins
with the first batch, and the window is as close to its old place as the text allows.
-/
import AsmView.Proofs.Session.Reentry
import AsmView.Proofs.Session.Told

namespace AsmView

variable {σ : Type} [Analyzer σ]

/-- A pass that fails leaves the listing alone. -/
theorem Feed.pass_listing_of_error {f : Feed σ} {e : EngineFault} (h : f.pass.1 = .error e) :
    f.pass.2.listing = f.listing := by
  have passed := f.passed
  generalize f.pass = result at passed h ⊢
  obtain ⟨outcome, g⟩ := result
  cases passed with
  | failed _ _ _ => rfl
  | overflow _ => cases h
  | notNearEnd _ => exact nomatch h
  | noBoundary _ _ => exact nomatch h
  | exhausted _ _ _ _ => exact nomatch h
  | appended _ _ _ _ => exact nomatch h

namespace Session

/-! ## What is moved behind silenced channels -/

theorem raise_of_silenced {s : Session σ} (silent : s.channels.Silenced) (c : Channel) :
    ∃ stats, s.raise c = { s with stats } := by
  unfold raise
  rw [if_neg (by simp [silent.not_attached])]
  exact ⟨_, rfl⟩

theorem setTop_of_silenced {s : Session σ} (silent : s.channels.Silenced) (top : Nat) :
    ∃ stats, s.setTop top = { s with listing := s.listing.setTop top, stats } := by
  unfold setTop
  dsimp only
  split
  · rename_i same
    exact ⟨s.stats, by rw [Listing.setTop_eq_self same.symm]⟩
  · exact raise_of_silenced (s := { s with listing := s.listing.setTop top }) silent .scroll

theorem setCursor_of_silenced {s : Session σ} (silent : s.channels.Silenced) (c : Cursor) :
    ∃ stats, s.setCursor c = { s with listing := s.listing.setCursor c, stats } := by
  unfold setCursor
  dsimp only
  split
  · rename_i same
    exact ⟨s.stats, by rw [Listing.setCursor_of_cursor_eq same]⟩
  · exact raise_of_silenced (s := { s with listing := s.listing.setCursor c }) silent .cursor

/-! ## The text grows back -/

/-- A text that grows behind silenced channels from the lines of a first batch, in a window
of a height, and what was told meanwhile is not of new texts. -/
structure Growing (lines : List String) (height : Nat) (s t : Session σ) : Prop where
  silent : t.channels.Silenced
  text : lines <+: t.listing.lines
  height : t.listing.height = height
  tells : s.Tells [] t

/-- The window stands as close to a scroll position as the text allows. -/
structure Filling (lines : List String) (height top : Nat) (s t : Session σ) : Prop
    extends s.Growing lines height t where
  top : t.listing.top = min top t.listing.maxTop

variable {lines : List String} {height : Nat} {s t : Session σ}

/-- Scrolling back makes up for what was appended. -/
theorem Growing.setTop (growing : s.Growing lines height t) (top : Nat) :
    s.Filling lines height top (t.setTop top) := by
  obtain ⟨stats, h⟩ := setTop_of_silenced growing.silent top
  rw [h]
  exact ⟨⟨growing.silent, growing.text, growing.height, growing.tells⟩, rfl⟩

omit [Analyzer σ] in
theorem Growing.of_feed (growing : s.Growing lines height t) {feed : Feed σ}
    (silent : feed.channels.Silenced) (text : lines <+: feed.listing.lines)
    (tall : feed.listing.height = height) : s.Growing lines height { t with toFeed := feed } := by
  have tells : s.Tells [] { t with toFeed := feed } := growing.tells
  exact ⟨silent, text, tall, tells⟩

theorem Growing.pass (growing : s.Growing lines height t) :
    s.Growing lines height { t with toFeed := t.toFeed.pass.2 } := by
  have channels := t.toFeed.pass_channels
  rw [growing.silent.hold_release_scroll, or_self] at channels
  have silent : t.toFeed.pass.2.channels.Silenced := by
    rw [channels]
    exact growing.silent
  rcases t.toFeed.pass_listing with same | ⟨-, more, appended⟩
  · refine growing.of_feed silent ?_ ?_
    · rw [same]
      exact growing.text
    · rw [same]
      exact growing.height
  · refine growing.of_feed silent ?_ ?_
    · rw [appended]
      exact growing.text.trans (List.prefix_append _ _)
    · rw [appended]
      exact growing.height

omit [Analyzer σ] in
theorem Filling.announce {top : Nat} (filling : s.Filling lines height top t) (text : String) :
    s.Filling lines height top (t.announce text) := by
  have tells := filling.tells.trans (notes_announce t text).tells
  obtain ⟨events, last?, told⟩ := announce_eq t text
  rw [told] at tells ⊢
  exact ⟨⟨filling.silent, filling.text, filling.height, tells⟩, filling.top⟩

/-- However many passes follow and wherever they fail, the text begins with the first batch
and the window is where it was. -/
theorem Filling.prefill {top : Nat} (filling : s.Filling lines height top t) (target : Address)
    (n : Nat) : s.Filling lines height top (prefill target top n t) := by
  induction n generalizing t with
  | zero => exact filling
  | succ n ih =>
      have passed := filling.toGrowing.pass
      have unmoved : ∀ e, t.toFeed.pass.1 = .error e → t.toFeed.pass.2.listing = t.listing :=
        fun e => Feed.pass_listing_of_error
      rw [Session.prefill]
      generalize t.toFeed.pass = result at passed unmoved ⊢
      obtain ⟨outcome, feed⟩ := result
      cases outcome with
      | error e =>
          -- a pass that fails has appended nothing, so the window is still where it belongs
          have stays : s.Filling lines height top { t with toFeed := feed } := by
            refine ⟨passed, ?_⟩
            show feed.listing.top = min top feed.listing.maxTop
            rw [show feed.listing = t.listing from unmoved e rfl]
            exact filling.top
          exact stays.announce _
      | ok outcome =>
          have scrolled := passed.setTop top
          cases outcome with
          | appended k => exact ih scrolled
          | notNearEnd => exact scrolled
          | overflow => exact scrolled
          | invalidBoundary => exact scrolled
          | exhausted => exact scrolled

/-! ## A reload -/

/-- What a user sees of the text is as it was, and so is what a reload leaves besides; no
new text was told of. -/
structure Untouched (s t : Session σ) : Prop where
  listing : t.listing = s.listing
  remainder : t.pager.remainder? = s.pager.remainder?
  history : t.history = s.history
  tells : s.Tells [] t

/-- The text was replaced by what stands at a place, and once told of.  It begins with the
first batch, from the first line with an address on; cursor and window are at its start, or
as close to their old places as it allows. -/
structure Replaced (target : Address) (batch : String) (hkeep : Bool) (s t : Session σ) :
    Prop where
  text : addressedLines batch <+: t.listing.lines
  empty : addressedLines batch = [] → t.listing.lines = []
  anchor : t.listing.anchor =
    some (((addressedLines batch).head?.bind lineAddress?).getD target)
  height : t.listing.height = s.listing.height
  cursor : t.listing.cursor =
    if hkeep then t.listing.clampCursor s.listing.cursor else ⟨0, 0⟩
  top : t.listing.top = if hkeep then min s.listing.top t.listing.maxTop else 0
  tells : s.Tells [(t.listing.anchor, t.listing.count)] t

/-- The session with a new text counted and told of. -/
def tellText {σ : Type} (s : Session σ) : Session σ :=
  { s with stats := { s.stats with refreshes := s.stats.refreshes + 1 } }.emit
    (.refreshed s.listing.anchor s.listing.count)

/-- What putting a first batch in place comes to: a text grown from it, the cursor placed in
that, and an event. -/
theorem install_filling {s : Session σ} (silent : s.channels.Silenced) (target : Address)
    (batch : String) (cursor : Cursor) (top : Nat) :
    ∃ t stats, s.Filling (addressedLines batch) s.listing.height top t ∧
      s.install target batch cursor top =
        tellText { t with listing := t.listing.setCursor cursor, stats } := by
  let s₁ : Session σ := { s with toFeed := s.toFeed.restart target batch }
  obtain ⟨stats, raised⟩ := raise_of_silenced (s := s₁) silent .scroll
  have started : s.Growing (addressedLines batch) s.listing.height (s₁.raise .scroll) := by
    rw [raised]
    exact ⟨silent, List.prefix_refl _, rfl, .nothing rfl⟩
  let s₂ := (s₁.raise .scroll).setTop top
  have filled := (started.setTop top).prefill target s₂.config.passCap
  obtain ⟨stats', placed⟩ := setCursor_of_silenced filled.silent cursor
  refine ⟨prefill target top s₂.config.passCap s₂, stats', filled, ?_⟩
  show tellText ((prefill target top s₂.config.passCap s₂).setCursor cursor) = _
  rw [placed]

omit [Analyzer σ] in
/-- Only texts and events matter to a replacement. -/
theorem Replaced.congr {target : Address} {batch : String} {hkeep : Bool} {s' t' : Session σ}
    (h : s.Replaced target batch hkeep t) (before : s'.listing = s.listing)
    (told : s'.events = s.events) (after : t'.listing = t.listing)
    (told' : t'.events = t.events) : s'.Replaced target batch hkeep t' := by
  have tells := h.tells.congr told told'
  rw [← after] at tells
  exact ⟨after ▸ h.text, after ▸ h.empty, after ▸ h.anchor, after ▸ before ▸ h.height,
    after ▸ before ▸ h.cursor, after ▸ before ▸ h.top, tells⟩

theorem install_replaced {s : Session σ} (silent : s.channels.Silenced) (target : Address)
    (batch : String) (hkeep : Bool) :
    s.Replaced target batch hkeep (s.install target batch
      (s.listing.placeFor hkeep).1 (s.listing.placeFor hkeep).2) := by
  obtain ⟨anchor, empty⟩ := install_anchor silent target batch
    (s.listing.placeFor hkeep).1 (s.listing.placeFor hkeep).2
  obtain ⟨t, stats, filling, h⟩ := install_filling silent target batch
    (s.listing.placeFor hkeep).1 (s.listing.placeFor hkeep).2
  rw [h] at anchor empty ⊢
  refine ⟨filling.text, empty, anchor.trans ?_, filling.height, ?_, ?_, ?_⟩
  · unfold Feed.anchorOf
    cases (addressedLines batch).head?.bind lineAddress? <;> rfl
  · cases hkeep with
    | true => rfl
    | false =>
        show t.listing.clampCursor {} = ⟨0, 0⟩
        simp [Listing.clampCursor]
  · cases hkeep with
    | true => exact filling.top
    | false => exact filling.top.trans (Nat.zero_min _)
  · have placed : ∀ listing stats, t.Tells [] { t with listing, stats } := fun _ _ => .nothing rfl
    exact (filling.tells.trans (placed _ _)).trans (tells_emit _ _)

/-- A focus pass and the channels that are let go change nothing of this. -/
theorem Untouched.letGo_updateFocus (h : s.Untouched t) : s.Untouched t.letGo.updateFocus := by
  obtain ⟨engine, -, feed⟩ := updateFocus_feed t.letGo
  refine ⟨?_, ?_, ?_, ?_⟩
  · exact (congrArg (·.listing) feed).trans h.listing
  · exact (congrArg (·.pager.remainder?) feed).trans h.remainder
  · exact (updateFocus_settled t.letGo).history.trans h.history
  · exact h.tells.trans (tells_updateFocus t.letGo)

theorem Replaced.letGo_updateFocus {target : Address} {batch : String} {hkeep : Bool}
    (h : s.Replaced target batch hkeep t) :
    s.Replaced target batch hkeep t.letGo.updateFocus := by
  obtain ⟨engine, -, feed⟩ := updateFocus_feed t.letGo
  have listing : t.letGo.updateFocus.listing = t.listing := congrArg (·.listing) feed
  have tells := h.tells.trans (tells_updateFocus t.letGo)
  rw [← listing] at tells
  constructor
  case tells => exact tells
  all_goals rw [listing]
  case text => exact h.text
  case empty => exact h.empty
  case anchor => exact h.anchor
  case height => exact h.height
  case cursor => exact h.cursor
  case top => exact h.top

theorem updateFocus_pending (s : Session σ) : s.updateFocus.pending? = s.pending? := by
  obtain ⟨_, _, _, _, _, _, _, _, _, -, h⟩ := updateFocus_eq s
  rw [h]

theorem TextSteps.pending {s t : Session σ} (h : TextSteps s t) : t.pending? = s.pending? := by
  obtain ⟨_, _, _, _, _, _, rfl⟩ := h.eq
  rfl

theorem install_pending {s : Session σ} (silent : s.channels.Silenced) (target : Address)
    (batch : String) (cursor : Cursor) (top : Nat) :
    (s.install target batch cursor top).pending? = s.pending? := by
  obtain ⟨filled, grow, finish⟩ := install_steps silent target batch cursor top
  exact finish.pending.trans grow.pending

/-- What a reload to a place comes to, by the answer to the question for its first batch. -/
def Whole (target : Address) (hkeep : Bool) (answer : Except EngineFault String)
    (s t : Session σ) : Prop :=
  match answer with
  | .error _ => s.Untouched t
  | .ok batch => s.Replaced target batch hkeep t

omit [Analyzer σ] in
/-- What is neither text, history nor event before a reload makes no difference. -/
theorem Whole.congr {target : Address} {hkeep : Bool} {answer : Except EngineFault String}
    (h : s.Whole target hkeep answer t) {s' : Session σ} (listing : s'.listing = s.listing)
    (pager : s'.pager = s.pager) (history : s'.history = s.history)
    (events : s'.events = s.events) : s'.Whole target hkeep answer t := by
  cases answer with
  | error f =>
      exact ⟨listing ▸ h.listing, pager ▸ h.remainder, history ▸ h.history,
        h.tells.congr events rfl⟩
  | ok batch => exact Replaced.congr h listing events rfl rfl

/-- The first batch alone settles whether a reload loads, and the navigation is taken either
way. -/
theorem reload_whole {s : Session σ} (rest : s.channels.AtRest) {target : Address}
    (going : s.reloadTarget? = some target) :
    s.reload.1.pending? = none ∧
      s.reload.2 = ((Query.batchAt target s.config.batchSize).ask s.engine).1.isOk ∧
      s.Whole target s.pending?.isNone
        ((Query.batchAt target s.config.batchSize).ask s.engine).1 s.reload.1 := by
  have found := reloaded s
  generalize s.reload = result at found ⊢
  obtain ⟨after, loaded⟩ := result
  cases found with
  | nowhere none => exact nomatch going.symm.trans none
  | @refused target' f engine goal answer =>
      obtain rfl : target = target' := Option.some.inj (going.symm.trans goal)
      rw [answer]
      obtain ⟨events, last?, told⟩ := announce_eq (s.rewriting engine) (refusal target f)
      have tells := (notes_announce (s.rewriting engine) (refusal target f)).tells
      rw [told] at tells ⊢
      exact ⟨updateFocus_pending _, rfl, Untouched.letGo_updateFocus ⟨rfl, rfl, rfl, tells⟩⟩
  | @loaded target' batch engine place t goal answer kept installed =>
      obtain rfl : target = target' := Option.some.inj (going.symm.trans goal)
      have silent : (s.rewriting engine).channels.Silenced := rest.silenced
      have replaced : (s.rewriting engine).Replaced target batch s.pending?.isNone
          ((s.rewriting engine).install target batch place.1 place.2) := by
        rw [kept]
        exact install_replaced silent target batch s.pending?.isNone
      have pending := install_pending silent target batch place.1 place.2
      rw [← installed] at replaced pending
      rw [answer]
      refine ⟨(updateFocus_pending _).trans pending, rfl, Replaced.letGo_updateFocus ?_⟩
      exact replaced.congr rfl rfl rfl rfl

/-! ## Every operation that reloads -/

/-- A navigation that is refused changes nothing, and one that loads replaces the text from
its start on. -/
theorem navigate_whole {s : Session σ} (rest : s.channels.AtRest) (target : Address) :
    (s.request target).1.reload.1.pending? = none ∧
      (s.request target).1.reload.2 =
        ((Query.batchAt target s.config.batchSize).ask s.engine).1.isOk ∧
      (s.request target).1.Whole target false
        ((Query.batchAt target s.config.batchSize).ask s.engine).1
        (s.request target).1.reload.1 :=
  reload_whole (s := (s.request target).1) rest rfl

theorem goTo_whole {s : Session σ} (rest : s.channels.AtRest) (target : Address) :
    (s.goTo target).pending? = none ∧
      s.Whole target false ((Query.batchAt target s.config.batchSize).ask s.engine).1
        (s.goTo target) := by
  have whole := navigate_whole rest target
  unfold goTo
  generalize (s.request target).1.reload = result at whole ⊢
  generalize ((Query.batchAt target s.config.batchSize).ask s.engine).1 = answer at whole ⊢
  obtain ⟨after, loaded⟩ := result
  obtain ⟨pending, rfl, whole⟩ := whole
  cases answer with
  | error f => exact ⟨pending, whole.listing, whole.remainder, whole.history, whole.tells⟩
  | ok batch =>
      dsimp only [Except.isOk, Except.toBool]
      split
      · exact ⟨pending, Replaced.congr whole rfl rfl rfl rfl⟩
      · exact ⟨pending, Replaced.congr whole rfl rfl rfl rfl⟩

theorem goBack_whole {s : Session σ} (rest : s.channels.AtRest) {place : Address}
    (h : s.history.head? = some place) :
    s.goBack.1.pending? = none ∧
      s.Whole place false ((Query.batchAt place s.config.batchSize).ask s.engine).1
        s.goBack.1 := by
  unfold goBack
  cases history : s.history with
  | nil => simp [history] at h
  | cons place' places =>
      obtain rfl : place' = place := by simpa [history] using h
      have whole := navigate_whole (s := { s with history := places }) rest place'
      dsimp only at whole ⊢
      generalize (({ s with history := places } : Session σ).request place').1.reload = result
        at whole ⊢
      generalize ((Query.batchAt place' s.config.batchSize).ask s.engine).1 = answer at whole ⊢
      obtain ⟨after, loaded⟩ := result
      obtain ⟨pending, rfl, whole⟩ := whole
      cases answer with
      | error f =>
          -- the place was taken from the history before the reload, and is put back
          refine ⟨pending, whole.listing, whole.remainder, ?_, whole.tells⟩
          show place' :: after.history = s.history
          rw [history, show after.history = places from whole.history]
      | ok batch => exact ⟨pending, Replaced.congr whole rfl rfl rfl rfl⟩

/-- The analyzer as the reload of an operation finds it: following a transfer asks it first
where the transfer leads. -/
def analyzerFor (s : Session σ) : Operation → σ
  | .followTransfer =>
    match s.listing.cursorLine? with
    | none => s.engine
    | some line => ((knownTarget line).ask s.engine).2
  | _ => s.engine

/-- Whether the reload of an operation leaves cursor and window in their places.  A
navigation moves them to the start. -/
def keepsPlace {σ : Type} (s : Session σ) : Operation → Bool
  | .refresh => s.pending?.isNone
  | .showAnew => s.pending?.isNone
  | _ => false

theorem followTransfer_whole {s : Session σ} (rest : s.channels.AtRest) {target : Address}
    (h : s.transfer? = some target) :
    s.followTransfer.1.pending? = none ∧
      s.Whole target false
        ((Query.batchAt target s.config.batchSize).ask (s.analyzerFor .followTransfer)).1
        s.followTransfer.1 := by
  unfold transfer? at h
  unfold followTransfer analyzerFor
  cases line : s.listing.cursorLine? with
  | none => simp [line] at h
  | some text =>
      rw [line] at h
      dsimp only [Feed.ask] at h ⊢
      generalize (knownTarget text).ask s.engine = answer at h ⊢
      obtain ⟨result, engine⟩ := answer
      dsimp only at h ⊢
      cases result with
      | error f => simp at h
      | ok target? =>
          dsimp only at h
          subst h
          obtain ⟨pending, whole⟩ := goTo_whole (s := { s with engine }) rest target
          exact ⟨pending, whole.congr rfl rfl rfl rfl⟩

theorem perform_whole {s : Session σ} (rest : s.channels.AtRest) {op : Operation}
    {target : Address} (h : s.destination? op = some target) :
    (s.perform op).pending? = none ∧
      s.Whole target (s.keepsPlace op)
        ((Query.batchAt target s.config.batchSize).ask (s.analyzerFor op)).1 (s.perform op) := by
  cases op with
  | goToStart =>
      have start : Analyzer.start? s.engine = some target := h
      obtain ⟨pending, -, whole⟩ := navigate_whole rest target
      have gone : s.perform .goToStart = (s.request target).1.reload.1 := by
        show s.goToStart = _
        rw [goToStart, start]
        rfl
      rw [gone]
      exact ⟨pending, whole.congr rfl rfl rfl rfl⟩
  | goTo place =>
      obtain rfl : place = target := Option.some.inj h
      exact goTo_whole rest place
  | goBack => exact goBack_whole rest h
  | goToQuery query =>
      obtain ⟨found, resolved, rfl⟩ := Option.map_eq_some_iff.mp h
      have gone : s.perform (.goToQuery query) = s.goTo found.place := by
        show (s.goToQuery query).1 = _
        rw [goToQuery, resolved]
      rw [gone]
      exact goTo_whole rest found.place
  | refresh =>
      obtain ⟨pending, -, whole⟩ := reload_whole rest h
      exact ⟨pending, whole⟩
  | showAnew =>
      obtain ⟨pending, -, whole⟩ := reload_whole (s := { s with
        watch := s.watch.markStale, cache := {}, announced := [] }) rest h
      exact ⟨pending, whole.congr rfl rfl rfl rfl⟩
  | followTransfer => exact followTransfer_whole rest h
  | followRow direction index =>
      obtain ⟨entry, listed, rfl⟩ := Option.map_eq_some_iff.mp h
      have gone : s.perform (.followRow direction index) = s.goTo entry.address := by
        show (s.followRow direction index).1 = _
        rw [followRow, listed]
      rw [gone]
      exact goTo_whole rest entry.address
  | request _ => cases h
  | setHeight _ => cases h
  | scrollTo _ => cases h
  | scrollBy _ => cases h
  | placeCursor _ => cases h
  | stepCursor _ => cases h
  | raise _ => cases h
  | updateFocus => cases h
  | takeEvents => cases h

/-- After any operations, and whatever the analyzer answers, an operation that reloads takes
the pending navigation, and then it is all or nothing.  When the place or its first batch is
refused, text, anchor, cursor, window, history and what was appended last are as before, and
no new text is told of.  Otherwise the text is replaced by the first batch and what grew
behind it, and told of once; passes that fail make no difference to that. -/
theorem run_reload_whole (engine : σ) (config : Config) (templates : TemplateStore)
    (ops : List Operation) {s : Session σ}
    (reached : (Session.new engine config templates).run ops = s) {op : Operation}
    {target : Address} (going : s.destination? op = some target) :
    (s.perform op).pending? = none ∧
      match ((Query.batchAt target s.config.batchSize).ask (s.analyzerFor op)).1 with
      | .error _ => s.Untouched (s.perform op)
      | .ok batch => s.Replaced target batch (s.keepsPlace op) (s.perform op) := by
  have calm := (run_steps (calm_new engine config templates) ops).1
  rw [reached] at calm
  exact perform_whole calm.rest going

/-- Going to the second function of the small image, and to a place outside it. -/
theorem run_reload_whole_pair :
    (∃ batch, Replaced ⟨0x1010⟩ batch false (Session.new (Loaded.load .pair) {})
      ((Session.new (Loaded.load .pair) {}).perform (.goTo ⟨0x1010⟩))) ∧
    Untouched (Session.new (Loaded.load .pair) {})
      ((Session.new (Loaded.load .pair) {}).perform (.goTo ⟨0x5000⟩)) := by
  have there : (Session.new (Loaded.load .pair) {}).destination? (.goTo ⟨0x1010⟩) =
      some ⟨0x1010⟩ := rfl
  have outside : (Session.new (Loaded.load .pair) {}).destination? (.goTo ⟨0x5000⟩) =
      some ⟨0x5000⟩ := rfl
  exact ⟨⟨_, (run_reload_whole (Loaded.load .pair) {} .builtin [] rfl there).2⟩,
    (run_reload_whole (Loaded.load .pair) {} .builtin [] rfl outside).2⟩

end Session

end AsmView
