/-
# How far a text grows

Over a loaded image whose instructions all lie in it, no pass fails, and none stops short:
a pass adds one instruction less than a batch, or all that are left, until the end of the
text is not near any more.  So a row of passes ends where the end is not near, or where the
image ends, or with as many instructions as its passes can add, and `Row.counts` has these
as one alternative.  A first batch and all the passes behind it come to `Config.reach`
instructions.

`Feed.Ample` is what every text has by that, however it came about: at least a first batch,
and where its end is near, as much as can be reached.  Nothing else is remembered of the
scrolling that has led to it.
-/
import AsmView.Proofs.Session.Paging
import AsmView.Proofs.Session.Seamless

namespace AsmView

open Loaded

/-- How many instructions a new text reaches at most: those of its first batch, and those
that the passes behind it can add. -/
def Config.reach (c : Config) : Nat :=
  c.batchSize + c.passCap * (c.batchSize - 1)

namespace Feed

variable {l : Loaded} {size : Nat} {f g : Feed Loaded} {anchor : Address} {shown : List Slot}

/-! ## Opened and ample texts -/

/-- The text has a first batch at least, or all that stands from its anchor on. -/
def Opened (l : Loaded) (size : Nat) (f : Feed Loaded) : Prop :=
  ∀ a, f.listing.anchor = some a →
    min size (l.slotsFrom a).length ≤ f.listing.instructionCount

/-- An opened text without a line stands where no instruction is left. -/
theorem Opened.slotsFrom_eq_nil (opened : f.Opened l size) (two : 2 ≤ size)
    (empty : f.listing.lines = []) (anchored : f.listing.anchor = some anchor) :
    (l.slotsFrom anchor).length = 0 := by
  have least := opened anchor anchored
  rw [Listing.instructionCount, empty, List.countP_nil] at least
  omega

/-- The text is as long as it has to be. -/
structure Ample (l : Loaded) (c : Config) (f : Feed Loaded) : Prop where
  opened : f.Opened l c.batchSize
  reached : ∀ a, f.listing.anchor = some a → f.pager.endIsNear? f.listing = some true →
    min c.reach (l.slotsFrom a).length ≤ f.listing.instructionCount

variable {c : Config}

/-- A cursor that is moved makes no difference to it. -/
theorem Ample.of_same (ample : f.Ample l c)
    (listing : ∃ cursor, g.listing = { f.listing with cursor }) (pager : g.pager = f.pager) :
    g.Ample l c := by
  obtain ⟨cursor, same⟩ := listing
  refine ⟨?_, ?_⟩
  · rw [Opened, same]
    exact ample.opened
  · rw [same, pager]
    exact ample.reached

/-- A restart shows the first batch, or all that stands from the anchor on. -/
theorem restart_count (f : Feed Loaded) (target : Address) (ascending : l.Ascending)
    (oneLined : ∀ r ∈ l.slots, r.OneLined) (two : 2 ≤ size) :
    ∀ a, (f.restart target (String.ofList (batchText
        ((l.slotsFrom target).take size)))).listing.anchor = some a →
      (f.restart target (String.ofList (batchText
        ((l.slotsFrom target).take size)))).listing.instructionCount =
          min size (l.slotsFrom a).length := by
  intro a anchored
  have single : ∀ r ∈ (l.slotsFrom target).take size, r.OneLined := fun r hr =>
    oneLined r ((l.slotsFrom_suffix target).subset (List.mem_of_mem_take hr))
  rcases restart_shows f ascending single (List.take_prefix _ _) with
    ⟨none, empty, here⟩ | ⟨s, rest, some, shows⟩
  · obtain rfl : target = a := Option.some.inj (here.symm.trans anchored)
    rw [Listing.instructionCount, empty, List.countP_nil]
    rcases List.take_eq_nil_iff.mp none with zero | nothing
    · omega
    · rw [nothing, List.length_nil, Nat.min_zero]
  · obtain rfl : s.address = a := Option.some.inj (shows.anchored.symm.trans anchored)
    obtain ⟨further, cut⟩ := List.take_prefix size (l.slotsFrom target)
    rw [some] at cut
    have whole : l.slotsFrom target = [] ++ s :: (rest ++ further) := cut.symm
    rw [shows.count, List.length_take, ascending.slotsFrom_of_slotsFrom whole, whole,
      List.nil_append]

/-! ## Rows of passes -/

theorem Shows.backTo (shows : f.Shows l anchor shown) (top : Nat) :
    (f.backTo top).Shows l anchor shown :=
  ⟨shows.anchored, shows.lines, shows.first, shows.placed, shows.remainder⟩

theorem Row.shifts {top n : Nat} (row : Row top n f g) : Relation.ReflTransGen Shift f g := by
  induction row with
  | spent f => exact .refl
  | @failed n f e _ => exact .single (.passed f)
  | @ended n f r _ _ => exact .head (.passed f) (.single (.scrolled f.pass.2 top))
  | @further n f g k _ _ ih => exact .head (.passed f) (.head (.scrolled f.pass.2 top) ih)

section Rows

variable (ascending : l.Ascending) (oneLined : ∀ r ∈ l.slots, r.OneLined)
  (covered : ∀ r ∈ l.slots, l.covers r.address = true)

include ascending oneLined covered

/-- What a pass comes to over an image that has all its places: it does not find the end near,
and leaves the text as it is; or all that there is is shown; or it shows more. -/
theorem Seamless.pass_advances (h : f.Seamless l size) (two : 2 ≤ size)
    (shows : f.Shows l anchor shown) :
    (∃ r halted, f.pass.1 = .ok r ∧ r.stop?.isSome ∧ f.pass.2 = { f with halted } ∧
      f.pager.endIsNear? f.listing ≠ some true) ∨
    (f.pass.1 = .ok .exhausted ∧ f.pass.2.Shows l anchor shown ∧ shown = l.slotsFrom anchor) ∨
    ∃ k, f.pass.1 = .ok (.appended k) ∧
      f.pass.2.Shows l anchor ((l.slotsFrom anchor).take (shown.length + (size - 1))) := by
  have continues := h.pass_continues ascending oneLined two shows
  obtain ⟨before, s, here, boundary⟩ := shows.last
  have passed := f.passed
  generalize f.pass = result at continues passed ⊢
  obtain ⟨outcome, g⟩ := result
  cases passed with
  | overflow untold => exact .inl ⟨_, _, rfl, rfl, rfl, by simp [untold]⟩
  | notNearEnd far => exact .inl ⟨_, _, rfl, rfl, rfl, by simp [far]⟩
  | noBoundary _ last => exact nomatch boundary.symm.trans last
  | @failed a e engine _ last answer =>
      obtain rfl : s.address = a := Option.some.inj (boundary.symm.trans last)
      have inside : s ∈ l.slots :=
        (l.slotsFrom_suffix anchor).subset (shows.placed.subset (here ▸ List.mem_concat_self))
      rw [ask_batchAt, h.engine.covers, if_pos (covered s inside)] at answer
      exact nomatch (Prod.mk.inj answer).1
  | exhausted _ _ _ _ =>
      refine .inr (.inl ⟨rfl, ?_, continues.exhausted rfl⟩)
      exact continues.otherwise fun k e => nomatch e
  | appended _ _ _ _ => exact .inr (.inr ⟨_, rfl, continues.appended _ rfl⟩)

/-- How much a row of passes shows more. -/
theorem Row.shows {top n : Nat} (row : Row top n f g) (h : f.Seamless l size) (two : 2 ≤ size)
    (shows : f.Shows l anchor shown) (placed : f.listing.top = min top f.listing.maxTop) :
    ∃ more, g.Shows l anchor more ∧ shown.length ≤ more.length ∧
      more.length ≤ shown.length + n * (size - 1) ∧
      (g.pager.endIsNear? g.listing ≠ some true ∨
        min (shown.length + n * (size - 1)) (l.slotsFrom anchor).length ≤ more.length) := by
  induction row generalizing shown with
  | spent f =>
      refine ⟨shown, shows, Nat.le_refl _, Nat.le_add_right _ _, .inr ?_⟩
      rw [Nat.zero_mul, Nat.add_zero]
      exact Nat.min_le_left _ _
  | @failed n f e failed =>
      rcases h.pass_advances ascending oneLined covered two shows with
        ⟨r, halted, passed, -⟩ | ⟨passed, -⟩ | ⟨k, passed, -⟩
      · exact nomatch failed.symm.trans passed
      · exact nomatch failed.symm.trans passed
      · exact nomatch failed.symm.trans passed
  | @ended n f r ended stops =>
      rcases h.pass_advances ascending oneLined covered two shows with
        ⟨r, halted, -, -, same, far⟩ | ⟨-, shows', whole⟩ | ⟨k, passed, -⟩
      · have rests : ({ f with halted } : Feed Loaded).backTo top = { f with halted } :=
          backTo_eq_self placed
        rw [same, rests]
        exact ⟨shown, shows.of_listing rfl rfl, Nat.le_refl _, Nat.le_add_right _ _, .inl far⟩
      · refine ⟨shown, shows'.backTo top, Nat.le_refl _, Nat.le_add_right _ _, .inr ?_⟩
        rw [← whole]
        exact Nat.min_le_right _ _
      · obtain rfl := Except.ok.inj (ended.symm.trans passed)
        exact nomatch stops
  | @further n f g k passed rest ih =>
      rcases h.pass_advances ascending oneLined covered two shows with
        ⟨r, halted, stopped, stops, -⟩ | ⟨stopped, -⟩ | ⟨k, -, shows'⟩
      · obtain rfl := Except.ok.inj (passed.symm.trans stopped)
        exact nomatch stops
      · exact nomatch passed.symm.trans stopped
      · have first : Shift f f.pass.2 := .passed f
        have back : Shift f.pass.2 (f.pass.2.backTo top) := .scrolled f.pass.2 top
        have seamless := back.seamless (first.seamless h ascending oneLined two) ascending
          oneLined two
        have fits := shows.placed.length_le
        obtain ⟨more, shows'', longer, bounded, far⟩ :=
          ih seamless (shows'.backTo top) (backTo_top _ _)
        rw [List.length_take] at longer bounded far
        rw [Nat.succ_mul]
        refine ⟨more, shows'', by omega, by omega, far.imp_right fun reached => ?_⟩
        omega

/-- How many instructions more a text has behind a row of passes.  When they are fewer than
the passes can add, either its end is not near, or the image has no more. -/
theorem Row.counts {top n : Nat} (row : Row top n f g) (h : f.Seamless l size) (two : 2 ≤ size)
    (opened : f.Opened l size) (placed : f.listing.top = min top f.listing.maxTop)
    (anchored : f.listing.anchor = some anchor) :
    f.listing.instructionCount ≤ g.listing.instructionCount ∧
      g.listing.instructionCount ≤ f.listing.instructionCount + n * (size - 1) ∧
      (g.pager.endIsNear? g.listing ≠ some true ∨
        min (f.listing.instructionCount + n * (size - 1)) (l.slotsFrom anchor).length ≤
          g.listing.instructionCount) := by
  rcases h.text with empty | ⟨a, shown, shows⟩
  · have still := (shifts_anchor row.shifts).2 empty
    have nothing := opened.slotsFrom_eq_nil two empty anchored
    rw [Listing.instructionCount, Listing.instructionCount, empty, still, nothing]
    exact ⟨Nat.le_refl _, Nat.zero_le _, .inr (Nat.min_le_right _ _)⟩
  · obtain rfl : a = anchor := Option.some.inj (shows.anchored.symm.trans anchored)
    obtain ⟨more, shows', counts⟩ :=
      row.shows ascending oneLined covered h two shows placed
    rw [shows.count, shows'.count]
    exact counts

/-- A row of as many passes as are allowed makes an opened text ample. -/
theorem Row.ample {top : Nat} (row : Row top c.passCap f g) (h : f.Seamless l c.batchSize)
    (two : 2 ≤ c.batchSize) (opened : f.Opened l c.batchSize)
    (placed : f.listing.top = min top f.listing.maxTop) :
    g.Ample l c := by
  have anchor := (shifts_anchor row.shifts).1
  have counts : ∀ a, g.listing.anchor = some a → _ := fun a anchored =>
    row.counts ascending oneLined covered h two opened placed (anchor.symm.trans anchored)
  refine ⟨fun a anchored => ?_, fun a anchored near => ?_⟩
  · have least := opened a (anchor.symm.trans anchored)
    obtain ⟨longer, -⟩ := counts a anchored
    exact least.trans longer
  · have least := opened a (anchor.symm.trans anchored)
    obtain ⟨-, -, far | reached⟩ := counts a anchored
    · exact absurd near far
    · rw [Config.reach]
      omega

/-- How many instructions there are when a text has grown back behind its first batch. -/
theorem Row.counts_of_restart {target : Address} {batch : String} {engine : Loaded} {top : Nat}
    (two : 2 ≤ c.batchSize) (h : f.Seamless l c.batchSize)
    (answer : (Query.batchAt target c.batchSize).ask f.engine = (.ok batch, engine))
    (row : Row top c.passCap (({ f with engine }.restart target batch).backTo top) g)
    (anchored : g.listing.anchor = some anchor) :
    min c.batchSize (l.slotsFrom anchor).length ≤ g.listing.instructionCount ∧
      g.listing.instructionCount ≤ c.reach ∧
      (g.pager.endIsNear? g.listing ≠ some true ∨
        min c.reach (l.slotsFrom anchor).length ≤ g.listing.instructionCount) := by
  have restarted : Step c.batchSize f ({ f with engine }.restart target batch) := .restarted answer
  have placed : Step c.batchSize _ (({ f with engine }.restart target batch).backTo top) :=
    .shift (.scrolled _ top)
  have seamless := placed.seamless (restarted.seamless h ascending oneLined two) ascending
    oneLined two
  obtain ⟨rfl, -⟩ := batch_of_answer answer
  rw [h.engine.slotsFrom] at row seamless
  have first := restart_count { f with engine } target ascending oneLined two
  have begins := (shifts_anchor row.shifts).1.symm.trans anchored
  have count := first anchor begins
  have opened : Opened l c.batchSize (({ f with engine }.restart target (String.ofList
      (batchText ((l.slotsFrom target).take c.batchSize)))).backTo top) :=
    fun b hb => (first b hb).ge
  obtain ⟨longer, bounded, far⟩ :=
    row.counts ascending oneLined covered seamless two opened rfl begins
  have start : (({ f with engine }.restart target (String.ofList
      (batchText ((l.slotsFrom target).take c.batchSize)))).backTo top).listing.instructionCount =
        min c.batchSize (l.slotsFrom anchor).length := count
  rw [start] at longer bounded far
  rw [Config.reach]
  exact ⟨longer, by omega, far.imp_right fun reached => by omega⟩

end Rows

end Feed

namespace Session

/-- A session over an image, with an ample text, as it is found between two moves. -/
structure Stocked (l : Loaded) (s : Session Loaded) : Prop where
  order : s.toFeed.InOrder
  seamless : s.toFeed.Seamless l s.config.batchSize
  tuned : s.Tuned
  ample : s.toFeed.Ample l s.config

variable {l : Loaded} (ascending : l.Ascending) (oneLined : ∀ r ∈ l.slots, r.OneLined)
  (covered : ∀ r ∈ l.slots, l.covers r.address = true) {s t : Session Loaded}

include ascending oneLined covered

/-! ## Scrolling -/

theorem extendText_ample (two : 2 ≤ s.config.batchSize) (order : s.toFeed.InOrder)
    (seamless : s.toFeed.Seamless l s.config.batchSize) (tuned : s.Tuned)
    (opened : s.toFeed.Opened l s.config.batchSize) : s.extendText.toFeed.Ample l s.config := by
  have fits : s.listing.top = min s.listing.top s.listing.maxTop :=
    (Nat.min_eq_left order.listing.top).symm
  have row := Feed.extendFrom_row s.pager.passCap {} order.listing.top
  rw [tuned.passCap] at row
  have ample := row.ample ascending oneLined covered seamless two opened fits
  have extended : s.extendText.toFeed = s.toFeed.extend.2 := by
    unfold extendText
    generalize s.toFeed.extend = result
    obtain ⟨outcome, feed⟩ := result
    cases outcome with
    | ok report => rfl
    | error f =>
        obtain ⟨events, last?, told⟩ := announce_eq { s with toFeed := feed }
          s!"cannot load more disassembly: {f.message}"
        exact congrArg (·.toFeed) told
  rw [extended, Feed.extend, tuned.passCap]
  exact ample

/-- A scroll notification makes a text ample, wherever the window is. -/
theorem raise_scroll_ample (calm : s.Calm) (two : 2 ≤ s.config.batchSize)
    (order : s.toFeed.InOrder) (seamless : s.toFeed.Seamless l s.config.batchSize)
    (tuned : s.Tuned) (opened : s.toFeed.Opened l s.config.batchSize) :
    (s.raise .scroll).toFeed.Ample l s.config := by
  unfold raise
  rw [if_pos (calm.rest.attached .scroll)]
  let told : Session Loaded :=
    { s with stats := { s.stats with delivered := s.stats.delivered + 1 } }
  exact extendText_ample ascending oneLined covered (s := told) two order seamless
    ⟨tuned.batchSize, tuned.passCap⟩ opened

theorem TextMove.ample (move : TextMove s t) (calm : s.Calm) (two : 2 ≤ s.config.batchSize)
    (stocked : s.Stocked l) : t.toFeed.Ample l s.config := by
  obtain ⟨order, seamless, tuned, ample⟩ := stocked
  cases move with
  | asked _ => exact ample.of_same ⟨_, rfl⟩ rfl
  | told text =>
      obtain ⟨events, last?, told⟩ := announce_eq s text
      rw [told]
      exact ample
  | delivered _ => exact ample
  | scrolled top =>
      unfold setTop
      dsimp only
      split
      · exact ample
      · have scrolled : Feed.Shift s.toFeed (s.toFeed.backTo top) := .scrolled s.toFeed top
        exact raise_scroll_ample ascending oneLined covered
          (s := { s with toFeed := s.toFeed.backTo top }) ⟨calm.rest, calm.short⟩ two
          (scrolled.inOrder order) (scrolled.seamless seamless ascending oneLined two)
          ⟨tuned.batchSize, tuned.passCap⟩ ample.opened
  | resized height =>
      unfold setHeight
      split
      · exact ample
      · have resized := Feed.Shift.resized s.toFeed height
        exact raise_scroll_ample ascending oneLined covered
          (s := { s with listing := s.listing.setHeight height }) ⟨calm.rest, calm.short⟩ two
          (resized.inOrder order) (resized.seamless seamless ascending oneLined two)
          ⟨tuned.batchSize, tuned.passCap⟩ ample.opened
  | paged =>
      exact raise_scroll_ample ascending oneLined covered calm two order seamless tuned
        ample.opened

/-! ## Reloading -/

/-- How many instructions there are behind a reload that loads. -/
theorem reload_counts (calm : s.Calm) (two : 2 ≤ s.config.batchSize) (stocked : s.Stocked l)
    {target a : Address} {batch : String} {engine : Loaded} (going : s.reloadTarget? = some target)
    (answer : (Query.batchAt target s.config.batchSize).ask s.engine = (.ok batch, engine))
    (anchored : s.reload.1.listing.anchor = some a) :
    min s.config.batchSize (l.slotsFrom a).length ≤ s.reload.1.listing.instructionCount ∧
      s.reload.1.listing.instructionCount ≤ s.config.reach ∧
      (s.reload.1.pager.endIsNear? s.reload.1.listing ≠ some true ∨
        min s.config.reach (l.slotsFrom a).length ≤ s.reload.1.listing.instructionCount) := by
  obtain ⟨filled, channels, engine', row, -, reloaded⟩ := reload_row calm.rest going answer
  let held : Feed Loaded := { s.toFeed with channels := s.channels.holdEach Channel.all }
  have seamless : held.Seamless l s.config.batchSize :=
    stocked.seamless.of_same .refl rfl rfl rfl rfl
  have begins : filled.listing.anchor = some a := by
    rw [reloaded] at anchored
    exact anchored
  have counts := Feed.Row.counts_of_restart (f := held) ascending oneLined covered two seamless
    answer row begins
  rw [reloaded]
  exact counts

/-- A reload leaves an ample text, and where it is refused the one that was there. -/
theorem reload_ample (calm : s.Calm) (two : 2 ≤ s.config.batchSize) (stocked : s.Stocked l) :
    s.reload.1.toFeed.Ample l s.config := by
  cases going : s.reloadTarget? with
  | none =>
      rw [reload_nowhere going]
      exact stocked.ample
  | some target =>
      cases answer : (Query.batchAt target s.config.batchSize).ask s.engine with
      | mk result engine =>
          cases result with
          | error f =>
              obtain ⟨engine', channels, refused⟩ := reload_refused going answer
              rw [refused]
              exact stocked.ample.of_same ⟨_, rfl⟩ rfl
          | ok batch =>
              have counts := fun a anchored =>
                reload_counts ascending oneLined covered calm two stocked (a := a) going answer
                  anchored
              refine ⟨fun a anchored => (counts a anchored).1, fun a anchored near => ?_⟩
              obtain ⟨-, -, far | reached⟩ := counts a anchored
              · exact absurd near far
              · exact reached

/-! ## Whole runs -/

theorem Move.ample (move : Move s t) (calm : s.Calm) (two : 2 ≤ s.config.batchSize)
    (stocked : s.Stocked l) : t.toFeed.Ample l s.config := by
  have focused : ∀ u : Session Loaded, u.toFeed.Ample l s.config →
      u.updateFocus.toFeed.Ample l s.config := by
    intro u ample
    obtain ⟨engine, -, feed⟩ := updateFocus_feed u
    rw [feed]
    exact ample.of_same ⟨_, rfl⟩ rfl
  cases move with
  | text move => exact move.ample ascending oneLined covered calm two stocked
  | moved c => exact focused (s.withCursor c) (stocked.ample.of_same ⟨_, rfl⟩ rfl)
  | focused => exact focused s stocked.ample
  | reloaded => exact reload_ample ascending oneLined covered calm two stocked
  | dropped => exact stocked.ample
  | noted _ _ => exact stocked.ample

theorem Step.stocked (step : Step s t) (calm : s.Calm) (two : 2 ≤ s.config.batchSize)
    (stocked : s.Stocked l) : t.Stocked l := by
  have steps := step.feed calm
  have config := (step.settings calm).1
  obtain ⟨phase, remainder?, fetches, pager⟩ := steps.pager
  have ample : t.toFeed.Ample l s.config := by
    cases step with
    | move move => exact move.ample ascending oneLined covered calm two stocked
    | taken => exact stocked.ample
  exact ⟨steps.inOrder stocked.order,
    config ▸ steps.seamless stocked.seamless ascending oneLined two,
    ⟨by rw [pager, config]; exact stocked.tuned.batchSize,
      by rw [pager, config]; exact stocked.tuned.passCap⟩,
    config ▸ ample⟩

end Session

end AsmView
