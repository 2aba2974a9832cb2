/-
# Where a reload loses its place

A reload without a navigation is meant to leave anchor, cursor and window as they were.  It
puts them back on a text that starts over with a first batch, and how far that text has grown
by then depends on the window alone: a pass is made while the end is near the window, and no
more passes than are allowed.  `Regrown` has what is known of the text.  It begins at the same
anchor, so the old text and the new one agree as far as they both go; it has a first batch; and
its end is not near the window, or it reaches as far as its passes can.

So nothing makes the text grow for the cursor, and a cursor left below the window is moved up
where the text ends before it, although another pass would have reached it.  A window is moved
up where more passes than are allowed had led to it.
-/
import AsmView.Proofs.Pager
import AsmView.Proofs.Session.Ample
import AsmView.Proofs.Session.Return

namespace AsmView

open Text Loaded

/-! ## Texts that agree as far as they both go -/

theorem eq_take_of_agree {α : Type} {xs ys : List α} (h : xs <+: ys ∨ ys <+: xs) {n : Nat}
    (hx : n ≤ xs.length) (hy : n ≤ ys.length) : xs.take n = ys.take n := by
  rcases h with ⟨more, rfl⟩ | ⟨more, rfl⟩
  · exact (List.take_append_of_le_length hx).symm
  · exact List.take_append_of_le_length hy

namespace Listing

theorem visible_eq_drop_take (l : Listing) :
    l.visible = (l.lines.take (l.top + l.height)).drop l.top := by
  rw [visible, List.drop_take, Nat.add_sub_cancel_left]

theorem length_visible (l : Listing) : l.visible.length = min l.height (l.count - l.top) := by
  simp [visible, count]

/-- A cursor of one text stands in another one as well, where that goes as far. -/
theorem InOrder.clampCursor_eq {l m : Listing} (order : l.InOrder)
    (agree : l.lines <+: m.lines ∨ m.lines <+: l.lines)
    (reaches : min l.count (l.cursor.line + 1) ≤ m.count) : m.clampCursor l.cursor = l.cursor := by
  by_cases empty : l.lines = []
  · rw [order.cursor_of_empty empty]
    simp [clampCursor]
  · obtain ⟨line, under, column⟩ := order.cursor_of_lines empty
    obtain ⟨short, -⟩ := List.getElem?_eq_some_iff.mp under
    have deep : l.cursor.line < m.count := (Nat.le_min.mpr ⟨short, Nat.le_refl _⟩).trans reaches
    have same : m.lines[l.cursor.line]? = some line := by
      rw [← under, ← List.getElem?_take_of_lt (Nat.lt_succ_self l.cursor.line),
        ← List.getElem?_take_of_lt (l := l.lines) (Nat.lt_succ_self l.cursor.line),
        eq_take_of_agree agree short deep]
    have hline : m.lines ≠ [] := List.ne_nil_of_mem (List.mem_of_getElem? same)
    have last : min l.cursor.line (m.count - 1) = l.cursor.line := by omega
    rw [clampCursor, if_neg (by simpa using hline)]
    dsimp only
    rw [last, List.getD_eq_getElem?_getD, same, Option.getD_some, Nat.min_eq_left column]

theorem InOrder.clampCursor_eq_iff {l m : Listing} (order : l.InOrder)
    (agree : l.lines <+: m.lines ∨ m.lines <+: l.lines) (begun : l.lines ≠ [] → m.lines ≠ []) :
    m.clampCursor l.cursor = l.cursor ↔ min l.count (l.cursor.line + 1) ≤ m.count := by
  refine ⟨fun kept => ?_, order.clampCursor_eq agree⟩
  by_cases empty : l.lines = []
  · rw [count, empty]
    exact Nat.zero_le _
  · obtain ⟨line, under, -⟩ := clampCursor_exists (begun empty) l.cursor
    rw [kept] at under
    obtain ⟨short, -⟩ := List.getElem?_eq_some_iff.mp under
    exact (Nat.min_le_right _ _).trans short

end Listing

namespace Session

/-- The text behind a reload in place. -/
structure Regrown (l : Loaded) (a : Address) (s t : Session Loaded) : Prop where
  anchor : t.listing.anchor = some a
  height : t.listing.height = s.listing.height
  cursor : t.listing.cursor = t.listing.clampCursor s.listing.cursor
  top : t.listing.top = min s.listing.top t.listing.maxTop
  text : t.listing.lines = batchLines ((l.slotsFrom a).take t.listing.instructionCount)
  bounded : t.listing.instructionCount ≤ min s.config.reach (l.slotsFrom a).length
  first : (batchLines ((l.slotsFrom a).take s.config.batchSize)).length ≤ t.listing.count
  grown : s.pager.nearLines s.listing.height < Machine.signedEnd →
    s.listing.top + s.listing.height + s.pager.nearLines s.listing.height ≤ t.listing.count ∨
      (batchLines ((l.slotsFrom a).take s.config.reach)).length ≤ t.listing.count

variable {l : Loaded} {s t : Session Loaded} {a : Address}

/-- A text over the image is no longer than its slots allow. -/
theorem Stocked.count_lt (stocked : s.Stocked l) (small : 2 * l.slots.length < Machine.signedEnd)
    (anchored : s.listing.anchor = some a) : s.listing.count < Machine.signedEnd := by
  obtain ⟨text, -⟩ := stocked.seamless.lines_eq anchored
  have lines := length_batchLines_le ((l.slotsFrom a).take s.listing.instructionCount)
  have longest := (l.slotsFrom_suffix a).length_le
  have count : s.listing.count = _ := congrArg List.length text
  rw [List.length_take] at lines
  omega

section Reloading

variable (ascending : l.Ascending) (oneLined : ∀ r ∈ l.slots, r.OneLined)
  (covered : ∀ r ∈ l.slots, l.covers r.address = true)

include ascending oneLined covered

/-- A reload in place loads, since its anchor is a home, and the text grows back. -/
theorem reload_regrown (rooted : s.Rooted l) (two : 2 ≤ s.config.batchSize)
    (stocked : s.Stocked l) (small : 2 * l.slots.length < Machine.signedEnd)
    (anchored : s.listing.anchor = some a) (unasked : s.pending? = none) :
    s.Regrown l a s.reload.1 := by
  have home := rooted.homed.anchor a anchored
  have again : s.destination? .refresh = some a := by
    show s.reloadTarget? = some a
    rw [reloadTarget?, unasked, anchored]
    rfl
  have loads := rooted.loads home
  have begins : s.reload.1.listing.anchor = some a :=
    (rooted.anchor_of_loads again loads).trans (by rw [home.lands])
  obtain ⟨-, -, whole⟩ := reload_whole rooted.calm.rest again
  have stocked' := Step.stocked ascending oneLined covered (.move (.reloaded s)) rooted.calm two
    stocked
  obtain ⟨phase, remainder?, fetches, pager⟩ :=
    (Step.feed (.move (.reloaded s)) rooted.calm).pager
  cases answer : (Query.batchAt a s.config.batchSize).ask s.engine with
  | mk result engine =>
      rw [answer] at loads whole
      cases result with
      | error f => exact absurd loads Bool.false_ne_true
      | ok batch =>
          rw [unasked] at whole
          have counts := reload_counts ascending oneLined covered rooted.calm two stocked again
            answer begins
          generalize s.reload.1 = t at begins whole stocked' pager counts ⊢
          obtain ⟨least, most, far⟩ := counts
          obtain ⟨text, within⟩ := stocked'.seamless.lines_eq begins
          have replaced : s.Replaced a batch true t := whole
          have count : t.listing.count = _ := congrArg List.length text
          refine ⟨begins, replaced.height, replaced.cursor, replaced.top, text,
            Nat.le_min.mpr ⟨most, within⟩, ?_, fun few => ?_⟩
          · rw [count, List.take_eq_take_min]
            exact (prefix_batchLines_take _ least).length_le
          · refine far.imp (fun far => ?_) fun reached => ?_
            · have near : t.pager.nearLines t.listing.height =
                  s.pager.nearLines s.listing.height := by rw [pager, replaced.height]; rfl
              have below := Pager.far_below (stocked'.count_lt small begins)
                stocked'.order.listing.top (near ▸ few) far
              rw [near] at below
              have hline := s.pager.one_le_nearLines s.listing.height
              have top : t.listing.top = min s.listing.top t.listing.maxTop := replaced.top
              have last : t.listing.maxTop = t.listing.count - s.listing.height := by
                rw [Listing.maxTop, replaced.height]
              omega
            · rw [count, List.take_eq_take_min]
              exact (prefix_batchLines_take _ reached).length_le

end Reloading

/-! ## What is kept -/

/-- A text that does not fill its window is as long as passes can make it. -/
theorem Stocked.reached_of_unfilled (stocked : s.Stocked l)
    (small : 2 * l.slots.length < Machine.signedEnd)
    (few : s.pager.nearLines s.listing.height < Machine.signedEnd)
    (anchored : s.listing.anchor = some a) (unfilled : s.listing.count < s.listing.height) :
    min s.config.reach (l.slotsFrom a).length ≤ s.listing.instructionCount := by
  have inside := stocked.order.listing.top
  have hline := s.pager.one_le_nearLines s.listing.height
  have last : s.listing.maxTop = 0 := Nat.sub_eq_zero_of_le (Nat.le_of_lt unfilled)
  refine stocked.ample.reached a anchored ?_
  rw [Pager.endIsNear?_of_few (stocked.count_lt small anchored) inside few, last]
  exact congrArg some (decide_eq_true (by omega))

/-- The old text and the new one begin alike. -/
theorem Regrown.agree (regrown : s.Regrown l a t) (stocked : s.Stocked l)
    (anchored : s.listing.anchor = some a) :
    s.listing.lines <+: t.listing.lines ∨ t.listing.lines <+: s.listing.lines := by
  obtain ⟨text, -⟩ := stocked.seamless.lines_eq anchored
  rw [text, regrown.text]
  rcases Nat.le_total s.listing.instructionCount t.listing.instructionCount with less | more
  · exact .inl (prefix_batchLines_take _ less)
  · exact .inr (prefix_batchLines_take _ more)

/-- Where the old text has a line, so has the new one. -/
theorem Regrown.ne_nil (regrown : s.Regrown l a t) (stocked : s.Stocked l)
    (two : 2 ≤ s.config.batchSize) (anchored : s.listing.anchor = some a)
    (begun : s.listing.lines ≠ []) : t.listing.lines ≠ [] := by
  obtain ⟨text, -⟩ := stocked.seamless.lines_eq anchored
  have slots : l.slotsFrom a ≠ [] := by
    intro none
    rw [none, List.take_nil] at text
    exact begun text
  have opened : (l.slotsFrom a).take s.config.batchSize ≠ [] := by
    intro none
    rcases List.take_eq_nil_iff.mp none with zero | none
    · omega
    · exact slots none
  have first := regrown.first
  obtain ⟨slot, rest, cut⟩ := List.exists_cons_of_ne_nil opened
  rw [cut, batchLines, List.length_cons] at first
  exact List.ne_nil_of_length_pos (Nat.lt_of_lt_of_le (Nat.succ_pos _) first)

theorem Regrown.count_le (regrown : s.Regrown l a t) :
    t.listing.count ≤ (batchLines ((l.slotsFrom a).take s.config.reach)).length := by
  have bounded := regrown.bounded.trans (Nat.min_le_left _ _)
  have count : t.listing.count = _ := congrArg List.length regrown.text
  rw [count]
  exact (prefix_batchLines_take _ bounded).length_le

/-- The cursor is kept just if the new text reaches to it. -/
theorem Regrown.cursor_eq_iff (regrown : s.Regrown l a t) (stocked : s.Stocked l)
    (two : 2 ≤ s.config.batchSize) (anchored : s.listing.anchor = some a) :
    t.listing.cursor = s.listing.cursor ↔
      min s.listing.count (s.listing.cursor.line + 1) ≤ t.listing.count := by
  rw [regrown.cursor]
  exact stocked.order.listing.clampCursor_eq_iff (regrown.agree stocked anchored)
    (regrown.ne_nil stocked two anchored)

/-- The window is kept just if the new text reaches to its end. -/
theorem Regrown.window_eq_iff (regrown : s.Regrown l a t) (stocked : s.Stocked l)
    (small : 2 * l.slots.length < Machine.signedEnd)
    (few : s.pager.nearLines s.listing.height < Machine.signedEnd)
    (anchored : s.listing.anchor = some a) :
    t.listing.top = s.listing.top ∧ t.listing.visible = s.listing.visible ↔
      min s.listing.count (s.listing.top + s.listing.height) ≤ t.listing.count := by
  have inside : s.listing.top ≤ s.listing.count - s.listing.height := stocked.order.listing.top
  have tall := stocked.order.listing.height
  refine ⟨fun ⟨top, visible⟩ => ?_, fun long => ?_⟩
  · have same := congrArg List.length visible
    rw [Listing.length_visible, Listing.length_visible, top, regrown.height] at same
    omega
  have agree := regrown.agree stocked anchored
  have last : t.listing.maxTop = t.listing.count - s.listing.height := by
    rw [Listing.maxTop, regrown.height]
  have top : t.listing.top = s.listing.top := by
    rw [regrown.top, last]
    omega
  refine ⟨top, ?_⟩
  rw [Listing.visible_eq_drop_take, Listing.visible_eq_drop_take, top, regrown.height]
  congr 1
  by_cases filled : s.listing.top + s.listing.height ≤ s.listing.count
  · exact (eq_take_of_agree agree filled (by rw [Nat.min_eq_right filled] at long; exact long)).symm
  · -- A text that does not fill the window is as long as the new one.
    have reached := stocked.reached_of_unfilled small few anchored (by omega)
    have bounded := regrown.bounded
    obtain ⟨text, -⟩ := stocked.seamless.lines_eq anchored
    have shorter : t.listing.lines <+: s.listing.lines := by
      rw [text, regrown.text]
      exact prefix_batchLines_take _ (bounded.trans reached)
    have same : t.listing.lines = s.listing.lines := by
      refine shorter.eq_of_length_le ?_
      show s.listing.count ≤ t.listing.count
      omega
    rw [same]

/-! ## Whole runs -/

theorem run_stocked {img : Image} (distinct : img.Distinct) (oneLined : img.OneLined)
    (covered : ∀ r ∈ (load img).slots, (load img).covers r.address = true) {config : Config}
    (accepted : config.Accepted) (templates : TemplateStore) (ops : List Operation) :
    ((Session.new (load img) config templates).run ops).Stocked (load img) := by
  have single : ∀ r ∈ (load img).slots, r.OneLined := fun _ hr => oneLined_load oneLined hr
  have fresh : (Session.new (load img) config templates).Stocked (load img) :=
    ⟨inOrder_new _ _ _, seamless_new img accepted templates, tuned_new _ accepted templates,
      ⟨fun _ h => (nomatch h), fun _ h => (nomatch h)⟩⟩
  have kept := run_invariant (P := fun s => s.config = config ∧ s.Stocked (load img)) ?_
    (calm_new (load img) config templates) ⟨rfl, fresh⟩ ops
  · exact kept.2.2
  · rintro s t step calm ⟨rfl, stocked⟩
    exact ⟨(step.settings calm).1, step.stocked (ascending_load distinct) single covered calm
      accepted.two_le_batchSize stocked⟩

/-- What becomes of the place when, after any operations over an image whose instructions lie
in it at addresses of their own and whose texts are single lines, the text is reloaded without
a navigation.  The anchor is kept.  But the cursor is kept just if the new text reaches to it,
and the window just if it reaches to its end; and the new text is only known to have its first
batch, and either all that its passes can add or the lines below the window that count as near.
A window so high that these are more than signed numbers hold is left out. -/
theorem run_inPlace {img : Image} (distinct : img.Distinct) (oneLined : img.OneLined)
    (covered : ∀ i ∈ img.instructions, (load img).covers i.address = true)
    (small : 2 * img.instructions.length < Machine.signedEnd) {config : Config}
    (accepted : config.Accepted) (templates : TemplateStore) (ops : List Operation)
    {s : Session Loaded} (reached : (Session.new (load img) config templates).run ops = s)
    {a : Address}
    (anchored : s.listing.anchor = some a) (unasked : s.pending? = none)
    {first longest : List String}
    (opening : (load img).oneShot a config.batchSize = .ok first)
    (furthest : (load img).oneShot a config.reach = .ok longest) {op : Operation}
    (inPlace : op = .refresh ∨ op = .showAnew) :
    (s.perform op).listing.anchor = s.listing.anchor ∧
      first.length ≤ (s.perform op).listing.count ∧
      (s.perform op).listing.count ≤ longest.length ∧
      ((s.perform op).listing.cursor = s.listing.cursor ↔
        min s.listing.count (s.listing.cursor.line + 1) ≤ (s.perform op).listing.count) ∧
      (s.pager.nearLines s.listing.height < Machine.signedEnd →
        ((s.perform op).listing.top = s.listing.top ∧
            (s.perform op).listing.visible = s.listing.visible ↔
          min s.listing.count (s.listing.top + s.listing.height) ≤
            (s.perform op).listing.count) ∧
        ((s.perform op).listing.count = longest.length ∨
          s.listing.top + s.listing.height + s.pager.nearLines s.listing.height ≤
            (s.perform op).listing.count)) := by
  have ascending := ascending_load distinct
  have single : ∀ r ∈ (load img).slots, r.OneLined := fun _ hr => oneLined_load oneLined hr
  have inside : ∀ r ∈ (load img).slots, (load img).covers r.address = true := fun r hr =>
    covered r.instruction (mem_instructions.mpr ⟨r, hr, rfl⟩)
  have hslots : 2 * (load img).slots.length < Machine.signedEnd := by
    have same := (instructions_load img).length_eq
    rw [List.length_map] at same
    omega
  have stocked := run_stocked distinct oneLined inside accepted templates ops
  have fresh : (Session.new (load img) config templates).Rooted (load img) :=
    ⟨calm_new _ _ _, .refl _, fun _ h => nomatch h⟩
  have rooted := fresh.run inside ops
  have settings : ((Session.new (load img) config templates).run ops).config = config :=
    (run_steps (calm_new (load img) config templates) ops).2.1
  rw [reached] at stocked rooted settings
  have two : 2 ≤ s.config.batchSize := settings ▸ accepted.two_le_batchSize
  have regrown : s.Regrown (load img) a (s.perform op) := by
    rcases inPlace with rfl | rfl
    · exact reload_regrown ascending single inside rooted two stocked hslots anchored unasked
    · -- What is dropped first is nothing that the text depends on.
      let anew : Session Loaded :=
        { s with watch := s.watch.markStale, cache := {}, announced := [] }
      have again : anew.Regrown (load img) a anew.reload.1 :=
        reload_regrown ascending single inside ⟨⟨rooted.calm.rest, rooted.calm.short⟩, rooted.homed⟩
          two ⟨stocked.order, stocked.seamless, ⟨stocked.tuned.batchSize, stocked.tuned.passCap⟩,
            stocked.ample⟩ hslots anchored unasked
      exact ⟨again.anchor, again.height, again.cursor, again.top, again.text, again.bounded,
        again.first, again.grown⟩
  obtain rfl := Except.ok.inj ((oneShot_eq oneLined a config.batchSize).symm.trans opening)
  obtain rfl := Except.ok.inj ((oneShot_eq oneLined a config.reach).symm.trans furthest)
  have first := regrown.first
  have bounded := regrown.count_le
  have grown := regrown.grown
  rw [settings] at first bounded grown
  refine ⟨regrown.anchor.trans anchored.symm, first, bounded,
    regrown.cursor_eq_iff stocked two anchored, fun few =>
      ⟨regrown.window_eq_iff stocked hslots few anchored, ?_⟩⟩
  exact (grown few).symm.imp_left fun reached => Nat.le_antisymm bounded reached

end Session

/-- A straight line of five instructions. -/
def Image.straight : Image where
  name := "straight"
  sections := [{ name := ".text", start := ⟨0x1000⟩, size := 0x100 }]
  routines := [
    { name := "main"
      instructions := [
        { address := ⟨0x1000⟩, bytes := "90", text := "nop" },
        { address := ⟨0x1001⟩, bytes := "90", text := "nop" },
        { address := ⟨0x1002⟩, bytes := "90", text := "nop" },
        { address := ⟨0x1003⟩, bytes := "90", text := "nop" },
        { address := ⟨0x1004⟩, bytes := "c3", text := "ret" }] }]

/-- The straight line as it is loaded. -/
def Loaded.straight : Loaded :=
  ⟨.straight, Image.straight.routines.flatMap slotsOf, ⟨0x1000⟩, by decide⟩

theorem Loaded.load_straight : load .straight = straight :=
  have sorted : Sorted .straight := ⟨by decide, by decide, by decide, by decide⟩
  load_of_sorted sorted

/-- The smallest batches there are, and one pass behind each. -/
def Config.tight : Config :=
  { Config.paired with passCap := 1 }

theorem Config.accepted_tight : Config.tight.Accepted :=
  .passCap (n := 1) Config.accepted_paired rfl

namespace Session

/-- In a window of one line, scrolled to the third instruction of the straight line: that is as
far as a new text reaches, and the place is kept. -/
theorem run_inPlace_straight : ∃ s : Session Loaded,
    (Session.new (load .straight) .tight .unreadable).run
        [.setHeight 1, .goTo ⟨0x1000⟩, .scrollTo 1, .scrollTo 2, .scrollTo 1] = s ∧
      s.listing.top = 1 ∧
      (s.perform .refresh).listing.anchor = s.listing.anchor ∧
      (s.perform .refresh).listing.top = s.listing.top ∧
      (s.perform .refresh).listing.visible = s.listing.visible ∧
      (s.perform .refresh).listing.cursor = s.listing.cursor := by
  obtain ⟨s, reached, top, height, cursor, count, anchored, unasked, few⟩ : ∃ s : Session Loaded,
      (Session.new (load .straight) .tight .unreadable).run
          [.setHeight 1, .goTo ⟨0x1000⟩, .scrollTo 1, .scrollTo 2, .scrollTo 1] = s ∧
        s.listing.top = 1 ∧ s.listing.height = 1 ∧ s.listing.cursor = {} ∧
        s.listing.count = 4 ∧ s.listing.anchor = some ⟨0x1000⟩ ∧ s.pending? = none ∧
        s.pager.nearLines s.listing.height < Machine.signedEnd := by
    rw [load_straight]
    exact ⟨_, rfl, by decide +kernel⟩
  have distinct : Image.straight.Distinct := by decide
  have oneLined : Image.straight.OneLined := ⟨by decide, by decide, by decide⟩
  have covered : ∀ i ∈ Image.straight.instructions, (load .straight).covers i.address = true := by
    rw [load_straight]
    decide
  have lengths : (batchLines (((load .straight).slotsFrom ⟨0x1000⟩).take
      Config.tight.reach)).length = 3 := by
    rw [load_straight]
    decide
  obtain ⟨anchor, -, -, moved, kept⟩ := run_inPlace distinct oneLined covered (by decide)
    Config.accepted_tight .unreadable _ reached anchored unasked (oneShot_eq oneLined _ _)
    (oneShot_eq oneLined _ _) (.inl rfl)
  obtain ⟨window, grown⟩ := kept few
  have hline := s.pager.one_le_nearLines s.listing.height
  have long : 3 ≤ (s.perform .refresh).listing.count := by
    rw [lengths] at grown
    omega
  obtain ⟨top', visible⟩ := window.mpr (by omega)
  have start : s.listing.cursor.line = 0 := by rw [cursor]
  have cursor' := moved.mpr (by omega)
  exact ⟨s, reached, top, anchor, top', visible, cursor'⟩

/-- A place that is lost although nothing has changed, in a window of one line over the straight
line of instructions with the smallest batches and one pass behind each.  A cursor is left on the
third line and the window scrolled back: the pass that would have reached the cursor is not made.
A window scrolled to the last instruction stands where one pass does not lead to.  And the end of
the text is not near a window higher than signed numbers go, so no pass is made at all. -/
theorem run_inPlace_lost :
    (Image.straight.Distinct ∧ Image.straight.OneLined ∧
      (∀ i ∈ Image.straight.instructions, (load .straight).covers i.address = true) ∧
      Config.tight.Accepted ∧ ({ Config.tight with threshold := 1 } : Config).Accepted) ∧
    (∃ s : Session Loaded,
      (Session.new (load .straight) .tight .unreadable).run
        [.setHeight 1, .goTo ⟨0x1000⟩, .scrollTo 1, .placeCursor ⟨2, 0⟩, .scrollTo 0] = s ∧
      s.listing.anchor = some ⟨0x1000⟩ ∧ s.pending? = none ∧
      s.listing.cursor = ⟨2, 0⟩ ∧ (s.perform .refresh).listing.cursor = ⟨1, 0⟩) ∧
    (∃ s : Session Loaded,
      (Session.new (load .straight) .tight .unreadable).run
        [.setHeight 1, .goTo ⟨0x1000⟩, .scrollTo 1, .scrollTo 2, .scrollTo 3, .scrollTo 4] = s ∧
      s.listing.anchor = some ⟨0x1000⟩ ∧ s.pending? = none ∧
      s.listing.top = 4 ∧ (s.perform .refresh).listing.top = 2) ∧
    (∃ s : Session Loaded,
      (Session.new (load .straight) { Config.tight with threshold := 1 } .unreadable).run
        [.setHeight 1, .goTo ⟨0x1000⟩, .scrollTo 1, .setHeight (UInt64.size - 1)] = s ∧
      s.listing.anchor = some ⟨0x1000⟩ ∧ s.pending? = none ∧
      s.listing.visible.length = 3 ∧ (s.perform .refresh).listing.visible.length = 2) := by
  have steep : ({ Config.tight with threshold := 1 } : Config).Accepted :=
    .threshold (f := 1) Config.accepted_tight rfl
  rw [load_straight]
  refine ⟨⟨by decide, ⟨by decide, by decide, by decide⟩, by decide, Config.accepted_tight, steep⟩,
    ⟨_, rfl, ?_⟩, ⟨_, rfl, ?_⟩, ⟨_, rfl, ?_⟩⟩
  · decide +kernel
  · decide +kernel
  · decide +kernel

end Session

end AsmView
