/-
# The cursor stays in the window

Scrolling alone may leave the cursor behind, and so may another height of the window.  Whatever
else is done with a view keeps the cursor where the user sees it.  A cursor that is placed takes
the window along (`placeCursor_shows`); a reload puts both at the start or as near to their old
places as the new text allows (`whole_shows`).  Paging is the only case with more to it: window
and cursor are moved one after the other, the text may grow in between, and a cursor that
cannot be moved any further does not take the window along.  But then it stands at an end of the
text where the window was already (`page_shows`).
-/
import AsmView.Board
import AsmView.Proofs.Session.Order
import AsmView.Proofs.Session.Whole

namespace AsmView

variable {σ : Type}

namespace Listing

/-- The cursor is in the window, if there is a text. -/
def OnScreen (l : Listing) : Prop :=
  l.lines = [] ∨ l.top ≤ l.cursor.line ∧ l.cursor.line < l.top + l.height

/-- The second listing has a window of the same height, and the cursor is in it as it was in
the first. -/
structure Shows (l m : Listing) : Prop where
  height : m.height = l.height
  onScreen : l.OnScreen → m.OnScreen

theorem Shows.of_same {l m : Listing} (h : m = l) : l.Shows m :=
  h ▸ ⟨rfl, id⟩

theorem Shows.trans {l m n : Listing} (h : l.Shows m) (h' : m.Shows n) : l.Shows n :=
  ⟨h'.height.trans h.height, h'.onScreen ∘ h.onScreen⟩

/-- Lines were added behind the text, if there is one. -/
def Grown (l m : Listing) : Prop :=
  ∃ lines, m = l.append lines ∧ (l.lines = [] → lines = [])

theorem Grown.of_same {l m : Listing} (h : m = l) : l.Grown m :=
  ⟨[], by rw [h, append, List.append_nil], fun _ => rfl⟩

theorem Grown.trans {l m n : Listing} (h : l.Grown m) (h' : m.Grown n) : l.Grown n := by
  obtain ⟨lines, rfl, still⟩ := h
  obtain ⟨lines', rfl, still'⟩ := h'
  refine ⟨lines ++ lines', by rw [append, append, append, List.append_assoc], fun empty => ?_⟩
  have nothing := still empty
  rw [nothing, still' (by rw [append, empty, nothing]; rfl)]
  rfl

theorem Grown.cursor {l m : Listing} (h : l.Grown m) : m.cursor = l.cursor := by
  obtain ⟨lines, rfl, -⟩ := h
  rfl

theorem Grown.shows {l m : Listing} (h : l.Grown m) : l.Shows m := by
  obtain ⟨lines, rfl, still⟩ := h
  refine ⟨rfl, Or.imp (fun empty => ?_) id⟩
  rw [append, still empty, empty]
  rfl

theorem Grown.inOrder {l m : Listing} (h : l.Grown m) (order : l.InOrder) : m.InOrder := by
  obtain ⟨lines, rfl, still⟩ := h
  by_cases empty : l.lines = []
  · have same : l.append lines = l := by rw [append, still empty, List.append_nil]
    rw [same]
    exact order
  · exact order.append empty lines

theorem line_clampCursor (l : Listing) (c : Cursor) :
    (l.clampCursor c).line = min c.line (l.count - 1) := by
  unfold clampCursor
  split
  · rename_i empty
    rw [count, List.isEmpty_iff.mp empty]
    exact (Nat.min_zero _).symm
  · rfl

theorem InOrder.line_le {l : Listing} (order : l.InOrder) : l.cursor.line ≤ l.count - 1 := by
  by_cases empty : l.lines = []
  · rw [order.cursor_of_empty empty]
    exact Nat.zero_le _
  · obtain ⟨line, there, -⟩ := order.cursor_of_lines empty
    exact Nat.le_sub_one_of_lt (List.getElem?_eq_some_iff.mp there).1

/-- In an empty text both cursor and window are at the start. -/
theorem InOrder.onScreen_iff {l : Listing} (order : l.InOrder) :
    l.OnScreen ↔ l.top ≤ l.cursor.line ∧ l.cursor.line < l.top + l.height := by
  refine ⟨fun onScreen => onScreen.elim (fun empty => ?_) id, .inr⟩
  have inside : l.top ≤ l.count - l.height := order.top
  have nothing : l.count = 0 := List.length_eq_zero_iff.mpr empty
  have tall := order.height
  rw [order.cursor_of_empty empty]
  dsimp only
  omega

/-- A window that is scrolled up to the line of the cursor. -/
theorem InOrder.onScreen_up {l : Listing} (order : l.InOrder) (above : l.cursor.line < l.top) :
    (l.setTop l.cursor.line).OnScreen := by
  have inside : l.top ≤ l.count - l.height := order.top
  have last : l.maxTop = l.count - l.height := rfl
  have tall := order.height
  have top : (l.setTop l.cursor.line).top = l.cursor.line := Nat.min_eq_left (by omega)
  refine .inr ⟨Nat.le_of_eq top, ?_⟩
  rw [top]
  exact Nat.lt_add_of_pos_right tall

/-- A window that is scrolled down until the line of the cursor is its last one. -/
theorem InOrder.onScreen_down {l : Listing} (order : l.InOrder)
    (below : l.top + l.height ≤ l.cursor.line) :
    (l.setTop (l.cursor.line + 1 - l.height)).OnScreen := by
  have under := order.line_le
  have last : l.maxTop = l.count - l.height := rfl
  have tall := order.height
  have top : (l.setTop (l.cursor.line + 1 - l.height)).top = l.cursor.line + 1 - l.height :=
    Nat.min_eq_left (by omega)
  refine .inr ?_
  rw [top]
  show l.cursor.line + 1 - l.height ≤ l.cursor.line ∧
    l.cursor.line < l.cursor.line + 1 - l.height + l.height
  omega

/-- A window and a cursor are moved by as many lines, and text is added in between.  If the
cursor stays then, the window has stayed: the cursor is at an end of the text. -/
theorem InOrder.top_of_stuck {l m : Listing} (order : l.InOrder) (onScreen : l.OnScreen)
    {delta : Int} (grown : (l.setTop (l.top + delta).toNat).Grown m)
    (stuck : min (l.cursor.line + delta).toNat (m.count - 1) = l.cursor.line) :
    m.top = l.top := by
  obtain ⟨lines, rfl, -⟩ := grown
  have longer : ((l.setTop (l.top + delta).toNat).append lines).count = l.count + lines.length :=
    List.length_append
  have inside : l.top ≤ l.count - l.height := order.top
  have under := order.line_le
  have tall := order.height
  obtain ⟨below, above⟩ := order.onScreen_iff.mp onScreen
  rw [longer] at stuck
  show min (l.top + delta).toNat (l.count - l.height) = l.top
  omega

end Listing

variable [Analyzer σ]

/-! ## The text may grow -/

theorem Feed.pass_grown (f : Feed σ) : f.listing.Grown f.pass.2.listing := by
  rcases f.pass_listing with same | ⟨hline, lines, appended⟩
  · exact .of_same same
  · exact ⟨lines, appended, fun empty => absurd empty hline⟩

theorem Feed.extendFrom_grown (n : Nat) (report : PageReport) (f : Feed σ) :
    f.listing.Grown (extendFrom n report f).2.listing := by
  induction n generalizing report f with
  | zero => exact .of_same rfl
  | succ n ih =>
      have first := f.pass_grown
      rw [extendFrom]
      generalize f.pass = result at first ⊢
      obtain ⟨outcome, g⟩ := result
      cases outcome with
      | error e => exact first
      | ok result =>
          cases result with
          | appended k => exact first.trans (ih _ g)
          | notNearEnd => exact first
          | overflow => exact first
          | invalidBoundary => exact first
          | exhausted => exact first

namespace Session

omit [Analyzer σ] in
theorem listing_announce (s : Session σ) (text : String) :
    (s.announce text).listing = s.listing := by
  obtain ⟨events, last?, told⟩ := announce_eq s text
  rw [told]

theorem extendText_grown (s : Session σ) : s.listing.Grown s.extendText.listing := by
  have grown := Feed.extendFrom_grown s.toFeed.pager.passCap {} s.toFeed
  unfold extendText Feed.extend
  generalize Feed.extendFrom s.toFeed.pager.passCap {} s.toFeed = result at grown ⊢
  obtain ⟨outcome, feed⟩ := result
  cases outcome with
  | ok report => exact grown
  | error f =>
      dsimp only
      rw [listing_announce]
      exact grown

theorem raise_scroll_grown (s : Session σ) : s.listing.Grown (s.raise .scroll).listing := by
  unfold raise
  split
  · exact extendText_grown { s with stats := { s.stats with delivered := s.stats.delivered + 1 } }
  · exact .of_same rfl

/-- Scrolling puts the window where the text as it was allows, and may make it grow. -/
theorem setTop_grown (s : Session σ) (top : Nat) :
    (s.listing.setTop top).Grown (s.setTop top).listing := by
  unfold setTop
  dsimp only
  split
  · rename_i same
    exact .of_same (Listing.setTop_eq_self same.symm).symm
  · exact raise_scroll_grown { s with listing := s.listing.setTop top }

theorem listing_setCursor (s : Session σ) (c : Cursor) :
    (s.setCursor c).listing = s.listing.setCursor c := by
  unfold setCursor
  dsimp only
  split
  · rename_i same
    exact (Listing.setCursor_of_cursor_eq same).symm
  · unfold raise
    split
    · obtain ⟨engine, -, feed⟩ := updateFocus_feed (s.withCursor c)
      exact congrArg (·.listing) feed
    · rfl

/-! ## The window follows the cursor -/

theorem scrollTo_onScreen {s : Session σ} {top : Nat} (here : (s.listing.setTop top).OnScreen) :
    (s.scrollTo top).listing.OnScreen :=
  (setTop_grown s top).shows.onScreen here

theorem height_scrollTo (s : Session σ) (top : Nat) :
    (s.scrollTo top).listing.height = s.listing.height :=
  (setTop_grown s top).shows.height

theorem height_placeCursor (s : Session σ) (c : Cursor) :
    (s.placeCursor c).listing.height = s.listing.height := by
  have placed : (s.setCursor c).listing.height = s.listing.height :=
    congrArg (·.height) (listing_setCursor s c)
  unfold placeCursor
  dsimp only
  split
  · rfl
  · split
    · exact (height_scrollTo _ _).trans placed
    · split
      · exact (height_scrollTo _ _).trans placed
      · exact placed

/-- A cursor that is moved is in the window afterwards; one that stays was there before. -/
theorem placeCursor_onScreen {s : Session σ} (order : s.listing.InOrder) {c : Cursor}
    (stuck : s.listing.clampCursor c = s.listing.cursor → s.listing.OnScreen) :
    (s.placeCursor c).listing.OnScreen := by
  have moved := order.setCursor c
  rw [← listing_setCursor] at moved
  unfold placeCursor
  dsimp only
  split
  · rename_i same
    exact stuck same
  · split
    · rename_i above
      exact scrollTo_onScreen (moved.onScreen_up above)
    · split
      · rename_i below
        exact scrollTo_onScreen (moved.onScreen_down below)
      · exact .inr ⟨by omega, by omega⟩

theorem placeCursor_shows {s : Session σ} (order : s.listing.InOrder) (c : Cursor) :
    s.listing.Shows (s.placeCursor c).listing where
  height := height_placeCursor s c
  onScreen := fun onScreen => placeCursor_onScreen order fun _ => onScreen

/-- Paging: the window and the cursor are moved by as many lines, one after the other. -/
theorem page_shows {s : Session σ} (order : s.listing.InOrder) (delta : Int) :
    s.listing.Shows ((s.scrollBy delta).stepCursor delta).listing := by
  have grown : (s.listing.setTop (s.listing.top + delta).toNat).Grown (s.scrollBy delta).listing :=
    setTop_grown s _
  generalize s.scrollBy delta = t at grown ⊢
  have height : t.listing.height = s.listing.height := grown.shows.height
  have cursor : t.listing.cursor = s.listing.cursor := grown.cursor
  have order' := grown.inOrder (order.setTop _)
  let c : Cursor := ⟨(t.listing.cursor.line + delta).toNat, t.listing.cursor.column⟩
  refine ⟨?_, fun onScreen => placeCursor_onScreen (c := c) order' fun stuck => ?_⟩
  · exact (height_placeCursor t c).trans height
  · -- only a cursor that stays does not take the window along, and then that has stayed as well
    have line : min (s.listing.cursor.line + delta).toNat (t.listing.count - 1) =
        s.listing.cursor.line := by
      rw [← cursor, ← t.listing.line_clampCursor c, stuck]
    have top := order.top_of_stuck onScreen grown line
    refine .inr ?_
    rw [top, cursor, height]
    exact order.onScreen_iff.mp onScreen

/-! ## Reloads -/

omit [Analyzer σ] in
/-- A reload leaves the text, or puts cursor and window where they were, as far as there are
lines, or to the start. -/
theorem whole_shows {target : Address} {hkeep : Bool} {answer : Except EngineFault String}
    {s t : Session σ} (order : s.listing.InOrder) (whole : s.Whole target hkeep answer t) :
    s.listing.Shows t.listing := by
  cases answer with
  | error f => exact .of_same whole.listing
  | ok batch =>
      have replaced : s.Replaced target batch hkeep t := whole
      refine ⟨replaced.height, fun onScreen => ?_⟩
      have cursor := replaced.cursor
      have top := replaced.top
      have tall := order.height
      refine .inr ?_
      rw [replaced.height]
      cases hkeep with
      | true =>
          have line : t.listing.cursor.line = min s.listing.cursor.line (t.listing.count - 1) :=
            (congrArg (·.line) cursor).trans (t.listing.line_clampCursor _)
          have last : t.listing.maxTop = t.listing.count - s.listing.height := by
            rw [Listing.maxTop, replaced.height]
          have stays : t.listing.top = min s.listing.top t.listing.maxTop := top
          obtain ⟨below, above⟩ := order.onScreen_iff.mp onScreen
          omega
      | false =>
          rw [cursor, top]
          exact ⟨Nat.le_refl 0, Nat.lt_add_of_pos_right tall⟩

theorem reload_shows {s : Session σ} (rest : s.channels.AtRest) (order : s.listing.InOrder) :
    s.listing.Shows s.reload.1.listing := by
  cases going : s.reloadTarget? with
  | none =>
      rw [reload_nowhere going]
      exact .of_same rfl
  | some target =>
      obtain ⟨-, -, whole⟩ := reload_whole rest going
      exact whole_shows order whole

/-! ## Going to places -/

section Going

variable {s : Session σ} (rest : s.channels.AtRest) (order : s.listing.InOrder)

include rest order

theorem goToStart_shows : s.listing.Shows s.goToStart.listing := by
  unfold goToStart
  cases Analyzer.start? s.engine with
  | none => exact .of_same rfl
  | some entry => exact reload_shows (s := (s.request entry).1) rest order

theorem goTo_shows (target : Address) : s.listing.Shows (s.goTo target).listing := by
  have reloaded := reload_shows (s := (s.request target).1) rest order
  unfold goTo
  generalize (s.request target).1.reload = result at reloaded ⊢
  obtain ⟨after, loaded⟩ := result
  dsimp only
  split
  · exact reloaded
  · exact reloaded

theorem goBack_shows : s.listing.Shows s.goBack.1.listing := by
  unfold goBack
  split
  · exact .of_same rfl
  · rename_i place places _
    have reloaded :=
      reload_shows (s := (({ s with history := places } : Session σ).request place).1) rest order
    dsimp only
    generalize (({ s with history := places } : Session σ).request place).1.reload = result
      at reloaded ⊢
    obtain ⟨after, loaded⟩ := result
    cases loaded with
    | true => exact reloaded
    | false => exact reloaded

theorem goToQuery_shows (query : String) : s.listing.Shows (s.goToQuery query).1.listing := by
  unfold goToQuery
  split
  · exact goTo_shows rest order _
  · exact .of_same rfl

theorem showAnew_shows : s.listing.Shows s.showAnew.listing :=
  reload_shows (s := { s with watch := s.watch.markStale, cache := {}, announced := [] }) rest order

theorem followTransfer_shows : s.listing.Shows s.followTransfer.1.listing := by
  unfold followTransfer
  cases s.listing.cursorLine? with
  | none => exact .of_same rfl
  | some line =>
      dsimp only [Feed.ask]
      generalize (knownTarget line).ask s.engine = answer
      obtain ⟨result, engine⟩ := answer
      cases result with
      | error f => exact .of_same (listing_announce { s with engine } _)
      | ok target? =>
          cases target? with
          | none => exact .of_same rfl
          | some target => exact goTo_shows (s := { s with engine }) rest order target

theorem followRow_shows (direction : Direction) (index : Nat) :
    s.listing.Shows (s.followRow direction index).1.listing := by
  unfold followRow
  split
  · exact goTo_shows rest order _
  · exact .of_same rfl

end Going

/-- The line under the cursor is the one that a snapshot has. -/
theorem cursorLine?_snapshot {s : Session σ} (h : s.listing.OnScreen) :
    s.snapshot.cursorLine? = s.listing.cursorLine? := by
  unfold Snapshot.cursorLine? Listing.cursorLine?
  show (if s.listing.top ≤ s.listing.cursor.line then
    s.listing.visible[s.listing.cursor.line - s.listing.top]? else none) = _
  unfold Listing.visible
  rcases h with empty | ⟨below, above⟩
  · simp [empty]
  · rw [if_pos below, List.getElem?_take_of_lt (by omega), List.getElem?_drop]
    congr 1
    omega

end Session
end AsmView
