/-
# A listing in order

`Listing.InOrder` is what every listing a user sees satisfies: the window has a line,
the scroll position keeps the window within the text, the cursor stands on a line that
exists and not beyond its end, and a text that is not empty starts at its anchor.  Each
way of changing a listing keeps it; replacing the text does so because the new text
starts at its first line with an address, and appending only ever adds to a text that is
not empty, since it goes on from the address of the last line.
-/
import AsmView.Listing

namespace AsmView.Listing

/-- A listing as the user may find it. -/
structure InOrder (l : Listing) : Prop where
  height : 1 ≤ l.height
  top : l.top ≤ l.count - l.height
  cursor_of_empty : l.lines = [] → l.cursor = ⟨0, 0⟩
  cursor_of_lines : l.lines ≠ [] →
    ∃ line, l.lines[l.cursor.line]? = some line ∧ l.cursor.column ≤ line.length
  anchored : ∀ line, l.lines.head? = some line →
    ∃ a, l.anchor = some a ∧ lineAddress? line = some a

theorem inOrder_empty (height : Nat) : (Listing.empty height).InOrder where
  height := Nat.le_max_right height 1
  top := Nat.zero_le _
  cursor_of_empty := fun _ => rfl
  cursor_of_lines := fun h => absurd rfl h
  anchored := fun _ h => nomatch h

/-! ## The cursor is put on a place that exists -/

theorem clampCursor_of_empty {l : Listing} (h : l.lines = []) (c : Cursor) :
    l.clampCursor c = ⟨0, 0⟩ := by
  simp [clampCursor, h]

theorem clampCursor_exists {l : Listing} (h : l.lines ≠ []) (c : Cursor) :
    ∃ line, l.lines[(l.clampCursor c).line]? = some line ∧
      (l.clampCursor c).column ≤ line.length := by
  have hpos : 0 < l.lines.length := List.length_pos_iff.mpr h
  have hlt : min c.line (l.lines.length - 1) < l.lines.length := by omega
  have hcol : (l.clampCursor c).column =
      min c.column l.lines[min c.line (l.lines.length - 1)].length := by
    simp [clampCursor, h, count, List.getD_eq_getElem?_getD, hlt]
  refine ⟨l.lines[min c.line (l.lines.length - 1)], ?_, ?_⟩
  · simp [clampCursor, h, count, hlt]
  · rw [hcol]
    exact Nat.min_le_right _ _

/-- Placing the cursor where it stands changes nothing. -/
theorem setCursor_of_cursor_eq {l : Listing} {c : Cursor} (h : (l.setCursor c).cursor = l.cursor) :
    l.setCursor c = l := by
  have hc : l.clampCursor c = l.cursor := h
  rw [setCursor, hc]

/-- Scrolling to where the window is changes nothing. -/
theorem setTop_eq_self {l : Listing} {top : Nat} (h : l.top = min top l.maxTop) :
    l.setTop top = l := by
  rw [setTop, ← h]

/-! ## What changes a listing keeps it in order -/

theorem InOrder.setCursor {l : Listing} (h : l.InOrder) (c : Cursor) : (l.setCursor c).InOrder where
  height := h.height
  top := h.top
  cursor_of_empty := fun he => clampCursor_of_empty he c
  cursor_of_lines := fun hl => clampCursor_exists hl c
  anchored := h.anchored

theorem InOrder.setTop {l : Listing} (h : l.InOrder) (top : Nat) : (l.setTop top).InOrder where
  height := h.height
  top := Nat.min_le_right top l.maxTop
  cursor_of_empty := h.cursor_of_empty
  cursor_of_lines := h.cursor_of_lines
  anchored := h.anchored

theorem InOrder.setHeight {l : Listing} (h : l.InOrder) (height : Nat) :
    (l.setHeight height).InOrder where
  height := Nat.le_max_right height 1
  top := Nat.min_le_right l.top _
  cursor_of_empty := h.cursor_of_empty
  cursor_of_lines := h.cursor_of_lines
  anchored := h.anchored

/-- A new text is in order when its first line, if it has one, starts at the anchor. -/
theorem InOrder.replace {l : Listing} (h : l.InOrder) {anchor : Option Address}
    {lines : List String}
    (start : ∀ line, lines.head? = some line → ∃ a, anchor = some a ∧ lineAddress? line = some a) :
    (l.replace anchor lines).InOrder where
  height := h.height
  top := Nat.min_le_right l.top _
  cursor_of_empty := fun he => clampCursor_of_empty (l := { l with anchor, lines }) he l.cursor
  cursor_of_lines := fun hl => clampCursor_exists (l := { l with anchor, lines }) hl l.cursor
  anchored := start

/-- Lines added behind a text change neither its start nor what stands before them. -/
theorem InOrder.append {l : Listing} (h : l.InOrder) (hl : l.lines ≠ []) (lines : List String) :
    (l.append lines).InOrder where
  height := h.height
  top := by
    have := h.top
    simp only [Listing.append, count, List.length_append] at this ⊢
    omega
  cursor_of_empty := fun he => absurd (List.append_eq_nil_iff.mp he).1 hl
  cursor_of_lines := by
    intro _
    obtain ⟨line, hline, hcol⟩ := h.cursor_of_lines hl
    obtain ⟨hlt, _⟩ := List.getElem?_eq_some_iff.mp hline
    exact ⟨line, by simpa [Listing.append, List.getElem?_append_left hlt] using hline, hcol⟩
  anchored := by
    intro line hline
    have hhead : (l.lines ++ lines).head? = l.lines.head? := by
      cases hlines : l.lines with
      | nil => exact absurd hlines hl
      | cons first rest => rfl
    exact h.anchored line (hhead ▸ hline)

/-- A text whose last line has an address is not empty. -/
theorem ne_nil_of_lastAddress? {l : Listing} {a : Address} (h : l.lastAddress? = some a) :
    l.lines ≠ [] := by
  rintro hl
  simp [lastAddress?, lastLine?, hl] at h

/-- Appending leaves the line under the cursor where it is. -/
theorem InOrder.cursorLine?_append {l : Listing} (h : l.InOrder) (hl : l.lines ≠ [])
    (lines : List String) : (l.append lines).cursorLine? = l.cursorLine? := by
  obtain ⟨line, hline, _⟩ := h.cursor_of_lines hl
  obtain ⟨hlt, _⟩ := List.getElem?_eq_some_iff.mp hline
  simp [cursorLine?, Listing.append, List.getElem?_append_left hlt]

/-- A cursor put at the start stands on the first line. -/
theorem cursorLine?_setCursor_start (l : Listing) :
    (l.setCursor {}).cursorLine? = l.lines.head? := by
  cases hl : l.lines with
  | nil => simp [setCursor, cursorLine?, hl]
  | cons first rest => simp [setCursor, cursorLine?, clampCursor, hl]

end AsmView.Listing
