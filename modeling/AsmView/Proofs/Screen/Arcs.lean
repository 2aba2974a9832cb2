/-
# The arcs of the metrics

Five rows of dots show five numbers, each in proportion to the largest of them.  `Metrics.share` is
the length that an arc should have, in exact arithmetic; the painter computes it in words of 64
bits, where the sum that it divides may not fit.  It is the largest number that decides: where its
sum fits so do the others, and all rows show their shares, and where it does not there is no chart.
-/
import Mathlib.Algebra.Order.Floor.Div
import AsmView.Proofs.Machine
import AsmView.Proofs.Text.Digits
import AsmView.Screen.Wording

namespace AsmView

open Text Screen

/-! ## Shares -/

namespace Metrics

/-- The largest number, and at least 1. -/
def peak (m : Metrics) : Nat :=
  max 1 ((m.values.map UInt64.toNat).max?.getD 0)

/-- The share of the longest arc that a number takes, rounded up. -/
def share (m : Metrics) (value : UInt64) : Nat :=
  (arcLength * value.toNat) ⌈/⌉ m.peak

variable {m : Metrics} {value other : UInt64}

theorem peak_pos (m : Metrics) : 0 < m.peak :=
  Nat.le_max_left _ _

theorem toNat_le_peak (h : value ∈ m.values) : value.toNat ≤ m.peak :=
  Nat.le_trans (List.le_max?_getD_of_mem (List.mem_map_of_mem h)) (Nat.le_max_right _ _)

/-- The peak is one of the numbers, unless all of them are zero. -/
theorem exists_peak (m : Metrics) : m.peak = 1 ∨ ∃ value ∈ m.values, value.toNat = m.peak := by
  unfold peak
  cases largest : (m.values.map UInt64.toNat).max? with
  | none => exact .inl rfl
  | some n =>
      obtain ⟨value, listed, rfl⟩ := List.mem_map.mp (List.max?_mem largest)
      rw [Option.getD_some]
      rcases Nat.le_total value.toNat 1 with small | large
      · exact .inl (Nat.max_eq_left small)
      · exact .inr ⟨value, listed, (Nat.max_eq_right large).symm⟩

/-- A number that no other is larger than is the peak, unless it is zero. -/
theorem toNat_eq_peak (h : value ∈ m.values) (hvalue : value ≠ 0)
    (largest : ∀ other ∈ m.values, other ≤ value) : value.toNat = m.peak := by
  have hmost := toNat_le_peak h
  have positive : value.toNat ≠ 0 := fun zero => hvalue (UInt64.toNat_inj.mp zero)
  rcases m.exists_peak with one | ⟨other, listed, peak⟩
  · omega
  · have hleast := UInt64.le_iff_toNat_le.mp (largest other listed)
    omega

theorem toNat_largest (m : Metrics) : (largest m.values).toNat = m.peak := by
  simp [largest, peak, values, labelled, UInt64.toNat_max, Nat.max_assoc]

theorem share_le_iff {n : Nat} : m.share value ≤ n ↔ arcLength * value.toNat ≤ m.peak * n :=
  ceilDiv_le_iff_le_mul m.peak_pos

theorem share_eq_zero_iff : m.share value = 0 ↔ value = 0 := by
  rw [← Nat.le_zero, share_le_iff, Nat.mul_zero, Nat.le_zero, Nat.mul_eq_zero, ← UInt64.toNat_inj]
  exact or_iff_right (by decide)

/-- No share is more than the longest arc. -/
theorem share_le_arcLength (h : value ∈ m.values) : m.share value ≤ arcLength := by
  rw [share_le_iff, Nat.mul_comm]
  exact Nat.mul_le_mul_right _ (toNat_le_peak h)

theorem share_peak (h : value.toNat = m.peak) : m.share value = arcLength := by
  rw [share, h, Nat.mul_comm, ← smul_eq_mul, smul_ceilDiv m.peak_pos]

theorem share_mono (h : value ≤ other) : m.share value ≤ m.share other := by
  rw [share_le_iff]
  exact Nat.le_trans (Nat.mul_le_mul_left _ (UInt64.le_iff_toNat_le.mp h))
    (share_le_iff.mp (Nat.le_refl _))

end Metrics

/-! ## Shares in words -/

namespace Screen

variable {m : Metrics} {value : UInt64}

/-- The exact sum gives the share. -/
theorem share_eq (m : Metrics) (value : UInt64) :
    m.share value = (arcLength * value.toNat + m.peak - 1) / m.peak :=
  Nat.ceilDiv_eq_add_pred_div _ _

/-- A sum that fits gives the share. -/
theorem arcShare?_of_fits (fits : arcLength * value.toNat + m.peak < UInt64.size) :
    arcShare? value (largest m.values) = some (m.share value) := by
  have product : Machine.word? (value.toNat * arcLength) = some (arcLength * value.toNat) := by
    rw [Nat.mul_comm]
    exact Machine.word?_of_lt (by omega)
  have dots : (if value = 0 then 0 else max (m.share value) 1) = m.share value := by
    have none : m.share value = 0 ↔ value = 0 := m.share_eq_zero_iff
    split
    · rename_i zero
      exact (none.mpr zero).symm
    · rename_i hvalue
      exact Nat.max_eq_left (Nat.pos_of_ne_zero fun zero => hvalue (none.mp zero))
  simp only [arcShare?, product, m.toNat_largest, Option.bind_eq_bind, Option.bind_some,
    Machine.word?_of_lt fits, ← share_eq, dots]

theorem arcShare?_of_overflow (hlarge : UInt64.size ≤ arcLength * value.toNat + m.peak) :
    arcShare? value (largest m.values) = none := by
  rw [arcShare?, m.toNat_largest]
  by_cases fits : value.toNat * arcLength < UInt64.size
  · rw [Machine.word?_of_lt fits, Nat.mul_comm]
    simp only [Option.bind_eq_bind, Option.bind_some, Machine.word?_eq_none_iff.mpr hlarge,
      Option.bind_none]
  · rw [Machine.word?_eq_none_iff.mpr (Nat.not_lt.mp fits)]
    rfl

end Screen

/-! ## Rows -/

namespace InkLine

/-- What a row says. -/
def chars (row : InkLine) : List Char :=
  row.spans.flatMap (·.text.toList)

/-- The filled cells of a row. -/
def filled (row : InkLine) : Nat :=
  row.chars.count '◉'

/-- The cells of a row that are not filled. -/
def bare (row : InkLine) : Nat :=
  row.chars.count '·'

end InkLine

namespace Screen

/-- A row of the chart shows an entry: its label, 24 cells with the filled ones in front, and its
number.  As many cells are filled as the share of the number says, and none only for zero. -/
structure Shows (m : Metrics) (entry : String × UInt64) (row : InkLine) : Prop where
  text : row.chars = padLeft 6 entry.1.toList ++ ' ' :: (List.replicate row.filled '◉' ++
    (List.replicate row.bare '·' ++ ' ' :: decimal entry.2.toNat))
  cells : row.filled + row.bare = arcLength
  filled : row.filled = m.share entry.2
  none_iff : row.filled = 0 ↔ entry.2 = 0

variable {m : Metrics} {label : String} {value : UInt64} {dots : Nat} {theme : Theme}

theorem chars_arcLine :
    (arcLine theme label value dots).chars =
      padLeft 6 label.toList ++ ' ' :: (List.replicate dots '◉' ++
        (List.replicate (arcLength - dots) '·' ++ ' ' :: decimal value.toNat)) := by
  have number : (s!" {decimalText value.toNat}").toList = ' ' :: decimal value.toNat := by
    simp [decimalText, toString]
  simp [arcLine, InkLine.chars, number]

/-- A character that neither label nor number has is counted in the cells. -/
theorem count_arcLine {cell : Char} (unlabelled : cell ∉ label.toList) (visible : cell ≠ ' ')
    (hdigit : isDecimalDigit cell = false) :
    (arcLine theme label value dots).chars.count cell =
      (List.replicate dots '◉').count cell +
        (List.replicate (arcLength - dots) '·').count cell := by
  have number : (decimal value.toNat).count cell = 0 := by
    refine List.count_eq_zero.mpr fun digit => ?_
    rw [mem_decimal digit] at hdigit
    cases hdigit
  have padded : (padLeft 6 label.toList).count cell = 0 := by
    refine List.count_eq_zero.mpr fun listed => ?_
    rcases List.mem_append.mp listed with padding | letter
    · exact visible (List.eq_of_mem_replicate padding)
    · exact unlabelled letter
  rw [chars_arcLine]
  simp [number, padded, visible.symm]

theorem filled_arcLine (unlabelled : '◉' ∉ label.toList) :
    (arcLine theme label value dots).filled = dots := by
  rw [InkLine.filled, count_arcLine unlabelled (by decide) (by decide)]
  simp [List.count_replicate]

theorem bare_arcLine (unlabelled : '·' ∉ label.toList) :
    (arcLine theme label value dots).bare = arcLength - dots := by
  rw [InkLine.bare, count_arcLine unlabelled (by decide) (by decide)]
  simp [List.count_replicate]

/-- No label has a dot in it. -/
theorem label_plain {entry : String × UInt64} (h : entry ∈ m.labelled) :
    '◉' ∉ entry.1.toList ∧ '·' ∉ entry.1.toList := by
  have labels : m.labelled.map (·.1) = ["cc", "calls", "blocks", "xrefs", "exits"] := rfl
  have plain : ∀ label ∈ ["cc", "calls", "blocks", "xrefs", "exits"],
      '◉' ∉ label.toList ∧ '·' ∉ label.toList := by decide
  exact plain _ (labels ▸ List.mem_map_of_mem h)

/-- A row with its share filled shows its entry. -/
theorem shows_arcLine {entry : String × UInt64} (h : entry ∈ m.labelled) :
    Shows m entry (arcLine theme entry.1 entry.2 (m.share entry.2)) := by
  obtain ⟨hdot, hpoint⟩ := label_plain h
  have fits := m.share_le_arcLength (List.mem_map_of_mem h)
  have filled : (arcLine theme entry.1 entry.2 (m.share entry.2)).filled = m.share entry.2 :=
    filled_arcLine hdot
  have bare : (arcLine theme entry.1 entry.2 (m.share entry.2)).bare =
      arcLength - m.share entry.2 :=
    bare_arcLine hpoint
  refine ⟨?_, ?_, filled, ?_⟩
  · rw [filled, bare, chars_arcLine]
  · rw [filled, bare]
    omega
  · rw [filled]
    exact m.share_eq_zero_iff

theorem mapM_eq_some_map {α β : Type} {f : α → Option β} {g : α → β} {xs : List α}
    (h : ∀ x ∈ xs, f x = some (g x)) : xs.mapM f = some (xs.map g) := by
  induction xs with
  | nil => rfl
  | cons x xs ih =>
      have rest := ih fun y hy => h y (List.mem_cons_of_mem x hy)
      rw [List.mapM_cons, h x List.mem_cons_self, rest]
      rfl

theorem mapM_eq_none {α β : Type} {f : α → Option β} {xs : List α} {x : α} (hx : x ∈ xs)
    (h : f x = none) : xs.mapM f = none := by
  induction xs with
  | nil => exact absurd hx List.not_mem_nil
  | cons y xs ih =>
      rw [List.mapM_cons]
      rcases List.mem_cons.mp hx with rfl | later
      · rw [h]
        rfl
      · rw [ih later]
        cases f y <;> rfl

/-- The chart has all of its shares, or there is none. -/
theorem arcsInk?_eq (theme : Theme) (m : Metrics) :
    arcsInk? theme m =
      if UInt64.size ≤ (arcLength + 1) * m.peak then none
      else some (m.labelled.map fun entry => arcLine theme entry.1 entry.2 (m.share entry.2)) := by
  unfold arcsInk?
  split
  · rename_i hlarge
    -- The peak is the number that overflows; it is not 1, since that would fit.
    rcases m.exists_peak with one | ⟨value, listed, peak⟩
    · rw [one] at hlarge
      exact absurd hlarge (by decide)
    · obtain ⟨entry, entered, rfl⟩ := List.mem_map.mp listed
      refine mapM_eq_none entered ?_
      show (arcShare? entry.2 (largest m.values)).map _ = _
      rw [arcShare?_of_overflow (by rw [peak]; unfold arcLength at hlarge ⊢; omega)]
      rfl
  · rename_i fits
    refine mapM_eq_some_map fun entry entered => ?_
    have hmost := m.toNat_le_peak (List.mem_map_of_mem entered)
    show (arcShare? entry.2 (largest m.values)).map _ = _
    rw [arcShare?_of_fits (by unfold arcLength at fits ⊢; omega)]
    rfl

/-- There is no chart exactly if 25 times the peak does not fit into a word.  Where there is one it
shows the five numbers in cells of their own, each with its share filled; so the largest number
fills its row, and a larger number shows no fewer cells than a smaller one. -/
theorem arcsInk?_shares (theme : Theme) (m : Metrics) :
    (arcsInk? theme m = none ↔ 2 ^ 64 ≤ (arcLength + 1) * m.peak) ∧
    ∀ ink, arcsInk? theme m = some ink →
      ink.length = 5 ∧
      (∀ r ∈ m.labelled.zip ink, Shows m r.1 r.2) ∧
      (∀ r ∈ m.labelled.zip ink, r.1.2 ≠ 0 → (∀ other ∈ m.values, other ≤ r.1.2) →
        r.2.filled = arcLength) ∧
      ∀ r ∈ m.labelled.zip ink, ∀ s ∈ m.labelled.zip ink, r.1.2 ≤ s.1.2 →
        r.2.filled ≤ s.2.filled := by
  rw [arcsInk?_eq]
  split
  · rename_i hlarge
    exact ⟨iff_of_true rfl hlarge, nofun⟩
  · rename_i fits
    refine ⟨iff_of_false nofun fits, ?_⟩
    rintro ink ⟨⟩
    have rows : ∀ r ∈ m.labelled.zip
        (m.labelled.map fun entry => arcLine theme entry.1 entry.2 (m.share entry.2)),
        r.1.2 ∈ m.values ∧ Shows m r.1 r.2 := by
      intro r hr
      rw [show m.labelled.zip _ = m.labelled.map fun entry =>
        (entry, arcLine theme entry.1 entry.2 (m.share entry.2)) from rfl] at hr
      obtain ⟨entry, entered, rfl⟩ := List.mem_map.mp hr
      exact ⟨List.mem_map_of_mem entered, shows_arcLine entered⟩
    refine ⟨by simp [Metrics.labelled], fun r hr => (rows r hr).2, ?_, ?_⟩
    · intro r hr hvalue largest
      obtain ⟨listed, shown⟩ := rows r hr
      rw [shown.filled, Metrics.share_peak (Metrics.toNat_eq_peak listed hvalue largest)]
    · intro r hr s hs le
      rw [(rows r hr).2.filled, (rows s hs).2.filled]
      exact Metrics.share_mono le

/-- The largest number a word can hold has no chart. -/
theorem arcsInk?_overflows :
    arcsInk? {} { outgoing := UInt64.ofNat (2 ^ 64 - 1) } = none := by
  rw [arcsInk?_eq, if_pos (by decide)]

end Screen

end AsmView
