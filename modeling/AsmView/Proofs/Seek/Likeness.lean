/-
# How alike two texts are

The table of longest common subsequences is filled row by row, and of a row only the one
before it is kept.  The row of a text `xs` against a text `ys` holds, for each prefix of `ys`,
the length of the longest list that is a subsequence of both (`rowOf`); that length obeys the
rule the table is filled by (`longestCommon_append`), so the last entry of the last row is what
it should be.  Of two texts that are not both empty the likeness is therefore twice that length
over the sum of the lengths, compared as the number it is.
-/
import Mathlib.Algebra.Order.Field.Basic
import Mathlib.Data.Rat.Cast.Order
import Mathlib.Order.Lattice.Nat
import AsmView.Seek

namespace AsmView.Destination

variable {xs ys zs pre : List Char} {x y : Char}

/-- The length of the longest list that is a subsequence of both texts. -/
noncomputable def longestCommon (xs ys : List Char) : Nat :=
  sSup { n | ∃ zs : List Char, zs.Sublist xs ∧ zs.Sublist ys ∧ zs.length = n }

theorem longestCommon_isGreatest (xs ys : List Char) :
    IsGreatest { n | ∃ zs : List Char, zs.Sublist xs ∧ zs.Sublist ys ∧ zs.length = n }
      (longestCommon xs ys) := by
  have bounded : BddAbove
      { n | ∃ zs : List Char, zs.Sublist xs ∧ zs.Sublist ys ∧ zs.length = n } := by
    refine ⟨xs.length, ?_⟩
    rintro n ⟨zs, left, -, rfl⟩
    exact left.length_le
  exact ⟨Nat.sSup_mem ⟨0, [], List.nil_sublist xs, List.nil_sublist ys, rfl⟩ bounded,
    fun n common => le_csSup bounded common⟩

theorem exists_common (xs ys : List Char) :
    ∃ zs : List Char, zs.Sublist xs ∧ zs.Sublist ys ∧ zs.length = longestCommon xs ys :=
  (longestCommon_isGreatest xs ys).1

theorem length_le_longestCommon (left : zs.Sublist xs) (right : zs.Sublist ys) :
    zs.length ≤ longestCommon xs ys :=
  (longestCommon_isGreatest xs ys).2 ⟨zs, left, right, rfl⟩

/-! ## The rule of the table -/

theorem longestCommon_nil_left (ys : List Char) : longestCommon [] ys = 0 := by
  obtain ⟨zs, left, -, length⟩ := exists_common [] ys
  rw [← length, List.sublist_nil.mp left]
  rfl

theorem longestCommon_nil_right (xs : List Char) : longestCommon xs [] = 0 := by
  obtain ⟨zs, -, right, length⟩ := exists_common xs []
  rw [← length, List.sublist_nil.mp right]
  rfl

theorem dropLast_sublist (h : zs.Sublist (xs ++ [x])) : zs.dropLast.Sublist xs := by
  have reversed := h.reverse.tail
  rw [List.reverse_concat, List.tail_cons, List.tail_reverse] at reversed
  exact List.reverse_sublist.mp reversed

/-- A subsequence that does not end in the last character leaves it out. -/
theorem sublist_of_append_ne {z : Char} (h : (zs ++ [z]).Sublist (xs ++ [x])) (other : z ≠ x) :
    (zs ++ [z]).Sublist xs := by
  have reversed := h.reverse
  rw [List.reverse_concat, List.reverse_concat] at reversed
  cases reversed with
  | cons _ inside => simpa using inside.reverse
  | cons_cons _ _ => exact absurd rfl other

/-- What holds of prefixes goes over to the next entry of the table. -/
theorem longestCommon_append (xs ys : List Char) (x y : Char) :
    longestCommon (xs ++ [x]) (ys ++ [y]) =
      if x = y then longestCommon xs ys + 1
      else max (longestCommon xs (ys ++ [y])) (longestCommon (xs ++ [x]) ys) := by
  obtain ⟨zs, left, right, length⟩ := exists_common (xs ++ [x]) (ys ++ [y])
  split
  · rename_i same
    subst same
    refine Nat.le_antisymm ?_ ?_
    · have shorter := length_le_longestCommon (dropLast_sublist left) (dropLast_sublist right)
      rw [List.length_dropLast] at shorter
      omega
    · obtain ⟨ws, left, right, length⟩ := exists_common xs ys
      have longer := length_le_longestCommon (left.append_right [x]) (right.append_right [x])
      rw [List.length_append, length] at longer
      exact longer
  · rename_i differ
    refine Nat.le_antisymm ?_ (max_le ?_ ?_)
    · rw [← length]
      rcases List.eq_nil_or_concat' zs with rfl | ⟨ws, z, rfl⟩
      · exact Nat.zero_le _
      · -- the last character of a common subsequence is not the last of both texts
        by_cases last : z = x
        · subst last
          exact le_max_of_le_right
            (length_le_longestCommon left (sublist_of_append_ne right differ))
        · exact le_max_of_le_left
            (length_le_longestCommon (sublist_of_append_ne left last) right)
    · obtain ⟨ws, left, right, length⟩ := exists_common xs (ys ++ [y])
      exact length ▸ length_le_longestCommon (left.trans (List.sublist_append_left xs [x])) right
    · obtain ⟨ws, left, right, length⟩ := exists_common (xs ++ [x]) ys
      exact length ▸ length_le_longestCommon left (right.trans (List.sublist_append_left ys [y]))

/-! ## The table -/

/-- The row of a text against the prefixes of another, from behind one of them on. -/
noncomputable def rowOf (xs pre : List Char) : List Char → List Nat
  | [] => []
  | y :: ys => longestCommon xs (pre ++ [y]) :: rowOf xs (pre ++ [y]) ys

/-- A row is made from the one before it. -/
theorem nextRow_rowOf (xs pre ys : List Char) (x : Char) :
    nextRow x ys (rowOf xs pre ys) (longestCommon xs pre) (longestCommon (xs ++ [x]) pre) =
      rowOf (xs ++ [x]) pre ys := by
  induction ys generalizing pre with
  | nil => rfl
  | cons y ys ih =>
      rw [rowOf, nextRow, rowOf, ← longestCommon_append, ih]

theorem map_zero_eq_rowOf (pre ys : List Char) : (ys.map fun _ => 0) = rowOf [] pre ys := by
  induction ys generalizing pre with
  | nil => rfl
  | cons y ys ih => rw [List.map_cons, rowOf, longestCommon_nil_left, ← ih]

theorem foldl_nextRow (xs done ys : List Char) :
    xs.foldl (fun row x => nextRow x ys row 0 0) (rowOf done [] ys) = rowOf (done ++ xs) [] ys := by
  induction xs generalizing done with
  | nil => rw [List.append_nil]; rfl
  | cons x xs ih =>
      have next := nextRow_rowOf done [] ys x
      rw [longestCommon_nil_right, longestCommon_nil_right] at next
      rw [List.foldl_cons, next, ih, List.append_assoc]
      rfl

theorem getLastD_rowOf (xs pre ys : List Char) :
    (rowOf xs pre ys).getLastD (longestCommon xs pre) = longestCommon xs (pre ++ ys) := by
  induction ys generalizing pre with
  | nil => rw [List.append_nil]; rfl
  | cons y ys ih =>
      rw [rowOf, List.getLastD_cons, ih, List.append_assoc]
      rfl

/-- The table ends in the length of the longest common subsequence. -/
theorem commonLength_eq (xs ys : List Char) : commonLength xs ys = longestCommon xs ys := by
  have last := getLastD_rowOf xs [] ys
  rw [longestCommon_nil_right] at last
  rw [commonLength, map_zero_eq_rowOf [] ys, foldl_nextRow xs [] ys]
  exact last

/-! ## Likeness as a number -/

/-- Twice the length of the longest common subsequence, over the lengths together. -/
noncomputable def ratio (xs ys : List Char) : ℚ :=
  2 * longestCommon xs ys / (xs.length + ys.length)

/-- A fraction as the number it is. -/
def value (r : Nat × Nat) : ℚ :=
  r.1 / r.2

theorem likenessLe_iff {r s : Nat × Nat} (hr : 0 < r.2) (hs : 0 < s.2) :
    likenessLe r s = true ↔ value r ≤ value s := by
  have hr : (0 : ℚ) < r.2 := Nat.cast_pos.mpr hr
  have hs : (0 : ℚ) < s.2 := Nat.cast_pos.mpr hs
  rw [likenessLe, decide_eq_true_eq, value, value, div_le_div_iff₀ hr hs]
  exact_mod_cast Iff.rfl

theorem likeness_snd_pos (xs ys : List Char) : 0 < (likeness xs ys).2 := by
  unfold likeness
  split
  · exact Nat.one_pos
  · omega

theorem value_likeness (hchar : xs ≠ []) : value (likeness xs ys) = ratio xs ys := by
  have long : xs.length + ys.length ≠ 0 := by
    have := List.length_pos_iff.mpr hchar
    omega
  rw [likeness, if_neg long, commonLength_eq, value, ratio]
  push_cast
  rfl

end AsmView.Destination
