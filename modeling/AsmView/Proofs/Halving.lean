/-
# What searching by halves finds

Along a `Rising` list the low elements come first, then those that meet what is looked for,
then the high ones (`Parts`).  Each halving keeps the last element that is not high among
the places that are left open, so that is where the search ends: a search finds the last
element that meets what is looked for, and a boundary cuts the list where its low elements
end.
-/
import Mathlib.Data.List.TakeWhile
import AsmView.Halving

namespace AsmView.Halving

variable {α : Type} {order : α → Ordering} {xs : List α}

/-! ## Halving what is open -/

/-- The places that a search has left open, where `count` elements are not high: the last of
these is among them, or, when there is none, the first place of all. -/
structure Open (xs : List α) (count base size : Nat) : Prop where
  filled : 0 < size
  inside : base + size ≤ xs.length
  base_le : base ≤ count - 1
  le_end : count ≤ base + size

variable {count base size : Nat}

/-- Halving keeps the last element that is not high. -/
theorem Open.step (h : Open xs count base size)
    (high : ∀ {k x}, xs[k]? = some x → (order x = .gt ↔ count ≤ k)) (more : 1 < size) :
    Open xs count (step order xs base (base + size / 2)) (size - size / 2) := by
  obtain ⟨-, inside, hbase, hend⟩ := h
  have within : base + size / 2 < xs.length := by omega
  have side := high (List.getElem?_eq_getElem within)
  by_cases above : order xs[base + size / 2] = .gt
  · have stays : Halving.step order xs base (base + size / 2) = base := by
      simp [Halving.step, within, above]
    have := side.mp above
    rw [stays]
    constructor <;> omega
  · have goes : Halving.step order xs base (base + size / 2) = base + size / 2 := by
      simp [Halving.step, within, above]
    have := mt side.mpr above
    rw [goes]
    constructor <;> omega

/-- The search ends at the last element that is not high. -/
theorem Open.settle (h : Open xs count base size)
    (high : ∀ {k x}, xs[k]? = some x → (order x = .gt ↔ count ≤ k)) :
    settle order xs base size = count - 1 := by
  fun_induction Halving.settle order xs base size with
  | case1 base size single =>
      obtain ⟨filled, -, hbase, hend⟩ := h
      omega
  | case2 base size more ih => exact ih (h.step high (Nat.lt_of_not_le more))

/-! ## The parts of a list -/

/-- No low element stands behind one that is not, and none that is not high behind one
that is. -/
def Rising (order : α → Ordering) (xs : List α) : Prop :=
  xs.Pairwise fun x y => (order y = .lt → order x = .lt) ∧ (order x = .gt → order y = .gt)

/-- A list in three parts: the low elements, those that meet what is looked for, and the high
ones. -/
structure Parts (order : α → Ordering) (xs low met high : List α) : Prop where
  whole : xs = (low ++ met) ++ high
  low : ∀ x ∈ low, order x = .lt
  met : ∀ x ∈ met, order x = .eq
  high : ∀ x ∈ high, order x = .gt

theorem Rising.parts (rising : Rising order xs) :
    Parts order xs (xs.filter (order · = .lt)) (xs.filter (order · = .eq))
      (xs.filter (order · = .gt)) := by
  refine ⟨?_, by simp, by simp, by simp⟩
  induction xs with
  | nil => rfl
  | cons x xs ih =>
      obtain ⟨before, rest⟩ := List.pairwise_cons.mp rising
      have rest := ih rest
      cases here : order x with
      | lt => simpa [here] using rest
      | eq =>
          have hlow : xs.filter (order · = .lt) = [] := by
            simpa [here] using fun y hy => (before y hy).1
          rw [hlow, List.nil_append] at rest
          simpa [here, hlow] using rest
      | gt =>
          have hhigh : ∀ y ∈ xs, order y = .gt := fun y hy => (before y hy).2 here
          have hlow : xs.filter (order · = .lt) = [] := by
            simpa using fun y hy => by simp [hhigh y hy]
          have hmeets : xs.filter (order · = .eq) = [] := by
            simpa using fun y hy => by simp [hhigh y hy]
          rw [hlow, hmeets, List.nil_append, List.nil_append] at rest
          simpa [here, hlow, hmeets] using rest

variable {low met high : List α}

/-- The high elements stand behind the others. -/
theorem Parts.high_iff (h : Parts order xs low met high) {k : Nat} {x : α}
    (there : xs[k]? = some x) : order x = .gt ↔ (low ++ met).length ≤ k := by
  rw [h.whole] at there
  by_cases hfront : k < (low ++ met).length
  · rw [List.getElem?_append_left hfront] at there
    refine iff_of_false (fun above => ?_) (Nat.not_le.mpr hfront)
    rcases List.mem_append.mp (List.mem_of_getElem? there) with hlow | meets
    · exact nomatch (h.low x hlow).symm.trans above
    · exact nomatch (h.met x meets).symm.trans above
  · have behind := Nat.not_lt.mp hfront
    rw [List.getElem?_append_right behind] at there
    exact iff_of_true (h.high x (List.mem_of_getElem? there)) behind

theorem Parts.settle_eq (h : Parts order xs low met high) (filled : xs ≠ []) :
    settle order xs 0 xs.length = (low ++ met).length - 1 := by
  have whole : xs.length = (low ++ met).length + high.length := by
    rw [h.whole, List.length_append]
  have all : Open xs (low ++ met).length 0 xs.length :=
    ⟨List.length_pos_iff.mpr filled, by omega, Nat.zero_le _, by omega⟩
  exact all.settle h.high_iff

/-- The last of the elements that are not high stands there. -/
theorem Parts.getElem?_last (h : Parts order xs low met high) (filled : low ++ met ≠ []) :
    xs[(low ++ met).length - 1]? = (low ++ met).getLast? := by
  have within : (low ++ met).length - 1 < (low ++ met).length :=
    Nat.sub_one_lt (Nat.ne_of_gt (List.length_pos_iff.mpr filled))
  rw [List.getLast?_eq_getElem?, h.whole]
  exact List.getElem?_append_left within

theorem Parts.ne_nil (h : Parts order xs low met high) (filled : low ++ met ≠ []) : xs ≠ [] := by
  rw [h.whole]
  exact List.append_ne_nil_of_left_ne_nil filled high

/-! ## What is found -/

/-- Of the elements that meet what is looked for the search comes to the last. -/
theorem Parts.locate_of_met (h : Parts order xs low met high) (filled : met ≠ []) :
    locate order xs = .ok ((low ++ met).length - 1) ∧
      xs[(low ++ met).length - 1]? = met.getLast? := by
  have nonempty : low ++ met ≠ [] := List.append_ne_nil_of_right_ne_nil low filled
  have there : xs[(low ++ met).length - 1]? = some (met.getLast filled) := by
    rw [h.getElem?_last nonempty, List.getLast?_append, List.getLast?_eq_some_getLast filled,
      Option.some_or]
  have meets := h.met _ (List.getLast_mem filled)
  refine ⟨?_, by rw [there, List.getLast?_eq_some_getLast filled]⟩
  simp only [locate, h.settle_eq (h.ne_nil nonempty), there, Option.map_some, meets]

/-- Where none meets it, its place is behind the low elements. -/
theorem Parts.locate_of_none (h : Parts order xs low [] high) :
    locate order xs = .error low.length := by
  cases low with
  | nil =>
      have whole : xs = high := h.whole
      cases high with
      | nil => simp [locate, whole]
      | cons x high =>
          have first : settle order xs 0 xs.length = 0 := h.settle_eq (by simp [whole])
          have there : xs[0]? = some x := by rw [whole]; rfl
          have above := h.high x List.mem_cons_self
          simp only [locate, first, there, Option.map_some, above, List.length_nil]
  | cons x low =>
      have nonempty : x :: low ++ [] ≠ [] := List.cons_ne_nil x _
      have there := h.getElem?_last nonempty
      have place := h.settle_eq (h.ne_nil nonempty)
      have below := h.low _ (List.getLast_mem (List.cons_ne_nil x low))
      rw [List.append_nil] at there place
      rw [List.getLast?_eq_some_getLast (List.cons_ne_nil x low)] at there
      simp only [locate, place, there, Option.map_some, below]
      rfl

/-- A search finds the last element that meets what is looked for. -/
theorem Rising.find?_eq (rising : Rising order xs) :
    find? order xs = (xs.filter (order · = .eq)).getLast? := by
  have parts := rising.parts
  by_cases absent : xs.filter (order · = .eq) = []
  · rw [absent] at parts ⊢
    rw [find?, parts.locate_of_none]
    rfl
  · obtain ⟨found, last⟩ := parts.locate_of_met absent
    rw [find?, found]
    exact last

section Boundary

variable {isLow : α → Bool} (falls : xs.Pairwise fun x y => isLow y = true → isLow x = true)
include falls

/-- From the first element on that is not low, none is. -/
theorem isLow_of_mem_dropWhile {x : α} (hx : x ∈ xs.dropWhile isLow) : isLow x = false := by
  have first := List.head?_dropWhile_not isLow xs
  have ordered := falls.sublist (List.dropWhile_sublist isLow)
  cases cut : xs.dropWhile isLow with
  | nil =>
      rw [cut] at hx
      exact nomatch hx
  | cons y rest =>
      rw [cut] at hx first ordered
      rcases List.mem_cons.mp hx with rfl | later
      · exact first
      · refine Bool.eq_false_iff.mpr fun low => ?_
        exact Bool.false_ne_true (first.symm.trans ((List.pairwise_cons.mp ordered).1 x later low))

/-- A boundary stands where the low elements end. -/
theorem drop_boundary : xs.drop (boundary isLow xs) = xs.dropWhile isLow := by
  have parts : Parts (fun x => if isLow x then .lt else .gt) xs (xs.takeWhile isLow) []
      (xs.dropWhile isLow) := by
    refine ⟨by simp, fun x hx => ?_, nofun, fun x hx => ?_⟩
    · exact if_pos (List.mem_takeWhile_imp hx)
    · simp [isLow_of_mem_dropWhile falls hx]
  rw [boundary, parts.locate_of_none]
  calc xs.drop (xs.takeWhile isLow).length
      = (xs.takeWhile isLow ++ xs.dropWhile isLow).drop (xs.takeWhile isLow).length := by
        rw [List.takeWhile_append_dropWhile]
    _ = xs.dropWhile isLow := List.drop_left

end Boundary

end AsmView.Halving
