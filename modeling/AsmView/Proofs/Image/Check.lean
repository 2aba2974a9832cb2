/-
# What the check of an image decides

The image law speaks of bytes: which of them a function takes up, counted as numbers
without a bound.  The check speaks of addresses, compares neighbours only, and reports
the first breach it meets.  `breach?_eq_none` says what it decides by finding none.

* Neighbours are enough.  The ranges are sorted by their starts and none of them is
  empty, so a range that stays clear of the next one stays clear of all behind it.
* The end of an instruction is compared with the next address, and an end that is no
  address lies beyond every address; there nothing is lost.
* The end of a function is different.  A function that takes up the last byte there is
  has no end, so it has no range either: it may overlap others, and an entry in it is
  refused.  `EndsInside` excludes such functions; with them an image may pass that breaks
  the law, as `crowdedTop` does.
-/
import Mathlib.Data.List.Chain
import AsmView.Image.Check
import AsmView.Proofs.Line

namespace AsmView

open Text

/-! ## Ends of instructions and functions -/

/-- An end that is an address, as a number. -/
theorem Instruction.end?_eq_some_iff {i : Instruction} {a : Address} :
    i.end? = some a ↔ i.endNat = a.toNat :=
  Address.ofNat?_eq_some_iff

/-- The end of an instruction is an address, or lies behind all addresses. -/
theorem Instruction.end?_cases (i : Instruction) :
    (∃ e, i.end? = some e ∧ i.endNat = e.toNat) ∨ (i.end? = none ∧ ¬ i.endNat < UInt64.size) := by
  cases ends : i.end? with
  | some e => exact .inl ⟨e, rfl, end?_eq_some_iff.mp ends⟩
  | none =>
      refine .inr ⟨rfl, ?_⟩
      intro fits
      have advanced : i.end? = some ⟨i.endNat.toUInt64⟩ := if_pos fits
      exact nomatch ends.symm.trans advanced

/-- An end that is no address lies behind every address. -/
theorem Instruction.end?_any_le {i : Instruction} {a : Address} :
    i.end?.any (· ≤ a) = true ↔ i.endNat ≤ a.toNat := by
  rcases i.end?_cases with ⟨e, ends, same⟩ | ⟨ends, beyond⟩
  · simp [ends, same, Address.le_iff]
  · have bound : a.toNat < UInt64.size := a.value.toNat_lt
    simp only [ends, Option.any_none, Bool.false_eq_true, false_iff]
    omega

/-- An instruction takes up a byte at least. -/
theorem Instruction.address_lt_endNat (i : Instruction) : i.address.toNat < i.endNat :=
  Nat.lt_add_of_pos_right (Nat.le_max_right _ 1)

namespace Routine

/-- The function takes up the byte with a number: it lies between the first instruction
and the end of the last one. -/
def Occupies (f : Routine) (n : Nat) : Prop :=
  ∃ first last, f.instructions.head? = some first ∧ f.instructions.getLast? = some last ∧
    first.address.toNat ≤ n ∧ n < last.endNat

/-- Behind the function there is another address. -/
def EndsInside (f : Routine) : Prop :=
  ∀ last, f.instructions.getLast? = some last → last.endNat < UInt64.size

/-- Each instruction ends at or before the next one's address. -/
def Ordered (f : Routine) : Prop :=
  f.instructions.IsChain fun i j => i.endNat ≤ j.address.toNat

/-- An ordered function that has an instruction takes up a byte. -/
theorem Ordered.occupies {f : Routine} (ordered : f.Ordered) {first : Instruction}
    (head : f.instructions.head? = some first) : f.Occupies first.address.toNat := by
  have reach : ∀ (rest : List Instruction) (i : Instruction),
      (i :: rest).IsChain (fun i j => i.endNat ≤ j.address.toNat) →
      ∃ last, (i :: rest).getLast? = some last ∧ i.address.toNat < last.endNat := by
    intro rest
    induction rest with
    | nil => exact fun i _ => ⟨i, rfl, i.address_lt_endNat⟩
    | cons j rest ih =>
        intro i chain
        obtain ⟨clear, chain⟩ := List.isChain_cons_cons.mp chain
        obtain ⟨last, tail, before⟩ := ih j chain
        refine ⟨last, tail, ?_⟩
        have := i.address_lt_endNat
        omega
  unfold Ordered at ordered
  cases instructions : f.instructions with
  | nil => simp [instructions] at head
  | cons i rest =>
      rw [instructions] at head ordered
      obtain rfl := Option.some.inj head
      obtain ⟨last, tail, before⟩ := reach rest i ordered
      exact ⟨i, last, by rw [instructions]; rfl, by rw [instructions, tail], Nat.le_refl _, before⟩

end Routine

namespace Image

/-- The image law, as far as the ranges of functions are concerned with those that
count. -/
structure Lawful (counts : Routine → Prop) (img : Image) : Prop where
  named : ∀ f ∈ img.routines, isBlankText f.name = false
  ordered : ∀ f ∈ img.routines, f.Ordered
  apart : img.routines.Pairwise fun f g =>
    counts f → counts g → ∀ n, f.Occupies n → ¬ g.Occupies n
  entered : ∀ e, img.entry = some e → ∃ f ∈ img.routines, counts f ∧ f.Occupies e.toNat

/-! ## A function on its own -/

theorem overlappingPair?_eq_none_iff (is : List Instruction) :
    overlappingPair? is = none ↔ is.IsChain fun i j => i.endNat ≤ j.address.toNat := by
  fun_induction overlappingPair? is with
  | case1 i j rest clear ih =>
      rw [ih, List.isChain_cons_cons, and_iff_right (Instruction.end?_any_le.mp clear)]
  | case2 i j rest overlaps =>
      rw [List.isChain_cons_cons, ← Instruction.end?_any_le]
      simp [overlaps]
  | case3 is short =>
      match is with
      | [] => simp
      | [i] => simp
      | i :: j :: rest => exact absurd rfl (short i j rest)

theorem routineBreach?_eq_none_iff (f : Routine) :
    routineBreach? f = none ↔ isBlankText f.name = false ∧ f.Ordered := by
  unfold routineBreach?
  cases isBlankText f.name with
  | true => simp
  | false => simp [overlappingPair?_eq_none_iff, Routine.Ordered]

/-! ## Functions beside each other -/

/-- The range of a function, if it has one. -/
def spanOf? (f : Routine) : Option Span :=
  match f.start?, f.stop? with
  | some start, some stop => some ⟨start, stop, f.name⟩
  | _, _ => none

/-- The range takes up the byte with a number. -/
def Span.Occupies (r : Span) (n : Nat) : Prop :=
  r.start.toNat ≤ n ∧ n < r.stop.toNat

/-- The range takes up a byte at least. -/
def Span.Proper (r : Span) : Prop :=
  r.start.toNat < r.stop.toNat

/-- The starts ascend, so a range that ends before the next one starts ends before any
further one does. -/
theorem overlappingSpans?_eq_none_iff {rs : List Span}
    (sorted : rs.Pairwise fun r s => r.start.toNat ≤ s.start.toNat) :
    overlappingSpans? rs = none ↔ rs.Pairwise fun r s => r.stop.toNat ≤ s.start.toNat := by
  fun_induction overlappingSpans? rs with
  | case1 r s rest overlaps =>
      have reaches : s.start.toNat < r.stop.toNat := overlaps
      simp only [reduceCtorEq, List.pairwise_cons, false_iff]
      rintro ⟨clear, -⟩
      have := clear s List.mem_cons_self
      omega
  | case2 r s rest clear ih =>
      obtain ⟨-, sorted⟩ := List.pairwise_cons.mp sorted
      have stops : r.stop.toNat ≤ s.start.toNat := Nat.le_of_not_lt clear
      rw [ih sorted, List.pairwise_cons (l := s :: rest), and_iff_right]
      intro t ht
      rcases List.mem_cons.mp ht with rfl | ht
      · exact stops
      · exact stops.trans ((List.pairwise_cons.mp sorted).1 t ht)
  | case3 rs short =>
      match rs with
      | [] => simp
      | [r] => simp
      | r :: s :: rest => exact absurd rfl (short r s rest)

/-- Of two ranges in the order of their starts, the first one stays clear of the second
exactly when they have no byte in common. -/
theorem Span.apart_iff {r s : Span} (sorted : r.start.toNat ≤ s.start.toNat) (proper : s.Proper) :
    r.stop.toNat ≤ s.start.toNat ↔ ∀ n, r.Occupies n → ¬ s.Occupies n := by
  constructor
  · intro clear n first second
    have := first.2
    have := second.1
    omega
  · intro apart
    by_contra reaches
    exact apart s.start.toNat ⟨sorted, by omega⟩ ⟨Nat.le_refl _, proper⟩

theorem sorted_sortedSpans (fs : List Routine) :
    (sortedSpans fs).Pairwise fun r s => r.start.toNat ≤ s.start.toNat := by
  have sorted : (sortedSpans fs).Pairwise fun r s => decide (r.start ≤ s.start) = true := by
    refine List.pairwise_mergeSort (fun r s t => ?_) (fun r s => ?_) _
    · simp only [decide_eq_true_eq, Address.le_iff]
      exact Nat.le_trans
    · simp only [Bool.or_eq_true, decide_eq_true_eq, Address.le_iff]
      exact Nat.le_total _ _
  exact sorted.imp fun h => of_decide_eq_true h

/-- Sorting is no matter to what the ranges have in common. -/
theorem overlappingSpans?_sortedSpans {fs : List Routine}
    (proper : ∀ r ∈ spans fs, r.Proper) :
    overlappingSpans? (sortedSpans fs) = none ↔
      (spans fs).Pairwise fun r s => ∀ n, r.Occupies n → ¬ s.Occupies n := by
  have perm : (sortedSpans fs).Perm (spans fs) := List.mergeSort_perm _ _
  have sorted := sorted_sortedSpans fs
  have symmetric : ∀ {r s : Span}, (∀ n, r.Occupies n → ¬ s.Occupies n) →
      ∀ n, s.Occupies n → ¬ r.Occupies n := fun apart n second first => apart n first second
  rw [overlappingSpans?_eq_none_iff sorted, ← perm.pairwise_iff symmetric]
  constructor
  · intro clear
    refine (sorted.and clear).imp_of_mem fun {r s} _ hs h => ?_
    exact (Span.apart_iff h.1 (proper s (perm.mem_iff.mp hs))).mp h.2
  · intro apart
    refine (sorted.and apart).imp_of_mem fun {r s} _ hs h => ?_
    exact (Span.apart_iff h.1 (proper s (perm.mem_iff.mp hs))).mpr h.2

/-! ## Ranges of functions -/

/-- A function has a range when it has an instruction and ends inside, and its range takes
up the bytes that the function does. -/
theorem spanOf?_eq_some {f : Routine} {r : Span} (h : spanOf? f = some r) :
    f.EndsInside ∧ ∀ n, r.Occupies n ↔ f.Occupies n := by
  unfold spanOf? Routine.start? Routine.stop? at h
  cases head : f.instructions.head? with
  | none => simp [head] at h
  | some first =>
      cases last : f.instructions.getLast? with
      | none => simp [head, last] at h
      | some i =>
          cases stop : i.end? with
          | none => simp [head, last, stop] at h
          | some e =>
              simp only [head, last, Option.map_some, Option.bind_some, stop,
                Option.some.injEq] at h
              subst h
              have ends := Instruction.end?_eq_some_iff.mp stop
              refine ⟨?_, fun n => ?_⟩
              · intro j hj
                obtain rfl : i = j := Option.some.inj (last.symm.trans hj)
                rw [ends]
                exact e.value.toNat_lt
              · simp [Span.Occupies, Routine.Occupies, head, last, ends]

theorem spanOf?_isSome {f : Routine} {n : Nat} (inside : f.EndsInside) (occupied : f.Occupies n) :
    ∃ r, spanOf? f = some r := by
  obtain ⟨first, last, head, tail, -, -⟩ := occupied
  have stop : last.end? = some ⟨last.endNat.toUInt64⟩ := if_pos (inside last tail)
  exact ⟨_, by simp [spanOf?, Routine.start?, Routine.stop?, head, tail, stop]; rfl⟩

theorem proper_of_ordered {f : Routine} (ordered : f.Ordered) {r : Span}
    (h : spanOf? f = some r) : r.Proper := by
  have same := (spanOf?_eq_some h).2
  unfold spanOf? Routine.start? at h
  cases head : f.instructions.head? with
  | none => simp [head] at h
  | some first =>
      obtain ⟨low, high⟩ := (same _).mpr (ordered.occupies head)
      exact Nat.lt_of_le_of_lt low high

/-- An address is found in a function that ends inside and takes it up. -/
theorem contains_iff {f : Routine} {a : Address} :
    f.contains a = true ↔ f.EndsInside ∧ f.Occupies a.toNat := by
  have spanned : f.contains a = true ↔ ∃ r, spanOf? f = some r ∧ r.Occupies a.toNat := by
    unfold Routine.contains spanOf?
    cases f.start? with
    | none => simp
    | some start =>
        cases f.stop? with
        | none => simp
        | some stop => simp [Span.Occupies, Address.le_iff, Address.lt_iff]
  rw [spanned]
  constructor
  · rintro ⟨r, span, occupied⟩
    obtain ⟨inside, same⟩ := spanOf?_eq_some span
    exact ⟨inside, (same _).mp occupied⟩
  · rintro ⟨inside, occupied⟩
    obtain ⟨r, span⟩ := spanOf?_isSome inside occupied
    exact ⟨r, span, ((spanOf?_eq_some span).2 _).mpr occupied⟩

theorem apart_spans_iff (fs : List Routine) :
    ((spans fs).Pairwise fun r s => ∀ n, r.Occupies n → ¬ s.Occupies n) ↔
      fs.Pairwise fun f g =>
        f.EndsInside → g.EndsInside → ∀ n, f.Occupies n → ¬ g.Occupies n := by
  rw [show spans fs = fs.filterMap spanOf? from rfl, List.pairwise_filterMap]
  refine List.Pairwise.iff fun f g => ?_
  constructor
  · intro apart inside inside' n occupied occupied'
    obtain ⟨r, span⟩ := spanOf?_isSome inside occupied
    obtain ⟨s, span'⟩ := spanOf?_isSome inside' occupied'
    exact apart r span s span' n (((spanOf?_eq_some span).2 n).mpr occupied)
      (((spanOf?_eq_some span').2 n).mpr occupied')
  · intro apart r span s span' n occupied occupied'
    obtain ⟨inside, same⟩ := spanOf?_eq_some span
    obtain ⟨inside', same'⟩ := spanOf?_eq_some span'
    exact apart inside inside' n ((same n).mp occupied) ((same' n).mp occupied')

theorem strayEntryBreach?_eq_none_iff (img : Image) :
    strayEntryBreach? img = none ↔
      ∀ e, img.entry = some e → ∃ f ∈ img.routines, f.EndsInside ∧ f.Occupies e.toNat := by
  unfold strayEntryBreach?
  cases img.entry with
  | none => simp
  | some e => simp [contains_iff]

/-! ## The image law -/

/-- The check finds nothing exactly when the law holds, with the ranges of those functions
that end inside. -/
theorem breach?_eq_none_iff (img : Image) :
    img.breach? = none ↔ img.Lawful Routine.EndsInside := by
  have proper : (∀ f ∈ img.routines, f.Ordered) → ∀ r ∈ spans img.routines, r.Proper := by
    intro ordered r hr
    obtain ⟨f, hf, span⟩ := List.mem_filterMap.mp hr
    exact proper_of_ordered (ordered f hf) span
  simp only [breach?, Option.or_eq_none_iff, List.findSome?_eq_none_iff,
    routineBreach?_eq_none_iff, strayEntryBreach?_eq_none_iff]
  constructor
  · rintro ⟨own, beside, entered⟩
    have ordered : ∀ f ∈ img.routines, f.Ordered := fun f hf => (own f hf).2
    rw [overlappingSpans?_sortedSpans (proper ordered), apart_spans_iff] at beside
    exact ⟨fun f hf => (own f hf).1, ordered, beside, entered⟩
  · intro lawful
    refine ⟨fun f hf => ⟨lawful.named f hf, lawful.ordered f hf⟩, ?_, lawful.entered⟩
    rw [overlappingSpans?_sortedSpans (proper lawful.ordered), apart_spans_iff]
    exact lawful.apart

/-- What the check decides.  Where every function ends inside, that is the image law. -/
theorem breach?_eq_none (img : Image) :
    (img.breach? = none ↔ img.Lawful Routine.EndsInside) ∧
      ((∀ f ∈ img.routines, f.EndsInside) →
        (img.breach? = none ↔ img.Lawful fun _ => True)) := by
  refine ⟨breach?_eq_none_iff img, fun inside => ?_⟩
  rw [breach?_eq_none_iff]
  constructor
  · intro lawful
    refine ⟨lawful.named, lawful.ordered, ?_, ?_⟩
    · refine lawful.apart.imp_of_mem fun {f g} hf hg apart _ _ => ?_
      exact apart (inside f hf) (inside g hg)
    · intro e entry
      obtain ⟨f, hf, -, occupied⟩ := lawful.entered e entry
      exact ⟨f, hf, trivial, occupied⟩
  · intro lawful
    refine ⟨lawful.named, lawful.ordered, ?_, ?_⟩
    · exact lawful.apart.imp fun apart _ _ => apart trivial trivial
    · intro e entry
      obtain ⟨f, hf, -, occupied⟩ := lawful.entered e entry
      exact ⟨f, hf, inside f hf, occupied⟩

/-- Two functions, the second of which takes up the last byte but one and is entered
there. -/
def nearTop : Image where
  name := "near the top"
  entry := some ⟨0xfffffffffffffffe⟩
  routines := [
    { name := "low", instructions := [{ address := ⟨0x1000⟩, bytes := "31c0", text := "xor" }] },
    { name := "high"
      instructions := [
        { address := ⟨0xfffffffffffffffd⟩, text := "nop" },
        { address := ⟨0xfffffffffffffffe⟩, text := "ret" }] }]

theorem breach?_eq_none_nearTop :
    (∀ f ∈ nearTop.routines, f.EndsInside) ∧ nearTop.Lawful fun _ => True := by
  have inside : ∀ f ∈ nearTop.routines, f.EndsInside := by
    intro f hf last tail
    rcases List.mem_cons.mp hf with rfl | hf
    · obtain rfl := Option.some.inj tail
      decide
    · obtain rfl := List.mem_singleton.mp hf
      obtain rfl := Option.some.inj tail
      decide
  refine ⟨inside, ((breach?_eq_none nearTop).2 inside).mp ?_⟩
  rw [breach?, sortedSpans, List.mergeSort_of_pairwise (by decide)]
  decide

/-- Two functions that have a byte in common, of which the first also takes up the last
byte there is. -/
def crowdedTop : Image where
  name := "top"
  routines := [
    { name := "f"
      instructions := [
        { address := ⟨0xfffffffffffffffe⟩, text := "nop" },
        { address := ⟨0xffffffffffffffff⟩, text := "ret" }] },
    { name := "g", instructions := [{ address := ⟨0xfffffffffffffffe⟩, text := "ret" }] }]

/-- The check lets an image pass that breaks the law. -/
theorem crowdedTop_passes :
    crowdedTop.breach? = none ∧ ¬ crowdedTop.Lawful fun _ => True := by
  constructor
  · rw [breach?, sortedSpans, List.mergeSort_of_pairwise (by decide)]
    decide
  · intro lawful
    obtain ⟨apart, -⟩ := List.pairwise_cons.mp lawful.apart
    refine apart _ (List.mem_singleton.mpr rfl) trivial trivial 0xfffffffffffffffe ?_ ?_
    · exact ⟨_, _, rfl, rfl, by decide, by decide⟩
    · exact ⟨_, _, rfl, rfl, by decide, by decide⟩

end Image

end AsmView
