/-
# References have two ends

The references out of a function are found by going through its own instructions, those into
it by going through the instructions of all others, and the second list is sorted.  In an
image that passes the check and whose functions all have an end the two agree: between two
functions, the references out of the one are the references into the other, each as often and
in the same order.  `references_dual` says so.  It rests on two facts: no two functions have
an address in common, so where a reference comes from tells the function; and a list that is
sorted already stands in the same order in any list that is sorted with it.
-/
import Mathlib.Data.List.Perm.Basic
import AsmView.Proofs.Loaded.Accepted

namespace AsmView

open Routine

namespace Loaded

variable {f g : Routine} {wanted : Address → Bool}

/-! ## The references of a function -/

/-- A reference comes from an instruction and leads to its target. -/
theorem instruction_of_reference {r : Reference} (h : r ∈ referencesOf f wanted) :
    ∃ i ∈ f.instructions, i.address = r.source ∧ wanted r.target = true := by
  obtain ⟨i, hi, made⟩ := List.mem_filterMap.mp h
  obtain ⟨target, given, rfl⟩ := Option.map_eq_some_iff.mp made
  exact ⟨i, hi, rfl, (Option.filter_eq_some_iff.mp given).2⟩

/-- References are picked by their targets before or after they are listed. -/
theorem filter_referencesOf (f : Routine) (wanted also : Address → Bool) :
    (referencesOf f wanted).filter (also ·.target) =
      referencesOf f fun a => wanted a && also a := by
  unfold referencesOf
  rw [List.filter_filterMap]
  refine List.filterMap_congr fun i _ => ?_
  cases i.target with
  | none => rfl
  | some target =>
      cases given : wanted target <;> cases chosen : also target <;>
        simp [Option.filter, given, chosen]

/-- The references of an ordered function are in the order of their sources. -/
theorem sorted_referencesOf (ordered : f.Ordered) (wanted : Address → Bool) :
    (referencesOf f wanted).Pairwise fun r s => r.source ≤ s.source := by
  refine List.pairwise_filterMap.mpr (ordered.ascending.imp fun {i j} before r made s made' => ?_)
  obtain ⟨_, -, rfl⟩ := Option.map_eq_some_iff.mp made
  obtain ⟨_, -, rfl⟩ := Option.map_eq_some_iff.mp made'
  exact Nat.le_of_lt before

theorem source_le_trans (r s t : Reference) (h : decide (r.source ≤ s.source) = true)
    (h' : decide (s.source ≤ t.source) = true) : decide (r.source ≤ t.source) = true :=
  decide_eq_true (Nat.le_trans (of_decide_eq_true h) (of_decide_eq_true h'))

theorem source_le_total (r s : Reference) :
    (decide (r.source ≤ s.source) || decide (s.source ≤ r.source)) = true := by
  simp only [Bool.or_eq_true, decide_eq_true_eq, Address.le_iff]
  exact Nat.le_total _ _

/-! ## References by the function they come from -/

/-- A function makes its references from addresses it contains. -/
theorem filter_source_self (ordered : f.Ordered) (inside : f.EndsInside)
    (wanted : Address → Bool) :
    (referencesOf f wanted).filter (f.contains ·.source) = referencesOf f wanted := by
  refine List.filter_eq_self.mpr fun r hr => ?_
  obtain ⟨i, hi, place, -⟩ := instruction_of_reference hr
  exact place ▸ ordered.contains_address inside hi

/-- A function that lies apart makes no reference from there. -/
theorem filter_source_apart (ordered : g.Ordered) (inside : g.EndsInside) (apart : g.Apart f)
    (wanted : Address → Bool) : (referencesOf g wanted).filter (f.contains ·.source) = [] := by
  refine List.filter_eq_nil_iff.mpr fun r hr => ?_
  obtain ⟨i, hi, place, -⟩ := instruction_of_reference hr
  exact place ▸ apart i.address (ordered.contains_address inside hi)

/-- Of the references of functions that lie apart, those from one function are its own. -/
theorem filter_source_flatMap {fs : List Routine} (ordered : ∀ g ∈ fs, g.Ordered)
    (inside : ∀ g ∈ fs, g.EndsInside) (apart : fs.Pairwise Apart) (hf : f ∈ fs)
    (wanted : Address → Bool) :
    (fs.flatMap (referencesOf · wanted)).filter (f.contains ·.source) =
      referencesOf f wanted := by
  obtain ⟨before, after, rfl⟩ := List.append_of_mem hf
  have nothing : ∀ gs : List Routine, (∀ g ∈ gs, g.Ordered ∧ g.EndsInside ∧ g.Apart f) →
      (gs.flatMap (referencesOf · wanted)).filter (f.contains ·.source) = [] := by
    intro gs all
    rw [List.filter_flatMap, List.flatMap_eq_nil_iff]
    intro g hg
    obtain ⟨ordered, inside, apart⟩ := all g hg
    exact filter_source_apart ordered inside apart wanted
  obtain ⟨-, behind, ahead⟩ := List.pairwise_append.mp apart
  have left := nothing before fun g hg =>
    ⟨ordered g (List.mem_append_left _ hg), inside g (List.mem_append_left _ hg),
      ahead g hg f List.mem_cons_self⟩
  have right := nothing after fun g hg =>
    ⟨ordered g (by simp [hg]), inside g (by simp [hg]),
      ((List.pairwise_cons.mp behind).1 g hg).symm⟩
  rw [List.flatMap_append, List.flatMap_cons, List.filter_append, List.filter_append, left, right,
    filter_source_self (ordered f hf) (inside f hf), List.nil_append, List.append_nil]

/-- What stands in order already keeps its order when it is sorted with other things. -/
theorem filter_mergeSort {α : Type} {le : α → α → Bool}
    (trans : ∀ x y z, le x y = true → le y z = true → le x z = true)
    (total : ∀ x y, (le x y || le y x) = true) {xs : List α} {p : α → Bool}
    (sorted : (xs.filter p).Pairwise fun x y => le x y = true) :
    (xs.mergeSort le).filter p = xs.filter p := by
  have kept : (xs.filter p).Sublist (xs.mergeSort le) :=
    List.sublist_mergeSort trans total sorted List.filter_sublist
  have inside : (xs.filter p).Sublist ((xs.mergeSort le).filter p) := by
    have filtered := kept.filter p
    simpa only [List.filter_filter, Bool.and_self] using filtered
  exact (inside.eq_of_length (((List.mergeSort_perm xs le).filter p).length_eq.symm)).symm

/-! ## The references at an address -/

variable {l m : Loaded} {a : Address}

theorem SameImage.referencesAt (h : l.SameImage m) (a : Address) (direction : Direction) :
    m.referencesAt a direction = l.referencesAt a direction := by
  simp only [Loaded.referencesAt, ownerOf?, h.image]

theorem referencesAt_unowned (unowned : l.ownerOf? a = none) (direction : Direction) :
    l.referencesAt a direction = [] := by
  rw [referencesAt, unowned]
  split
  · rename_i owner
    cases owner
  · rfl

theorem referencesAt_outgoing (owner : l.ownerOf? a = some f) :
    l.referencesAt a .outgoing = referencesOf f (!f.contains ·) := by
  obtain ⟨i, place, -⟩ := findIdx?_of_find? owner
  rw [referencesAt, place, owner]

theorem referencesAt_incoming (owner : l.ownerOf? a = some f) :
    ∃ others, l.image.routines.Perm (f :: others) ∧
      l.referencesAt a .incoming =
        (others.flatMap (referencesOf · f.contains)).mergeSort fun r s => r.source ≤ s.source := by
  obtain ⟨i, place, found⟩ := findIdx?_of_find? owner
  obtain ⟨hi, rfl⟩ := List.getElem?_eq_some_iff.mp found
  refine ⟨l.image.routines.eraseIdx i, (List.getElem_cons_eraseIdx_perm hi).symm, ?_⟩
  rw [referencesAt, place, owner]

/-- The references at an address are in the order of their sources. -/
theorem sorted_referencesAt (ordered : ∀ f ∈ l.image.routines, f.Ordered) (a : Address)
    (direction : Direction) :
    (l.referencesAt a direction).Pairwise fun r s => r.source ≤ s.source := by
  cases owner : l.ownerOf? a with
  | none =>
      rw [referencesAt_unowned owner]
      exact .nil
  | some f =>
      cases direction with
      | outgoing =>
          rw [referencesAt_outgoing owner]
          exact sorted_referencesOf (ordered f (mem_of_ownerOf? owner)) _
      | incoming =>
          obtain ⟨others, -, into⟩ := referencesAt_incoming owner
          rw [into]
          exact (List.pairwise_mergeSort source_le_trans source_le_total _).imp of_decide_eq_true

/-- No reference at an address has both ends in the function there. -/
theorem crosses_of_referencesAt (lawful : ∀ f ∈ l.image.routines, f.Ordered ∧ f.EndsInside)
    (apart : l.image.routines.Pairwise Apart) (owner : l.ownerOf? a = some f)
    {direction : Direction} {r : Reference} (hr : r ∈ l.referencesAt a direction) :
    ¬ (f.contains r.source = true ∧ f.contains r.target = true) := by
  rintro ⟨source, target⟩
  cases direction with
  | outgoing =>
      rw [referencesAt_outgoing owner] at hr
      obtain ⟨-, -, -, leaves⟩ := instruction_of_reference hr
      simp [target] at leaves
  | incoming =>
      obtain ⟨others, whole, into⟩ := referencesAt_incoming owner
      rw [into] at hr
      obtain ⟨g, hg, made⟩ := List.mem_flatMap.mp (List.mem_mergeSort.mp hr)
      obtain ⟨i, hi, place, -⟩ := instruction_of_reference made
      obtain ⟨ordered, inside⟩ := lawful g (whole.mem_iff.mpr (List.mem_cons_of_mem f hg))
      have beside := List.pairwise_cons.mp ((whole.pairwise_iff Apart.symm).mp apart)
      exact beside.1 g hg r.source source (place ▸ ordered.contains_address inside hi)

/-- Between two functions, the references out of the one are those into the other. -/
theorem filter_outgoing_eq_incoming (lawful : ∀ f ∈ l.image.routines, f.Ordered ∧ f.EndsInside)
    (apart : l.image.routines.Pairwise Apart) {x y : Address} (owner : l.ownerOf? x = some f)
    (owner' : l.ownerOf? y = some g) (distinct : f ≠ g) :
    (l.referencesAt x .outgoing).filter (g.contains ·.target) =
      (l.referencesAt y .incoming).filter (f.contains ·.source) := by
  obtain ⟨others, whole, into⟩ := referencesAt_incoming owner'
  have beside := List.pairwise_cons.mp ((whole.pairwise_iff Apart.symm).mp apart)
  have other : f ∈ others :=
    (List.mem_cons.mp (whole.mem_iff.mp (mem_of_ownerOf? owner))).resolve_left distinct
  have lawful' : ∀ h ∈ others, h.Ordered ∧ h.EndsInside := fun h hh =>
    lawful h (whole.mem_iff.mpr (List.mem_cons_of_mem g hh))
  -- What leads into the other function leads out of this one.
  have leaves : referencesOf f (fun a => !f.contains a && g.contains a) =
      referencesOf f g.contains := by
    refine congrArg (referencesOf f) (funext fun a => ?_)
    cases there : g.contains a with
    | false => exact Bool.and_false _
    | true => simp [beside.1 f other a there]
  have own : (others.flatMap (referencesOf · g.contains)).filter (f.contains ·.source) =
      referencesOf f g.contains :=
    filter_source_flatMap (fun h hh => (lawful' h hh).1) (fun h hh => (lawful' h hh).2) beside.2
      other _
  have sorted : ((others.flatMap (referencesOf · g.contains)).filter (f.contains ·.source)).Pairwise
      fun r s => decide (r.source ≤ s.source) = true := by
    rw [own]
    exact (sorted_referencesOf (lawful' f other).1 _).imp decide_eq_true
  rw [referencesAt_outgoing owner, filter_referencesOf, leaves, into,
    filter_mergeSort source_le_trans source_le_total sorted, own]

theorem ask_references (a : Address) (direction : Direction) (l : Loaded) :
    (Analyzer.references a direction : Query Loaded (List Reference)).ask l =
      (.ok (l.referencesAt a direction), l) :=
  rfl

/-- Of an accepted image whose functions all have an end, whatever it was asked before: every
list of references is answered, in the order of the sources, and has none from the function
at the address into that function; and the references out of one function that lead into
another are, in the same order, the references into the other that come from the one. -/
theorem references_dual {img : Image} (accepted : img.breach? = none)
    (ended : ∀ f ∈ img.routines, f.stop?.isSome = true) {l : Loaded}
    (asked : Analyzer.Asked (load img) l) :
    (∀ a direction, ∃ rs,
      (Analyzer.references a direction : Query Loaded _).ask l = (.ok rs, l) ∧
      rs.Pairwise (fun r s => r.source ≤ s.source) ∧
      ∀ f ∈ img.routines, f.contains a = true →
        ∀ r ∈ rs, ¬ (f.contains r.source = true ∧ f.contains r.target = true)) ∧
    ∀ (f g : Routine) (x y : Address), img.Across f g x y →
      ∃ out into,
        (Analyzer.references x .outgoing : Query Loaded _).ask l = (.ok out, l) ∧
        (Analyzer.references y .incoming : Query Loaded _).ask l = (.ok into, l) ∧
        out.filter (g.contains ·.target) = into.filter (f.contains ·.source) := by
  have same := sameImage_of_asked asked
  have lawful : ∀ f ∈ (load img).image.routines, f.Ordered ∧ f.EndsInside := fun f hf =>
    have listed := ((mem_routines_load accepted).mp hf).1
    ⟨ordered_of_accepted accepted listed, (ends_of_stop? (ended f listed)).2⟩
  have apart := apart_load accepted
  refine ⟨fun a direction => ⟨_, ask_references a direction l, ?_, ?_⟩, ?_⟩
  · rw [same.referencesAt]
    exact sorted_referencesAt (fun f hf => (lawful f hf).1) a direction
  · intro f hf inside r hr
    rw [same.referencesAt] at hr
    exact crosses_of_referencesAt lawful apart (ownerOf?_load accepted hf inside) hr
  · intro f g x y across
    have distinct : f ≠ g := by
      rintro rfl
      exact apart_of_across accepted across x across.here across.here
    obtain ⟨owner, owner'⟩ := owners_of_across accepted across
    refine ⟨_, _, ask_references x .outgoing l, ask_references y .incoming l, ?_⟩
    rw [same.referencesAt, same.referencesAt]
    exact filter_outgoing_eq_incoming lawful apart owner owner' distinct

/-- Of the small image: the call is the only reference between its functions. -/
theorem references_dual_pair :
    Image.pair.breach? = none ∧ (∀ f ∈ Image.pair.routines, f.stop?.isSome = true) ∧
      ∃ main leaf out into, Image.pair.routines = [main, leaf] ∧
        (Analyzer.references ⟨0x1000⟩ .outgoing : Query Loaded _).ask (load .pair) =
          (.ok out, load .pair) ∧
        (Analyzer.references ⟨0x1010⟩ .incoming : Query Loaded _).ask (load .pair) =
          (.ok into, load .pair) ∧
        out.filter (leaf.contains ·.target) = [⟨⟨0x1000⟩, ⟨0x1010⟩, .call⟩] ∧
        into.filter (main.contains ·.source) = [⟨⟨0x1000⟩, ⟨0x1010⟩, .call⟩] := by
  have accepted : Image.pair.breach? = none := by
    rw [Image.breach?, Image.sortedSpans, List.mergeSort_of_pairwise (by decide)]
    decide
  have ended : ∀ f ∈ Image.pair.routines, f.stop?.isSome = true := by decide
  obtain ⟨out, into, leads, comes, dual⟩ :=
    (references_dual accepted ended .refl).2 _ _ ⟨0x1000⟩ ⟨0x1010⟩
      ⟨⟨0, 1, by decide, rfl, rfl⟩, by decide, by decide⟩
  have call : out = [⟨⟨0x1000⟩, ⟨0x1010⟩, .call⟩] := by
    rw [load_pair, ask_references] at leads
    obtain rfl := Except.ok.inj (Prod.mk.inj leads).1
    decide
  refine ⟨accepted, ended, _, _, out, into, rfl, leads, comes, ?_, dual.symm.trans ?_⟩
  all_goals
    rw [call]
    decide

end Loaded

end AsmView
