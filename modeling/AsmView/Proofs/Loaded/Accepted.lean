/-
# An image that passes the check, as it is loaded

Loading sorts, and of an image that passes the check little is left to sort: the
instructions of each function stand in order already, so it is only the functions that
change places, and those without an instruction that are dropped.  No two functions contain
the same address, so the first function that is found at an address is the only one.
-/
import AsmView.Proofs.Image.Check
import AsmView.Proofs.Loaded.Owner

namespace AsmView

namespace Routine

variable {f g : Routine}

/-! ## Ordered functions -/

/-- An instruction of an ordered function ends at or before the address of any later one. -/
theorem Ordered.pairwise (ordered : f.Ordered) :
    f.instructions.Pairwise fun i j => i.endNat ≤ j.address.toNat := by
  have : IsTrans Instruction fun i j => i.endNat ≤ j.address.toNat := ⟨by
    intro i j k before after
    have := j.address_lt_endNat
    omega⟩
  exact List.isChain_iff_pairwise.mp ordered

theorem Ordered.ascending (ordered : f.Ordered) :
    f.instructions.Pairwise fun i j => i.address < j.address :=
  ordered.pairwise.imp fun {i _} clear => Nat.lt_of_lt_of_le i.address_lt_endNat clear

theorem Occupies.ne_nil {n : Nat} (occupied : f.Occupies n) : f.instructions ≠ [] := by
  obtain ⟨first, -, head, -⟩ := occupied
  exact List.ne_nil_of_mem (List.mem_of_head? head)

theorem exists_first (occupied : f.instructions ≠ []) :
    ∃ first, f.instructions.head? = some first :=
  ⟨_, List.head?_eq_some_head occupied⟩

theorem exists_last (occupied : f.instructions ≠ []) :
    ∃ last, f.instructions.getLast? = some last :=
  ⟨_, List.getLast?_eq_some_getLast occupied⟩

theorem start?_eq {first : Instruction} (head : f.instructions.head? = some first) :
    f.start? = some first.address := by
  rw [start?, head]
  rfl

theorem stop?_eq {last : Instruction} (tail : f.instructions.getLast? = some last) :
    f.stop? = last.end? := by
  rw [stop?, tail]
  rfl

/-- The least address of an ordered function is that of its first instruction. -/
theorem Ordered.first_le {first : Instruction} (ordered : f.Ordered)
    (head : f.instructions.head? = some first) {i : Instruction} (hi : i ∈ f.instructions) :
    first.address.toNat ≤ i.address.toNat := by
  obtain ⟨rest, cut⟩ := List.head?_eq_some_iff.mp head
  have ascending := ordered.pairwise
  rw [cut] at hi ascending
  rcases List.mem_cons.mp hi with rfl | later
  · exact Nat.le_refl _
  · have := (List.pairwise_cons.mp ascending).1 i later
    have := first.address_lt_endNat
    omega

/-- The greatest address of an ordered function is that of its last instruction. -/
theorem Ordered.le_last {last : Instruction} (ordered : f.Ordered)
    (tail : f.instructions.getLast? = some last) {i : Instruction} (hi : i ∈ f.instructions) :
    i = last ∨ i.endNat ≤ last.address.toNat := by
  obtain ⟨before, cut⟩ := List.getLast?_eq_some_iff.mp tail
  have ascending := ordered.pairwise
  rw [cut] at hi ascending
  rcases List.mem_append.mp hi with earlier | here
  · exact .inr ((List.pairwise_append.mp ascending).2.2 i earlier last List.mem_cons_self)
  · exact .inl (List.mem_singleton.mp here)

/-- The instructions of an ordered function lie in what it takes up. -/
theorem Ordered.occupies_address (ordered : f.Ordered) {i : Instruction}
    (hi : i ∈ f.instructions) : f.Occupies i.address.toNat := by
  obtain ⟨first, head⟩ := exists_first (List.ne_nil_of_mem hi)
  obtain ⟨last, tail⟩ := exists_last (List.ne_nil_of_mem hi)
  refine ⟨first, last, head, tail, ordered.first_le head hi, ?_⟩
  have reach := i.address_lt_endNat
  rcases ordered.le_last tail hi with rfl | before
  · exact reach
  · have := last.address_lt_endNat
    omega

/-- An ordered function that ends inside contains its instructions. -/
theorem Ordered.contains_address (ordered : f.Ordered) (inside : f.EndsInside) {i : Instruction}
    (hi : i ∈ f.instructions) : f.contains i.address = true :=
  Image.contains_iff.mpr ⟨inside, ordered.occupies_address hi⟩

/-- A function that has an end has an instruction, and ends inside. -/
theorem ends_of_stop? (h : f.stop?.isSome = true) : f.instructions ≠ [] ∧ f.EndsInside := by
  obtain ⟨stop, ends⟩ := Option.isSome_iff_exists.mp h
  obtain ⟨last, tail, ends⟩ := Option.bind_eq_some_iff.mp ends
  refine ⟨?_, ?_⟩
  · intro empty
    rw [empty] at tail
    exact nomatch tail
  · intro other tail'
    obtain rfl : last = other := Option.some.inj (tail.symm.trans tail')
    rw [Instruction.end?_eq_some_iff.mp ends]
    exact stop.value.toNat_lt

/-- The functions have no address in common. -/
def Apart (f g : Routine) : Prop :=
  ∀ a, f.contains a = true → ¬ g.contains a = true

theorem Apart.symm (h : f.Apart g) : g.Apart f :=
  fun a inside other => h a other inside

instance : Std.Symm Apart :=
  ⟨fun _ _ => Apart.symm⟩

end Routine

/-- The addresses lie in the functions, which stand at different places of the image. -/
structure Image.Across (img : Image) (f g : Routine) (a b : Address) : Prop where
  places : ∃ i j : Nat, i ≠ j ∧ img.routines[i]? = some f ∧ img.routines[j]? = some g
  here : f.contains a = true
  there : g.contains b = true

namespace Loaded

open Routine

variable {img : Image} {f g : Routine} {a b : Address}

/-! ## The functions of an accepted image -/

theorem ordered_of_accepted (accepted : img.breach? = none) (hf : f ∈ img.routines) : f.Ordered :=
  ((Image.breach?_eq_none_iff img).mp accepted).ordered f hf

theorem apart_of_accepted (accepted : img.breach? = none) : img.routines.Pairwise Apart := by
  refine ((Image.breach?_eq_none_iff img).mp accepted).apart.imp ?_
  intro f g apart a inside other
  obtain ⟨ends, occupied⟩ := Image.contains_iff.mp inside
  obtain ⟨ends', occupied'⟩ := Image.contains_iff.mp other
  exact apart ends ends' _ occupied occupied'

/-- Functions at different places of the image have no address in common. -/
theorem apart_of_across (accepted : img.breach? = none) (across : img.Across f g a b) :
    f.Apart g := by
  obtain ⟨i, j, distinct, hf, hg⟩ := across.places
  have apart := List.pairwise_iff_getElem.mp (apart_of_accepted accepted)
  obtain ⟨hi, rfl⟩ := List.getElem?_eq_some_iff.mp hf
  obtain ⟨hj, rfl⟩ := List.getElem?_eq_some_iff.mp hg
  rcases Nat.lt_or_gt_of_ne distinct with before | after
  · exact apart i j hi hj before
  · exact (apart j i hj hi after).symm

/-! ## The same functions, loaded -/

theorem sortRoutine_of_ordered (ordered : f.Ordered) : sortRoutine f = f := by
  rw [sortRoutine, List.mergeSort_of_pairwise]
  refine ordered.ascending.imp fun {i j} before => ?_
  exact decide_eq_true (Nat.le_of_lt before)

/-- Loading moves the functions of an accepted image, and drops those without an instruction. -/
theorem perm_routines_load (accepted : img.breach? = none) :
    (load img).image.routines.Perm (img.routines.filter (!·.instructions.isEmpty)) := by
  have sorted : img.routines.map sortRoutine = img.routines :=
    (List.map_congr_left fun f hf => sortRoutine_of_ordered (ordered_of_accepted accepted hf)).trans
      (List.map_id' _)
  have perm : (load img).image.routines.Perm
      ((img.routines.map sortRoutine).filter (!·.instructions.isEmpty)) := List.mergeSort_perm _ _
  rwa [sorted] at perm

theorem mem_routines_load (accepted : img.breach? = none) :
    f ∈ (load img).image.routines ↔ f ∈ img.routines ∧ f.instructions ≠ [] := by
  rw [(perm_routines_load accepted).mem_iff, List.mem_filter]
  simp

theorem apart_load (accepted : img.breach? = none) :
    (load img).image.routines.Pairwise Apart :=
  ((perm_routines_load accepted).pairwise_iff Apart.symm).mpr
    ((apart_of_accepted accepted).sublist List.filter_sublist)

/-- A function owns the addresses it contains. -/
theorem ownerOf?_load (accepted : img.breach? = none) (hf : f ∈ img.routines)
    (inside : f.contains a = true) : (load img).ownerOf? a = some f := by
  obtain ⟨-, occupied⟩ := Image.contains_iff.mp inside
  have listed := (mem_routines_load accepted).mpr ⟨hf, occupied.ne_nil⟩
  cases found : (load img).ownerOf? a with
  | none => exact absurd inside (List.find?_eq_none.mp found f listed)
  | some g =>
      have other : g.contains a = true :=
        List.find?_some (p := fun h : Routine => h.contains a) found
      by_contra ne
      have distinct : f ≠ g := fun same => ne (congrArg some same.symm)
      exact (apart_load accepted).forall listed (mem_of_ownerOf? found) distinct a inside other

theorem owners_of_across (accepted : img.breach? = none) (across : img.Across f g a b) :
    (load img).ownerOf? a = some f ∧ (load img).ownerOf? b = some g := by
  obtain ⟨i, j, -, hf, hg⟩ := across.places
  exact ⟨ownerOf?_load accepted (List.mem_of_getElem? hf) across.here,
    ownerOf?_load accepted (List.mem_of_getElem? hg) across.there⟩

end Loaded

end AsmView
