/-
# A loaded image and its slots

Questions to a loaded image move its current address at most: image and slots are those
that were loaded.  The slots are the instructions of the image in order of address, and
when no two instructions share an address the slots from an address on are found by
cutting the list where that address stands.
-/
import Mathlib.Data.List.Perm.Basic
import Mathlib.Data.List.TakeWhile
import AsmView.Loaded
import AsmView.Proofs.Feed
import AsmView.Proofs.Halving
import AsmView.Proofs.Line

namespace AsmView

open Text

/-- All instructions of the image. -/
def Image.instructions (img : Image) : List Instruction :=
  img.routines.flatMap (·.instructions)

/-- How many instructions stand at an address or behind it. -/
def Image.countFrom (img : Image) (a : Address) : Nat :=
  img.instructions.countP fun i => a ≤ i.address

namespace Loaded

/-! ## Asking a loaded image -/

/-- Two loaded images that differ in their current address at most. -/
structure SameImage (l m : Loaded) : Prop where
  image : m.image = l.image
  slots : m.slots = l.slots

theorem SameImage.refl (l : Loaded) : l.SameImage l :=
  ⟨rfl, rfl⟩

theorem SameImage.trans {l m n : Loaded} (h : l.SameImage m) (h' : m.SameImage n) :
    l.SameImage n :=
  ⟨h'.image.trans h.image, h'.slots.trans h.slots⟩

/-- What lies in the image does not depend on the current address. -/
theorem SameImage.covers {l m : Loaded} (h : l.SameImage m) (a : Address) :
    m.covers a = l.covers a := by
  simp [Loaded.covers, sectionOf?, h.image, h.slots]

theorem ask_reposition (a : Address) (l : Loaded) :
    (Analyzer.reposition a : Query Loaded Unit).ask l =
      if l.covers a then (.ok (), { l with cursor := a }) else (.error (.outOfRange a), l) := by
  show (if l.covers a then modify fun l => { l with cursor := a }
    else throw (.outOfRange a) : Query Loaded Unit).ask l = _
  cases l.covers a <;> rfl

theorem ask_jumpTarget (line : String) (l : Loaded) :
    (Analyzer.jumpTarget line : Query Loaded (Option Address)).ask l =
      (.ok (l.transferTarget? line), l) :=
  rfl

/-- A question leaves image and slots as they are. -/
theorem sameImage_of_asks {l m : Loaded} (h : Analyzer.Asks l m) : l.SameImage m := by
  obtain ⟨q, l⟩ := h
  cases q with
  | reposition a =>
      show l.SameImage ((Analyzer.reposition a : Query Loaded Unit).ask l).2
      rw [ask_reposition]
      split
      · exact ⟨rfl, rfl⟩
      · exact .refl l
  | _ => exact .refl l

theorem sameImage_of_asked {l m : Loaded} (h : Analyzer.Asked l m) : l.SameImage m := by
  induction h with
  | refl => exact .refl l
  | tail _ last ih => exact ih.trans (sameImage_of_asks last)

/-- The slots from an address on. -/
def slotsFrom (l : Loaded) (a : Address) : List Slot :=
  l.slots.dropWhile (·.address < a)

/-- No slot below an address stands behind one that is not. -/
theorem below_falls (l : Loaded) (a : Address) : l.slots.Pairwise fun s t =>
    decide (t.address < a) = true → decide (s.address < a) = true :=
  l.sorted.imp fun le below =>
    decide_eq_true (Nat.lt_of_le_of_lt le (of_decide_eq_true below))

/-- The boundary at the current address is found where the slots below it end. -/
theorem ahead_eq (l : Loaded) : l.ahead = l.slotsFrom l.cursor :=
  Halving.drop_boundary (l.below_falls l.cursor)

theorem ask_disassemble (n : Nat) (l : Loaded) :
    (Analyzer.disassemble n : Query Loaded String).ask l =
      (.ok (String.ofList (batchText ((l.slotsFrom l.cursor).take n))), l) := by
  rw [← ahead_eq]
  rfl

/-- A batch at an address that lies in the image is cut from there. -/
theorem ask_batchAt (a : Address) (n : Nat) (l : Loaded) :
    (Query.batchAt a n).ask l =
      if l.covers a then
        (.ok (String.ofList (batchText ((l.slotsFrom a).take n))), { l with cursor := a })
      else (.error (.outOfRange a), l) := by
  rw [Query.batchAt_ask, ask_reposition]
  cases l.covers a with
  | true => exact ask_disassemble n { l with cursor := a }
  | false => rfl

/-- At a place in the image a batch is given. -/
theorem SameImage.isOk_batchAt {l m : Loaded} (h : l.SameImage m) {a : Address}
    (inside : l.covers a = true) (n : Nat) : ((Query.batchAt a n).ask m).1.isOk = true := by
  rw [ask_batchAt, h.covers, if_pos inside]
  rfl

/-- What a batch that was given holds. -/
theorem batch_of_answer {a : Address} {n : Nat} {l m : Loaded} {batch : String}
    (answer : (Query.batchAt a n).ask l = (.ok batch, m)) :
    batch = String.ofList (batchText ((l.slotsFrom a).take n)) ∧ l.SameImage m := by
  rw [ask_batchAt] at answer
  split at answer
  · obtain ⟨given, rfl⟩ := Prod.mk.inj answer
    exact ⟨(Except.ok.inj given).symm, rfl, rfl⟩
  · exact nomatch (Prod.mk.inj answer).1

theorem SameImage.slotsFrom {l m : Loaded} (h : l.SameImage m) (a : Address) :
    m.slotsFrom a = l.slotsFrom a := by
  rw [Loaded.slotsFrom, h.slots]
  rfl

/-! ## The slots of an image -/

/-- The slots of one function. -/
def slotsOf (f : Routine) : List Slot :=
  match f.instructions with
  | [] => []
  | i :: rest => ⟨f, true, i⟩ :: rest.map fun j => ⟨f, false, j⟩

theorem mem_slotsOf {f : Routine} {s : Slot} (h : s ∈ slotsOf f) :
    s.owner = f ∧ s.instruction ∈ f.instructions := by
  unfold slotsOf at h
  cases instructions : f.instructions with
  | nil => simp [instructions] at h
  | cons i rest =>
      rw [instructions] at h
      rcases List.mem_cons.mp h with rfl | h
      · exact ⟨rfl, List.mem_cons_self⟩
      · obtain ⟨j, hj, rfl⟩ := List.mem_map.mp h
        exact ⟨rfl, List.mem_cons_of_mem i hj⟩

theorem map_owned_slotsOf (f : Routine) :
    (slotsOf f).map (fun s => (s.owner, s.instruction)) = f.instructions.map (f, ·) := by
  unfold slotsOf
  cases f.instructions with
  | nil => rfl
  | cons i rest => simp

/-- At the positions in a function stand its slots. -/
theorem map_slotOf?_range {fs : List Routine} {f : Routine} {k : Nat} (there : fs[k]? = some f) :
    (List.range f.instructions.length).map (fun m => slotOf? fs ⟨k, m⟩) =
      (slotsOf f).map some := by
  have each : ∀ m, slotOf? fs ⟨k, m⟩ = f.instructions[m]?.map fun i => ⟨f, m = 0, i⟩ := by
    intro m
    rw [slotOf?, there, Option.bind_some]
  simp only [each, slotsOf]
  cases f.instructions with
  | nil => rfl
  | cons i rest =>
      rw [List.length_cons, List.range_succ_eq_map, List.map_cons, List.map_map]
      refine congrArg _ (List.ext_getElem (by simp) fun m _ _ => ?_)
      simp

/-- At the positions in functions stand the slots of these functions. -/
theorem map_slotOf?_positions (fs : List Routine) :
    (positions fs).map (slotOf? fs) = (fs.flatMap slotsOf).map some := by
  calc (positions fs).map (slotOf? fs)
      = fs.zipIdx.flatMap fun e => (slotsOf e.1).map some := by
        rw [positions, List.map_flatMap]
        refine List.flatMap_congr fun e he => ?_
        rw [List.map_map]
        exact map_slotOf?_range (List.mem_zipIdx_iff_getElem?.mp he)
    _ = (fs.flatMap slotsOf).map some := by
        rw [← List.flatMap_map (f := Prod.fst) (g := fun f => (slotsOf f).map some),
          List.zipIdx_map_fst, List.map_flatMap]

/-- Putting positions in order puts in order what stands there. -/
theorem map_slotOf?_index (fs : List Routine) :
    (index fs).map (slotOf? fs) =
      ((fs.flatMap slotsOf).mergeSort fun s t => s.address ≤ t.address).map some := by
  calc (index fs).map (slotOf? fs)
      = ((positions fs).map (slotOf? fs)).mergeSort fun s t => sortKey s ≤ sortKey t :=
        List.map_mergeSort fun _ _ _ _ => rfl
    _ = ((fs.flatMap slotsOf).map some).mergeSort fun s t => sortKey s ≤ sortKey t := by
        rw [map_slotOf?_positions]
    _ = ((fs.flatMap slotsOf).mergeSort fun s t => s.address ≤ t.address).map some := by
        symm
        exact List.map_mergeSort fun _ _ _ _ => rfl

theorem sortSlots_eq (fs : List Routine) :
    sortSlots fs = (fs.flatMap slotsOf).mergeSort fun s t => s.address ≤ t.address := by
  calc sortSlots fs
      = ((index fs).map (slotOf? fs)).filterMap id := by
        rw [List.filterMap_map]
        rfl
    _ = (fs.flatMap slotsOf).mergeSort fun s t => s.address ≤ t.address := by
        rw [map_slotOf?_index, List.filterMap_map]
        exact List.filterMap_some

/-- Sorting leaves the functions that have an instruction, each with its own. -/
theorem mem_sortRoutines {f : Routine} {fs : List Routine} (h : f ∈ sortRoutines fs) :
    ∃ g ∈ fs, f = sortRoutine g := by
  have listed := (List.mem_filter.mp (List.mem_mergeSort.mp h)).1
  obtain ⟨g, hg, rfl⟩ := List.mem_map.mp listed
  exact ⟨g, hg, rfl⟩

theorem instructions_sortRoutine (f : Routine) :
    (sortRoutine f).instructions.Perm f.instructions :=
  List.mergeSort_perm _ _

/-- What functions with an instruction have is kept, function by function. -/
theorem flatMap_sortRoutines {β : Type} (fs : List Routine) {g : Routine → List β}
    (bare : ∀ f : Routine, f.instructions = [] → g f = []) :
    ((sortRoutines fs).flatMap g).Perm (fs.flatMap fun f => g (sortRoutine f)) := by
  have kept : ((fs.map sortRoutine).filter (!·.instructions.isEmpty)).flatMap g =
      fs.flatMap fun f => g (sortRoutine f) := by
    induction fs with
    | nil => rfl
    | cons f fs ih =>
        rw [List.map_cons, List.flatMap_cons]
        by_cases empty : (sortRoutine f).instructions = []
        · rw [List.filter_cons_of_neg (by simp [empty]), ih, bare _ empty, List.nil_append]
        · rw [List.filter_cons_of_pos (by simp [empty]), List.flatMap_cons, ih]
  exact kept ▸ (List.mergeSort_perm _ _).flatMap_right _

/-- Sorting loses no instruction and adds none. -/
theorem instructions_sortRoutines (fs : List Routine) :
    ((sortRoutines fs).flatMap (·.instructions)).Perm (fs.flatMap (·.instructions)) :=
  (flatMap_sortRoutines fs fun _ bare => bare).trans
    (List.Perm.flatMap_left _ fun f _ => instructions_sortRoutine f)

/-- The slots of a loaded image are its instructions, each in its own function as that is
sorted. -/
theorem owned_slots_load (img : Image) :
    ((load img).slots.map fun s => (s.owner, s.instruction)).Perm
      (img.routines.flatMap fun f => f.instructions.map (sortRoutine f, ·)) := by
  have each : ((sortRoutines img.routines).flatMap slotsOf).map
      (fun s => (s.owner, s.instruction)) =
        (sortRoutines img.routines).flatMap fun f => f.instructions.map (f, ·) := by
    rw [List.map_flatMap]
    exact List.flatMap_congr fun f _ => map_owned_slotsOf f
  have sorted : ((load img).slots.map fun s => (s.owner, s.instruction)).Perm
      (((sortRoutines img.routines).flatMap slotsOf).map fun s => (s.owner, s.instruction)) :=
    (sortSlots_eq (sortRoutines img.routines) ▸ List.mergeSort_perm _ _ :
      (sortSlots (sortRoutines img.routines)).Perm _).map _
  rw [each] at sorted
  refine (sorted.trans (flatMap_sortRoutines img.routines fun f bare => ?_)).trans
    (List.Perm.flatMap_left _ fun f _ => (instructions_sortRoutine f).map _)
  rw [bare]
  rfl

theorem instructions_load (img : Image) :
    ((load img).slots.map (·.instruction)).Perm img.instructions := by
  have owned := (owned_slots_load img).map Prod.snd
  simpa [List.map_flatMap, Function.comp_def, Image.instructions] using owned

theorem mem_instructions {img : Image} {i : Instruction} :
    i ∈ img.instructions ↔ ∃ s ∈ (load img).slots, s.instruction = i := by
  rw [← (instructions_load img).mem_iff, List.mem_map]

theorem mem_sortSlots {fs : List Routine} {s : Slot} :
    s ∈ sortSlots fs ↔ ∃ f ∈ fs, s ∈ slotsOf f := by
  rw [sortSlots_eq, List.mem_mergeSort, List.mem_flatMap]

theorem mem_slots_load {img : Image} {s : Slot} (h : s ∈ (load img).slots) :
    s.owner ∈ (load img).image.routines ∧ s.instruction ∈ s.owner.instructions := by
  obtain ⟨f, hf, hs⟩ := mem_sortSlots.mp h
  obtain ⟨rfl, hi⟩ := mem_slotsOf hs
  exact ⟨hf, hi⟩

end Loaded

/-- No two instructions of the image stand at the same address. -/
def Image.Distinct (img : Image) : Prop :=
  (img.instructions.map (·.address)).Nodup

instance (img : Image) : Decidable img.Distinct :=
  inferInstanceAs (Decidable (List.Nodup _))

/-- A small image: a function that calls another. -/
def Image.pair : Image where
  name := "pair"
  sections := [{ name := ".text", start := ⟨0x1000⟩, size := 0x100 }]
  routines := [
    { name := "main"
      instructions := [
        { address := ⟨0x1000⟩, bytes := "e80b000000", text := "call 0x1010", target := some ⟨0x1010⟩ },
        { address := ⟨0x1005⟩, bytes := "c3", text := "ret" }] },
    { name := "leaf"
      instructions := [{ address := ⟨0x1010⟩, bytes := "c3", text := "ret" }] }]

namespace Loaded

/-- Whatever loading sorts stands in order already, and no function is empty. -/
structure Sorted (img : Image) : Prop where
  occupied : ∀ f ∈ img.routines, f.instructions.isEmpty = false
  instructions : ∀ f ∈ img.routines, f.instructions.Pairwise (·.address ≤ ·.address)
  routines : img.routines.Pairwise fun f g =>
    (f.start?.map (·.toNat)).getD 0 ≤ (g.start?.map (·.toNat)).getD 0
  slots : (img.routines.flatMap slotsOf).Pairwise (·.address ≤ ·.address)

/-- A sorted image is loaded as it is. -/
theorem load_of_sorted {img : Image} (h : Sorted img) :
    load img = ⟨img, img.routines.flatMap slotsOf, (startOf? img).getD ⟨0⟩, h.slots⟩ := by
  have routine : ∀ f ∈ img.routines, sortRoutine f = f := by
    intro f hf
    rw [sortRoutine, List.mergeSort_of_pairwise]
    simpa using h.instructions f hf
  have occupied : ∀ f ∈ img.routines, (!f.instructions.isEmpty) = true := by
    intro f hf
    rw [h.occupied f hf]
    rfl
  have routines : sortRoutines img.routines = img.routines := by
    rw [sortRoutines, List.map_congr_left routine, List.map_id', List.filter_eq_self.mpr occupied,
      List.mergeSort_of_pairwise]
    simpa using h.routines
  have slots : sortSlots img.routines = img.routines.flatMap slotsOf := by
    rw [sortSlots_eq, List.mergeSort_of_pairwise]
    simpa using h.slots
  simp only [load, routines, slots]

/-- The small image as it is loaded. -/
def pair : Loaded :=
  ⟨.pair, Image.pair.routines.flatMap slotsOf, ⟨0x1000⟩, by decide⟩

theorem load_pair : load .pair = pair :=
  have sorted : Sorted .pair := ⟨by decide, by decide, by decide, by decide⟩
  load_of_sorted sorted

/-! ## The order of the slots -/

/-- The slots ascend strictly. -/
def Ascending (l : Loaded) : Prop :=
  l.slots.Pairwise fun s t => s.address < t.address

/-- What is in order of addresses ascends strictly where no address is there twice. -/
theorem pairwise_lt {α : Type} {address : α → Address} {xs : List α}
    (sorted : xs.Pairwise fun x y => address x ≤ address y) (distinct : (xs.map address).Nodup) :
    xs.Pairwise fun x y => address x < address y := by
  refine (sorted.and (List.pairwise_map.mp distinct)).imp fun {x y} h => ?_
  have ne : (address x).toNat ≠ (address y).toNat := fun e => h.2 (Address.toNat_injective e)
  exact Nat.lt_of_le_of_ne h.1 ne

theorem ascending_load {img : Image} (distinct : img.Distinct) : (load img).Ascending := by
  refine pairwise_lt (load img).sorted ?_
  have same := (instructions_load img).map (·.address)
  rw [List.map_map] at same
  exact same.nodup_iff.mpr distinct

/-- The slots from the address of a slot on begin with that slot. -/
theorem Ascending.slotsFrom_address {l : Loaded} (h : l.Ascending) {before after : List Slot}
    {s : Slot} (cut : l.slots = before ++ s :: after) : l.slotsFrom s.address = s :: after := by
  have below : ∀ r ∈ before, r.address < s.address := by
    intro r hr
    rw [Ascending, cut] at h
    exact (List.pairwise_append.mp h).2.2 r hr s List.mem_cons_self
  rw [slotsFrom, cut, List.dropWhile_append_of_pos (by simpa using below)]
  exact List.dropWhile_cons_of_neg (by simp [Address.lt_iff])

/-- Whatever stands from an address on stands at the end of all slots. -/
theorem slotsFrom_suffix (l : Loaded) (a : Address) : l.slotsFrom a <:+ l.slots :=
  List.dropWhile_suffix _

/-- Going on from a slot that was passed finds what was left behind it. -/
theorem Ascending.slotsFrom_of_slotsFrom {l : Loaded} (h : l.Ascending) {a : Address}
    {before after : List Slot} {s : Slot} (cut : l.slotsFrom a = before ++ s :: after) :
    l.slotsFrom s.address = s :: after := by
  obtain ⟨skipped, whole⟩ := l.slotsFrom_suffix a
  have passed : l.slots = (skipped ++ before) ++ s :: after := by
    rw [← whole, cut, List.append_assoc]
  exact h.slotsFrom_address passed

/-- What is passed over lies below the address. -/
theorem lt_of_mem_takeWhile {l : Loaded} {a : Address} {s : Slot}
    (h : s ∈ l.slots.takeWhile (·.address < a)) : s.address < a := by
  simpa using List.mem_takeWhile_imp h

section Order

variable {l : Loaded} {a : Address} {s : Slot}

/-- What is left does not. -/
theorem le_of_mem_slotsFrom (hs : s ∈ l.slotsFrom a) : a ≤ s.address := by
  have left := Halving.isLow_of_mem_dropWhile (l.below_falls a) hs
  simpa [Address.lt_iff, Address.le_iff] using left

/-- The slots from an address on are all that do not lie below it. -/
theorem slotsFrom_eq_filter (l : Loaded) (a : Address) :
    l.slotsFrom a = l.slots.filter (a ≤ ·.address) := by
  have low : (l.slots.takeWhile (·.address < a)).filter (a ≤ ·.address) = [] :=
    List.filter_eq_nil_iff.mpr fun s hs above =>
      absurd (of_decide_eq_true above) (Nat.not_le.mpr (lt_of_mem_takeWhile hs))
  have high : (l.slotsFrom a).filter (a ≤ ·.address) = l.slotsFrom a :=
    List.filter_eq_self.mpr fun s hs => decide_eq_true (le_of_mem_slotsFrom hs)
  calc l.slotsFrom a
      = (l.slots.takeWhile (·.address < a) ++ l.slotsFrom a).filter (a ≤ ·.address) := by
        rw [List.filter_append, low, high, List.nil_append]
    _ = l.slots.filter (a ≤ ·.address) := by
        rw [slotsFrom, List.takeWhile_append_dropWhile]

theorem mem_slotsFrom : s ∈ l.slotsFrom a ↔ s ∈ l.slots ∧ a ≤ s.address := by
  rw [slotsFrom_eq_filter, List.mem_filter, decide_eq_true_iff]

/-- The first of the slots from an address on has the least address that is not below. -/
theorem head?_slotsFrom {rest : List Slot} (cut : l.slotsFrom a = s :: rest) :
    s ∈ l.slots ∧ a ≤ s.address ∧ ∀ t ∈ l.slots, a ≤ t.address → s.address ≤ t.address := by
  have inside : s ∈ l.slotsFrom a := cut ▸ List.mem_cons_self
  have ordered : (l.slotsFrom a).Pairwise fun s t => s.address ≤ t.address :=
    l.sorted.sublist (l.slotsFrom_suffix a).sublist
  obtain ⟨listed, above⟩ := mem_slotsFrom.mp inside
  refine ⟨listed, above, fun t ht le => ?_⟩
  have left := mem_slotsFrom.mpr ⟨ht, le⟩
  rw [cut] at left ordered
  rcases List.mem_cons.mp left with rfl | later
  · exact Nat.le_refl _
  · exact (List.pairwise_cons.mp ordered).1 t later

end Order

/-- Seen from an address, the slots come in the order of a search. -/
theorem rising (l : Loaded) (a : Address) :
    Halving.Rising (fun s : Slot => compare s.address.toNat a.toNat) l.slots := by
  refine l.sorted.imp fun {s t} le => ?_
  have le : s.address.toNat ≤ t.address.toNat := le
  simp only [Nat.compare_eq_lt, Nat.compare_eq_gt]
  omega

/-- Of the slots at an address the last is found. -/
theorem slotAt?_eq (l : Loaded) (a : Address) :
    l.slotAt? a = (l.slots.filter (·.address = a)).getLast? := by
  have here : ∀ s : Slot, compare s.address.toNat a.toNat = .eq ↔ s.address = a := fun s =>
    Nat.compare_eq_eq.trans ⟨fun same => Address.toNat_injective same, congrArg Address.toNat⟩
  simp only [slotAt?, (l.rising a).find?_eq, here]

theorem slotAt?_eq_none_iff {l : Loaded} {a : Address} :
    l.slotAt? a = none ↔ ∀ s ∈ l.slots, s.address ≠ a := by
  simp [slotAt?_eq]

theorem SameImage.slotAt?_eq {l m : Loaded} (h : l.SameImage m) (a : Address) :
    m.slotAt? a = l.slotAt? a := by
  rw [slotAt?, slotAt?, h.slots]

/-- As many slots stand from an address on as instructions do. -/
theorem length_slotsFrom (img : Image) (a : Address) :
    ((load img).slotsFrom a).length = img.countFrom a := by
  rw [slotsFrom_eq_filter, ← List.countP_eq_length_filter, Image.countFrom,
    ← (instructions_load img).countP_eq, List.countP_map]
  rfl

/-- Without a slot from an address on, every slot lies below. -/
theorem slotsFrom_eq_nil {l : Loaded} {a : Address} (h : l.slotsFrom a = []) :
    ∀ t ∈ l.slots, ¬ a ≤ t.address := by
  intro t ht
  have below := List.dropWhile_eq_nil_iff.mp h t ht
  simpa [Address.lt_iff, Address.le_iff] using below

end Loaded

end AsmView
