/-
# The index of an image

Loading sorts twice and drops functions before it takes positions, and both searches work
by halves on what the positions lead to.  For an image in which no two instructions share
an address the outcome is the plain one, whatever the order of its functions and
instructions and however they overlap: the slots are the instructions, each once and by
strictly increasing address (`Indexes`); an address finds its instruction; a batch has the
lowest instructions from the current address on (`Lowest`), one block of text each; and the
line of an instruction is the first line of any batch at its address.  `index_faithful` has
all four, for an image at any current address.
-/
import Mathlib.Data.List.Nodup
import AsmView.Proofs.Loaded.Text

namespace AsmView

open Text

/-- The `n` lowest of the instructions at an address or above it, or all where there are
fewer, in ascending order. -/
structure Lowest (img : Image) (a : Address) (n : Nat) (is : List Instruction) : Prop where
  ascending : is.Pairwise fun i j => i.address < j.address
  listed : ∀ i ∈ is, i ∈ img.instructions ∧ a ≤ i.address
  length : is.length = min n (img.countFrom a)
  lt_rest : ∀ j ∈ img.instructions, a ≤ j.address → j ∉ is → ∀ i ∈ is, i.address < j.address

namespace Loaded

variable {img : Image} {l : Loaded} {s t : Slot} {a : Address}

/-! ## The slots -/

/-- The slots are what stands at the positions in the index: each instruction of an image
once, in its own function as that is sorted, and by strictly increasing address.  The slot
of a function's lowest instruction is its first. -/
structure Indexes (l : Loaded) (img : Image) : Prop where
  positions : (index l.image.routines).map (slotOf? l.image.routines) = l.slots.map some
  once : (l.slots.map fun s => (s.owner, s.instruction)).Perm
    (img.routines.flatMap fun f => f.instructions.map (sortRoutine f, ·))
  ascending : l.Ascending
  first : ∀ s ∈ l.slots, s.isFirst = true ↔ ∀ i ∈ s.owner.instructions, s.address ≤ i.address

/-- The instructions of a function ascend strictly once they are sorted. -/
theorem ascending_sortRoutine (distinct : img.Distinct) {f : Routine} (hf : f ∈ img.routines) :
    (sortRoutine f).instructions.Pairwise fun i j => i.address < j.address := by
  have own : (f.instructions.map (·.address)).Nodup := by
    rw [Image.Distinct, Image.instructions, List.map_flatMap] at distinct
    exact (List.nodup_flatMap.mp distinct).1 f hf
  have sorted := pairwise_mergeSort_key (fun i : Instruction => i.address.toNat) f.instructions
  exact pairwise_lt sorted (((instructions_sortRoutine f).map _).nodup_iff.mpr own)

/-- Where a function ascends strictly, its first slot is the one that stands lowest. -/
theorem isFirst_iff {f : Routine}
    (ascending : f.instructions.Pairwise fun i j => i.address < j.address)
    (hs : s ∈ slotsOf f) : s.isFirst = true ↔ ∀ i ∈ f.instructions, s.address ≤ i.address := by
  unfold slotsOf at hs
  cases instructions : f.instructions with
  | nil =>
      rw [instructions] at hs
      exact nomatch hs
  | cons i rest =>
      rw [instructions] at hs ascending
      have before := (List.pairwise_cons.mp ascending).1
      rcases List.mem_cons.mp hs with rfl | hs
      · refine iff_of_true rfl fun j hj => ?_
        rcases List.mem_cons.mp hj with rfl | hj
        · exact Nat.le_refl _
        · exact Nat.le_of_lt (before j hj)
      · obtain ⟨j, hj, rfl⟩ := List.mem_map.mp hs
        refine iff_of_false Bool.false_ne_true fun lowest => ?_
        exact Nat.not_lt.mpr (lowest i List.mem_cons_self) (before j hj)

theorem indexes_load (distinct : img.Distinct) : (load img).Indexes img where
  positions := by
    rw [map_slotOf?_index, ← sortSlots_eq]
    rfl
  once := owned_slots_load img
  ascending := ascending_load distinct
  first s hs := by
    have hs : s ∈ sortSlots (sortRoutines img.routines) := hs
    rw [sortSlots_eq, List.mem_mergeSort] at hs
    obtain ⟨f, hf, inside⟩ := List.mem_flatMap.mp hs
    obtain ⟨rfl, -⟩ := mem_slotsOf inside
    obtain ⟨g, hg, owner⟩ := mem_sortRoutines hf
    exact isFirst_iff (owner ▸ ascending_sortRoutine distinct hg) inside

theorem SameImage.indexes (same : (load img).SameImage l) (distinct : img.Distinct) :
    l.Indexes img := by
  obtain ⟨image, slots, cursor, sorted⟩ := l
  obtain rfl : image = (load img).image := same.image
  obtain rfl : slots = (load img).slots := same.slots
  have whole := indexes_load distinct
  exact ⟨whole.positions, whole.once, whole.ascending, whole.first⟩

/-! ## What an address finds -/

theorem Ascending.eq_of_address (ascending : l.Ascending) (hs : s ∈ l.slots) (ht : t ∈ l.slots)
    (same : s.address = t.address) : s = t := by
  have distinct : (l.slots.map (·.address)).Nodup := by
    refine List.pairwise_map.mpr (List.Pairwise.imp (fun {r u} lt same => ?_) ascending)
    exact Nat.ne_of_lt lt (congrArg Address.toNat same)
  exact List.inj_on_of_nodup_map distinct hs ht same

/-- An address finds a slot just when the slot stands there. -/
theorem Ascending.slotAt?_eq_some_iff (ascending : l.Ascending) :
    l.slotAt? a = some s ↔ s ∈ l.slots ∧ s.address = a := by
  have only : ∀ {t}, l.slotAt? a = some t → t ∈ l.slots ∧ t.address = a := by
    intro t found
    rw [slotAt?_eq] at found
    simpa using List.mem_of_getLast? found
  refine ⟨only, fun ⟨hs, here⟩ => ?_⟩
  cases found : l.slotAt? a with
  | none => exact absurd here (slotAt?_eq_none_iff.mp found s hs)
  | some t =>
      obtain ⟨ht, there⟩ := only found
      exact congrArg some (ascending.eq_of_address ht hs (there.trans here.symm))

/-- What stands at an address is found there, and nothing else. -/
theorem finds_iff (distinct : img.Distinct) (same : (load img).SameImage l) (a : Address)
    (i : Instruction) : (∃ s, l.slotAt? a = some s ∧ s.instruction = i) ↔
      i ∈ img.instructions ∧ i.address = a := by
  simp only [same.slotAt?_eq, (ascending_load distinct).slotAt?_eq_some_iff, mem_instructions]
  constructor
  · rintro ⟨s, ⟨hs, here⟩, rfl⟩
    exact ⟨⟨s, hs, rfl⟩, here⟩
  · rintro ⟨⟨s, hs, rfl⟩, here⟩
    exact ⟨s, ⟨hs, here⟩, rfl⟩

/-! ## What a batch has -/

/-- What a batch has of the slot that `k` slots stand in front of: its line, and above it,
where a function begins behind the first line, the header of that function. -/
def block (s : Slot) (k : Nat) : List Char :=
  (if 0 < k ∧ s.isFirst = true then headerChars s.owner ++ ['\n'] else []) ++
    lineChars s.instruction ++ ['\n']

theorem furtherText_eq (slots : List Slot) (k : Nat) :
    furtherText slots = (slots.zipIdx (k + 1)).flatMap fun (s, k) => block s k := by
  induction slots generalizing k with
  | nil => rfl
  | cons s rest ih =>
      rw [furtherText, List.zipIdx_cons, List.flatMap_cons, ← ih (k + 1)]
      simp [block]

/-- A batch is the blocks of its slots. -/
theorem batchText_eq (slots : List Slot) :
    batchText slots = slots.zipIdx.flatMap fun (s, k) => block s k := by
  cases slots with
  | nil => rfl
  | cons s rest =>
      rw [batchText, List.zipIdx_cons, List.flatMap_cons, ← furtherText_eq rest 0]
      simp [block]

/-- The first slots from an address on are those of the lowest instructions. -/
theorem lowest_load (distinct : img.Distinct) (a : Address) (n : Nat) :
    Lowest img a n ((((load img).slotsFrom a).take n).map (·.instruction)) := by
  have ascending : ((load img).slotsFrom a).Pairwise fun s t => s.address < t.address :=
    (ascending_load distinct).sublist ((load img).slotsFrom_suffix a).sublist
  refine ⟨?_, ?_, ?_, ?_⟩
  · exact List.pairwise_map.mpr (ascending.sublist (List.take_sublist n _))
  · intro i hi
    obtain ⟨s, hs, rfl⟩ := List.mem_map.mp hi
    have left := List.mem_of_mem_take hs
    exact ⟨mem_instructions.mpr ⟨s, ((load img).slotsFrom_suffix a).subset left, rfl⟩,
      le_of_mem_slotsFrom left⟩
  · rw [List.length_map, List.length_take, length_slotsFrom]
  · intro j hj above unchosen i hi
    obtain ⟨t, ht, rfl⟩ := mem_instructions.mp hj
    obtain ⟨s, hs, rfl⟩ := List.mem_map.mp hi
    have left : t ∈ (load img).slotsFrom a := mem_slotsFrom.mpr ⟨ht, above⟩
    rw [← List.take_append_drop n ((load img).slotsFrom a)] at left ascending
    rcases List.mem_append.mp left with chosen | behind
    · exact absurd (List.mem_map_of_mem chosen) unchosen
    · exact (List.pairwise_append.mp ascending).2.2 s hs t behind

/-- A batch shows the lowest instructions from the current address on. -/
theorem exists_lowest (distinct : img.Distinct) (same : (load img).SameImage l) (n : Nat) :
    ∃ slots : List Slot, slots.Sublist l.slots ∧
      Lowest img l.cursor n (slots.map (·.instruction)) ∧
      (Analyzer.disassemble n : Query Loaded String).ask l =
        (.ok (String.ofList (slots.zipIdx.flatMap fun (s, k) => block s k)), l) := by
  refine ⟨(l.slotsFrom l.cursor).take n, ?_, ?_, ?_⟩
  · exact (List.take_sublist _ _).trans (l.slotsFrom_suffix l.cursor).sublist
  · rw [same.slotsFrom]
    exact lowest_load distinct l.cursor n
  · rw [ask_disassemble, batchText_eq]

/-! ## The first line of a batch -/

/-- No header stands above the first line of a batch. -/
theorem head?_linesOf_batchText {rest : List Slot} (hfeed : '\n' ∉ lineChars s.instruction)
    (hreturn : '\r' ∉ lineChars s.instruction) :
    (linesOf (String.ofList (batchText (s :: rest)))).head? = some (lineOf s.instruction) := by
  rw [linesOf, String.toList_ofList, batchText, lines_append_newline hfeed,
    withoutReturn_eq_self hreturn]
  rfl

/-- From an instruction on, the slots begin with its own. -/
theorem exists_slotsFrom_eq (distinct : img.Distinct) {i : Instruction}
    (hi : i ∈ img.instructions) :
    ∃ s rest, (load img).slotsFrom i.address = s :: rest ∧ s.instruction = i := by
  obtain ⟨s, hs, rfl⟩ := mem_instructions.mp hi
  obtain ⟨before, after, cut⟩ := List.append_of_mem hs
  exact ⟨s, after, (ascending_load distinct).slotsFrom_address cut, rfl⟩

/-- The line of an instruction is asked for at its address. -/
theorem ask_disassembleOne (distinct : img.Distinct) (same : (load img).SameImage l)
    {i : Instruction} (hi : i ∈ img.instructions) :
    (Analyzer.disassembleOne i.address : Query Loaded String).ask l = (.ok (lineOf i), l) := by
  obtain ⟨s, found, rfl⟩ := (finds_iff distinct same i.address i).mpr ⟨hi, rfl⟩
  show (Except.ok (((l.slotAt? s.instruction.address).map fun s => lineOf s.instruction).getD ""),
    l) = _
  rw [found]
  rfl

/-- A batch at an instruction begins with the line of that instruction. -/
theorem exists_batch_at (distinct : img.Distinct) (same : (load img).SameImage l)
    {i : Instruction} (hi : i ∈ img.instructions) (hfeed : '\n' ∉ lineChars i)
    (hreturn : '\r' ∉ lineChars i) {n : Nat} (hline : 1 ≤ n) (here : l.cursor = i.address) :
    ∃ batch, (Analyzer.disassemble n : Query Loaded String).ask l = (.ok batch, l) ∧
      (linesOf batch).head? = some (lineOf i) := by
  obtain ⟨n, rfl⟩ := Nat.exists_eq_add_of_le' hline
  obtain ⟨s, rest, cut, rfl⟩ := exists_slotsFrom_eq distinct hi
  refine ⟨_, ask_disassemble (n + 1) l, ?_⟩
  rw [here, same.slotsFrom, cut, List.take_succ_cons]
  exact head?_linesOf_batchText hfeed hreturn

/-- In an image whose instructions have addresses of their own, at any current address: the
slots index the instructions; an address finds an instruction just when one stands there, and
then that one; a batch has the lowest instructions from the current address on, each in its
block; and for an instruction that lies in the image, if its line is one line, asking for the
line gives the first line of any batch at its address. -/
theorem index_faithful (distinct : img.Distinct) (same : (load img).SameImage l) :
    l.Indexes img ∧
    (∀ a i, (∃ s, l.slotAt? a = some s ∧ s.instruction = i) ↔
      i ∈ img.instructions ∧ i.address = a) ∧
    (∀ n, ∃ slots : List Slot, slots.Sublist l.slots ∧
      Lowest img l.cursor n (slots.map (·.instruction)) ∧
      (Analyzer.disassemble n : Query Loaded String).ask l =
        (.ok (String.ofList (slots.zipIdx.flatMap fun (s, k) => block s k)), l)) ∧
    (∀ i ∈ img.instructions, l.covers i.address = true →
      '\n' ∉ lineChars i → '\r' ∉ lineChars i → ∀ n, 1 ≤ n →
      ∃ line m batch, (Analyzer.disassembleOne i.address : Query Loaded String).ask l =
          (.ok line, l) ∧
        (Analyzer.reposition i.address : Query Loaded Unit).ask l = (.ok (), m) ∧
        (Analyzer.disassemble n : Query Loaded String).ask m = (.ok batch, m) ∧
        (linesOf batch).head? = some line) := by
  refine ⟨same.indexes distinct, finds_iff distinct same, exists_lowest distinct same, ?_⟩
  intro i hi inside hfeed hreturn n hline
  have moved : (load img).SameImage { l with cursor := i.address } := ⟨same.image, same.slots⟩
  obtain ⟨batch, answer, first⟩ := exists_batch_at distinct moved hi hfeed hreturn hline rfl
  refine ⟨lineOf i, _, batch, ask_disassembleOne distinct same hi, ?_, answer, first⟩
  rw [ask_reposition, if_pos inside]

end Loaded

/-- An image in no order: functions and instructions stand the wrong way round, one function
has no instruction, and one lies within another. -/
def Image.jumbled : Image where
  name := "jumbled"
  sections := [{ name := ".text", start := ⟨0x1000⟩, size := 0x10 }]
  routines := [
    { name := "inner", instructions := [{ address := ⟨0x1004⟩, bytes := "90", text := "nop" }] },
    { name := "hollow", instructions := [] },
    { name := "outer"
      instructions := [
        { address := ⟨0x1008⟩, bytes := "c3", text := "ret" },
        { address := ⟨0x1000⟩, bytes := "eb02", text := "jmp 0x1004", target := some ⟨0x1004⟩ }] }]

/-- The index of that image, with the current address where no instruction stands. -/
theorem Loaded.index_faithful_jumbled :
    Image.jumbled.Distinct ∧ ∃ l, (load .jumbled).SameImage l ∧ l.cursor = ⟨0x1001⟩ ∧
      l.Indexes .jumbled ∧
      (∃ s, l.slotAt? ⟨0x1008⟩ = some s ∧ s.instruction.text = "ret") ∧
      l.slotAt? l.cursor = none ∧
      (∃ slots : List Slot, slots.length = 2 ∧
        Lowest .jumbled ⟨0x1001⟩ 5 (slots.map (·.instruction)) ∧
        (Analyzer.disassemble 5 : Query Loaded String).ask l =
          (.ok (String.ofList (slots.zipIdx.flatMap fun (s, k) => block s k)), l)) ∧
      ∃ line m batch, (Analyzer.disassembleOne ⟨0x1004⟩ : Query Loaded String).ask l =
          (.ok line, l) ∧
        (Analyzer.reposition ⟨0x1004⟩ : Query Loaded Unit).ask l = (.ok (), m) ∧
        (Analyzer.disassemble 2 : Query Loaded String).ask m = (.ok batch, m) ∧
        (linesOf batch).head? = some line := by
  have distinct : Image.jumbled.Distinct := by decide
  have same : (load .jumbled).SameImage { load .jumbled with cursor := ⟨0x1001⟩ } := ⟨rfl, rfl⟩
  obtain ⟨indexes, finds, batches, lines⟩ := index_faithful distinct same
  refine ⟨distinct, _, same, rfl, indexes, ?_, ?_, ?_, ?_⟩
  · obtain ⟨s, found, here⟩ := (finds ⟨0x1008⟩ ⟨⟨0x1008⟩, "c3", "ret", none, none, none⟩).mpr
      ⟨by decide, rfl⟩
    exact ⟨s, found, congrArg Instruction.text here⟩
  · have vacant : ∀ i ∈ Image.jumbled.instructions, i.address ≠ ⟨0x1001⟩ := by decide
    refine Option.eq_none_iff_forall_ne_some.mpr fun s found => ?_
    obtain ⟨listed, here⟩ := (finds ⟨0x1001⟩ s.instruction).mp ⟨s, found, rfl⟩
    exact vacant s.instruction listed here
  · obtain ⟨slots, -, lowest, answer⟩ := batches 5
    have count : (slots.map (·.instruction)).length = 2 := lowest.length.trans (by decide)
    exact ⟨slots, by rwa [List.length_map] at count, lowest, answer⟩
  · exact lines ⟨⟨0x1004⟩, "90", "nop", none, none, none⟩ (by decide) (by decide) (by decide)
      (by decide) 2 (by decide)

end AsmView
