/-
# Who owns an address

Three lookups tell the function at an address, each by a test of its own: the name, by the
entry and the end of the function; the record, by its entry and size, of which at least one
byte counts; and, in an image without sections, whether the address lies in the image, by the
first and the last instruction of all.  `lookups_agree` says that they agree for an image that
passes the check, and how far.

They agree on every function behind which there is another address.  A function that takes up
the last byte there is has no end and the size 0, and here each test goes its own way: no
address has the name, the record holds the entry alone, and the image stops in front of the
last instruction.  The check of an image lets such a function pass, and does not even keep it
clear of others (`Image.crowdedTop`), so where records and the extent of the image are spoken
of, the functions are taken to be clear of each other.  `topmost` is an image of one
instruction in which the lookups miss the owner.
-/
import AsmView.Proofs.Loaded.Accepted

namespace AsmView

open Text

namespace Routine

variable {f g : Routine} {first last : Instruction}

/-- The functions have no byte in common, counted without a bound. -/
def Clear (f g : Routine) : Prop :=
  ∀ n, f.Occupies n → ¬ g.Occupies n

theorem Clear.symm (h : f.Clear g) : g.Clear f :=
  fun n own other => h n other own

instance : Std.Symm Clear :=
  ⟨fun _ _ => Clear.symm⟩

/-! ## Entry, end and size -/

theorem occupies_iff (head : f.instructions.head? = some first)
    (tail : f.instructions.getLast? = some last) {n : Nat} :
    f.Occupies n ↔ first.address.toNat ≤ n ∧ n < last.endNat := by
  constructor
  · rintro ⟨first', last', head', tail', low, high⟩
    obtain rfl : first' = first := Option.some.inj (head'.symm.trans head)
    obtain rfl : last' = last := Option.some.inj (tail'.symm.trans tail)
    exact ⟨low, high⟩
  · rintro ⟨low, high⟩
    exact ⟨first, last, head, tail, low, high⟩

theorem endsInside_iff (tail : f.instructions.getLast? = some last) :
    f.EndsInside ↔ last.endNat < UInt64.size := by
  constructor
  · intro inside
    exact inside last tail
  · intro fits other tail'
    obtain rfl : last = other := Option.some.inj (tail.symm.trans tail')
    exact fits

/-- The size of a function is the distance from its entry to its end, if there is an end. -/
theorem size_eq (ordered : f.Ordered) (head : f.instructions.head? = some first)
    (tail : f.instructions.getLast? = some last) :
    f.size = if last.endNat < UInt64.size then last.endNat - first.address.toNat else 0 := by
  have reaches := ((occupies_iff head tail).mp (ordered.occupies head)).2
  have start := start?_eq head
  rcases last.end?_cases with ⟨e, ends, same⟩ | ⟨ends, beyond⟩
  · have stop : f.stop? = some e := (stop?_eq tail).trans ends
    have fits : last.endNat < UInt64.size := same ▸ e.value.toNat_lt
    have le : first.address ≤ e := by
      rw [Address.le_iff, ← same]
      exact Nat.le_of_lt reaches
    rw [size, start, stop, if_pos fits, same]
    simp [Address.distanceFrom?, le]
  · have stop : f.stop? = none := (stop?_eq tail).trans ends
    rw [size, start, stop, if_neg beyond]

end Routine

/-- A record holds its entry, and as many addresses from there on as its size says. -/
theorem KnownFunction.contains_iff {r : KnownFunction} {x : Address} :
    r.contains x = true ↔
      r.entry.toNat ≤ x.toNat ∧ x.toNat - r.entry.toNat < max r.size.toNat 1 := by
  unfold contains Address.distanceFrom?
  by_cases above : r.entry ≤ x
  · rw [if_pos above]
    simp [Address.le_iff.mp above]
  · rw [if_neg above]
    simp [mt Address.le_iff.mpr above]

namespace Loaded

open Routine

variable {l m : Loaded} {img : Image} {f g : Routine} {r : KnownFunction} {x : Address}
  {first last : Instruction}

/-! ## Records -/

/-- The record of a function has its name, its entry, and as its size the distance from the
entry to the end, or 0 where the function has no end. -/
structure RecordOf (f : Routine) (r : KnownFunction) : Prop where
  name : r.name = f.name
  entry : f.start? = some r.entry
  size : f.EndsInside → ∀ last, f.instructions.getLast? = some last →
    r.size.toNat = last.endNat - r.entry.toNat
  endless : ¬ f.EndsInside → r.size.toNat = 0

theorem recordOf_recordOf? (ordered : f.Ordered) (record : l.recordOf? f = some r) :
    RecordOf f r := by
  obtain ⟨entry, start, rfl⟩ := Option.map_eq_some_iff.mp record
  obtain ⟨first, head, rfl⟩ := Option.map_eq_some_iff.mp start
  obtain ⟨last, tail⟩ := exists_last (List.ne_nil_of_mem (List.mem_of_head? head))
  have size := size_eq ordered head tail
  have below : f.size < UInt64.size := by
    split at size
    · omega
    · exact size ▸ (by decide : 0 < UInt64.size)
  have kept : (f.size.toUInt64).toNat = f.size := UInt64.toNat_ofNat_of_lt' below
  refine ⟨rfl, start, ?_, ?_⟩
  · intro ends last' tail'
    obtain rfl : last = last' := Option.some.inj (tail.symm.trans tail')
    rw [if_pos ((endsInside_iff tail).mp ends)] at size
    exact kept.trans size
  · intro endless
    rw [if_neg (mt (endsInside_iff tail).mpr endless)] at size
    exact kept.trans size

/-- The record of a function that ends inside holds what the function takes up, that of
another the entry alone. -/
theorem RecordOf.contains_iff (record : RecordOf f r) (ordered : f.Ordered) :
    r.contains x = true ↔
      (f.EndsInside ∧ f.Occupies x.toNat) ∨ (¬ f.EndsInside ∧ x = r.entry) := by
  obtain ⟨first, head, entry⟩ := Option.map_eq_some_iff.mp record.entry
  obtain ⟨last, tail⟩ := exists_last (List.ne_nil_of_mem (List.mem_of_head? head))
  have reaches := ((occupies_iff head tail).mp (ordered.occupies head)).2
  rw [occupies_iff head tail, KnownFunction.contains_iff]
  rw [entry] at reaches ⊢
  by_cases ends : f.EndsInside
  · have size := record.size ends last tail
    simp only [ends, true_and, not_true_eq_false, false_and, or_false]
    omega
  · have size := record.endless ends
    have same : x = r.entry ↔ x.toNat = r.entry.toNat :=
      ⟨congrArg Address.toNat, Address.toNat_injective⟩
    simp only [ends, false_and, not_false_eq_true, true_and, false_or, same]
    omega

/-- A record holds only what its function takes up. -/
theorem RecordOf.occupies (record : RecordOf f r) (ordered : f.Ordered)
    (holds : r.contains x = true) : f.Occupies x.toNat := by
  rcases (record.contains_iff ordered).mp holds with ⟨-, occupied⟩ | ⟨-, rfl⟩
  · exact occupied
  · obtain ⟨first, head, entry⟩ := Option.map_eq_some_iff.mp record.entry
    exact entry ▸ ordered.occupies head

/-! ## The functions of an accepted image -/

/-- Where functions are clear of each other, one that takes up a byte is the only one. -/
theorem eq_of_occupies (clear : img.routines.Pairwise Clear) (hf : f ∈ img.routines)
    (hg : g ∈ img.routines) {n : Nat} (own : f.Occupies n) (other : g.Occupies n) : f = g := by
  by_contra distinct
  exact clear.forall hf hg distinct n own other

theorem clear_of_ends (accepted : img.breach? = none) (ends : ∀ f ∈ img.routines, f.EndsInside) :
    img.routines.Pairwise Clear := by
  refine ((Image.breach?_eq_none_iff img).mp accepted).apart.imp_of_mem ?_
  intro f g hf hg apart
  exact apart (ends f hf) (ends g hg)

/-! ## One lookup after another -/

theorem SameImage.ownerOf?_eq (h : l.SameImage m) : m.ownerOf? x = l.ownerOf? x := by
  rw [Loaded.ownerOf?, h.image]
  rfl

/-- The name is that of the function that contains the address. -/
theorem ask_functionNameAt (x : Address) (l : Loaded) :
    (Analyzer.functionNameAt x : Query Loaded String).ask l = (.ok (l.nameAt x), l) :=
  rfl

theorem ownerOf?_eq_none (accepted : img.breach? = none)
    (unowned : ∀ f ∈ img.routines, f.EndsInside → ¬ f.Occupies x.toNat) :
    (load img).ownerOf? x = none := by
  refine List.find?_eq_none.mpr ?_
  intro f listed inside
  obtain ⟨ends, occupied⟩ := Image.contains_iff.mp inside
  exact unowned f ((mem_routines_load accepted).mp listed).1 ends occupied

theorem mem_functions (accepted : img.breach? = none) :
    r ∈ Analyzer.functions (load img) ↔
      ∃ f ∈ img.routines, f.instructions ≠ [] ∧ (load img).recordOf? f = some r := by
  refine List.mem_filterMap.trans ?_
  simp only [mem_routines_load accepted, and_assoc]

/-- Where functions are clear of each other, whatever record holds an address that a function
takes up is the record of that function. -/
theorem recordOf?_of_contains (accepted : img.breach? = none)
    (clear : img.routines.Pairwise Clear) (hf : f ∈ img.routines) (occupied : f.Occupies x.toNat)
    (listed : r ∈ Analyzer.functions (load img)) (holds : r.contains x = true) :
    (load img).recordOf? f = some r := by
  obtain ⟨g, hg, -, record⟩ := (mem_functions accepted).mp listed
  have ordered := ordered_of_accepted accepted hg
  have other := (recordOf_recordOf? ordered record).occupies ordered holds
  exact eq_of_occupies clear hf hg occupied other ▸ record

theorem exists_record (occupied : f.instructions ≠ []) :
    ∃ r, l.recordOf? f = some r := by
  obtain ⟨first, head⟩ := exists_first occupied
  rw [recordOf?, start?_eq head]
  exact ⟨_, rfl⟩

theorem find?_functions (accepted : img.breach? = none) (clear : img.routines.Pairwise Clear)
    (hf : f ∈ img.routines) (occupied : f.Occupies x.toNat)
    (record : (load img).recordOf? f = some r) (holds : r.contains x = true) :
    (Analyzer.functions (load img)).find? (·.contains x) = some r := by
  have listed := (mem_functions accepted).mpr ⟨f, hf, occupied.ne_nil, record⟩
  cases found : (Analyzer.functions (load img)).find? (·.contains x) with
  | none => exact absurd holds (List.find?_eq_none.mp found r listed)
  | some s =>
      have same := recordOf?_of_contains accepted clear hf occupied
        (List.mem_of_find?_eq_some found)
        (List.find?_some (p := fun s : KnownFunction => s.contains x) found)
      exact same.symm.trans record

/-! ## The extent of the image -/

/-- Without sections the image reaches from its first instruction to the end of its last. -/
theorem covers_iff (plain : l.image.sections = []) {s t : Slot} (low : l.slots.head? = some s)
    (high : l.slots.getLast? = some t) :
    l.covers x = true ↔
      s.address ≤ x ∧ x < t.instruction.end?.getD t.address := by
  rw [covers, plain, low, high]
  simp

/-- The first slot stands at the least address, and the last at the greatest. -/
theorem exists_slots (hf : f ∈ img.routines) (occupied : f.instructions ≠ []) :
    ∃ s t, (load img).slots.head? = some s ∧ (load img).slots.getLast? = some t ∧
      ∀ i ∈ f.instructions, s.address ≤ i.address ∧ i.address ≤ t.address := by
  have slotted : ∀ i ∈ f.instructions, ∃ s ∈ (load img).slots, s.instruction = i := by
    intro i hi
    exact mem_instructions.mp (List.mem_flatMap.mpr ⟨f, hf, hi⟩)
  obtain ⟨i, hi⟩ := List.exists_mem_of_ne_nil _ occupied
  obtain ⟨r, hr, -⟩ := slotted i hi
  have filled : (load img).slots ≠ [] := List.ne_nil_of_mem hr
  refine ⟨_, _, List.head?_eq_some_head filled, List.getLast?_eq_some_getLast filled, ?_⟩
  intro j hj
  obtain ⟨u, hu, rfl⟩ := slotted j hj
  exact ⟨(load img).sorted.rel_head_of_rel_head_head hu (Nat.le_refl _),
    (load img).sorted.rel_getLast_of_rel_getLast_getLast hu (Nat.le_refl _)⟩

/-- The last slot is the last instruction of a function, or lies behind the function. -/
theorem last_slot (accepted : img.breach? = none) (clear : img.routines.Pairwise Clear)
    (hf : f ∈ img.routines) (tail : f.instructions.getLast? = some last) {t : Slot}
    (ht : t ∈ (load img).slots) (high : last.address ≤ t.address) :
    t.instruction = last ∨ last.endNat ≤ t.address.toNat := by
  have ordered := ordered_of_accepted accepted hf
  obtain ⟨listed, inside⟩ := mem_slots_load ht
  have owned := ((mem_routines_load accepted).mp listed).1
  by_cases own : t.owner = f
  · rcases ordered.le_last tail (own ▸ inside) with same | before
    · exact .inl same
    · have := t.instruction.address_lt_endNat
      have : last.address.toNat ≤ t.instruction.address.toNat := high
      omega
  · obtain ⟨first, head⟩ := exists_first (List.ne_nil_of_mem (List.mem_of_getLast? tail))
    -- the other function takes up the last slot, so the slot is none of the function's bytes
    have other := (ordered_of_accepted accepted owned).occupies_address inside
    have beyond := clear.forall owned hf own _ other
    have low := (occupies_iff head tail).mp (ordered.occupies_address (List.mem_of_getLast? tail))
    rw [occupies_iff head tail] at beyond
    have : last.address.toNat ≤ t.instruction.address.toNat := high
    refine .inr ?_
    show last.endNat ≤ t.instruction.address.toNat
    omega

/-- Without sections the image holds what a function that ends inside takes up; of another
it leaves out what begins with the last instruction. -/
theorem covers_load (accepted : img.breach? = none) (clear : img.routines.Pairwise Clear)
    (plain : img.sections = []) (hf : f ∈ img.routines)
    (tail : f.instructions.getLast? = some last) (occupied : f.Occupies x.toNat) :
    (load img).covers x = true ↔ f.EndsInside ∨ x < last.address := by
  obtain ⟨s, t, low, high, between⟩ := exists_slots hf occupied.ne_nil
  obtain ⟨first, other, head, tail', above, below⟩ := occupied
  obtain rfl : last = other := Option.some.inj (tail.symm.trans tail')
  have start : s.address ≤ x :=
    Nat.le_trans (between first (List.mem_of_head? head)).1 above
  have greatest : last.address ≤ t.address := (between last (List.mem_of_getLast? tail)).2
  rw [covers_iff plain low high, and_iff_right start, Address.lt_iff, endsInside_iff tail]
  rcases last_slot accepted clear hf tail (List.mem_of_getLast? high) greatest with same | behind
  · have here : t.address = last.address := congrArg Instruction.address same
    rw [same, here]
    rcases last.end?_cases with ⟨e, ends, reach⟩ | ⟨ends, beyond⟩
    · have fits : last.endNat < UInt64.size := reach ▸ e.value.toNat_lt
      rw [ends]
      exact iff_of_true (reach ▸ below) (.inl fits)
    · rw [ends]
      exact (or_iff_right beyond).symm
  · have fits : last.endNat < UInt64.size := Nat.lt_of_le_of_lt behind t.address.value.toNat_lt
    refine iff_of_true ?_ (.inl fits)
    rcases t.instruction.end?_cases with ⟨e, ends, reach⟩ | ⟨ends, -⟩
    · have := t.instruction.address_lt_endNat
      rw [ends]
      show x.toNat < e.toNat
      have : t.address.toNat = t.instruction.address.toNat := rfl
      omega
    · rw [ends]
      exact Nat.lt_of_lt_of_le below behind

/-! ## All lookups together -/

/-- The lookups name the function as the owner of the address. -/
structure Owned (l : Loaded) (f : Routine) (x : Address) : Prop where
  name : (Analyzer.functionNameAt x : Query Loaded String).ask l = (.ok f.name, l)
  record : ∃ r, (Analyzer.functions l).find? (·.contains x) = some r ∧
    l.recordOf? f = some r ∧ RecordOf f r
  place : l.image.sections = [] →
    (Analyzer.reposition x : Query Loaded Unit).ask l = (.ok (), { l with cursor := x })

/-- The lookups find no owner of the address. -/
structure Unowned (l : Loaded) (x : Address) : Prop where
  name : (Analyzer.functionNameAt x : Query Loaded String).ask l = (.ok "", l)
  record : ∀ r ∈ Analyzer.functions l, ¬ r.contains x = true

/-- What the lookups find of a function without an end: no name, a record that holds the
entry, and, without sections, an image that stops in front of the last instruction. -/
structure Endless (l : Loaded) (f : Routine) (x : Address) : Prop where
  name : (Analyzer.functionNameAt x : Query Loaded String).ask l = (.ok "", l)
  record : ∃ r, l.recordOf? f = some r ∧ RecordOf f r ∧
    (Analyzer.functions l).find? (·.contains x) = if x = r.entry then some r else none
  place : l.image.sections = [] → ∀ last, f.instructions.getLast? = some last →
    (Analyzer.reposition x : Query Loaded Unit).ask l =
      if x < last.address then (.ok (), { l with cursor := x }) else (.error (.outOfRange x), l)

theorem name_load (accepted : img.breach? = none) (same : (load img).SameImage l)
    (hf : f ∈ img.routines) (ends : f.EndsInside) (occupied : f.Occupies x.toNat) :
    (Analyzer.functionNameAt x : Query Loaded String).ask l = (.ok f.name, l) := by
  have inside := Image.contains_iff.mpr ⟨ends, occupied⟩
  rw [ask_functionNameAt, nameAt, same.ownerOf?_eq, ownerOf?_load accepted hf inside]
  rfl

theorem owned_load (accepted : img.breach? = none) (clear : img.routines.Pairwise Clear)
    (same : (load img).SameImage l) (hf : f ∈ img.routines) (ends : f.EndsInside)
    (occupied : f.Occupies x.toNat) : l.Owned f x := by
  refine ⟨name_load accepted same hf ends occupied, ?_, ?_⟩
  · obtain ⟨r, record⟩ := exists_record (l := load img) occupied.ne_nil
    have is := recordOf_recordOf? (ordered_of_accepted accepted hf) record
    have holds := (is.contains_iff (ordered_of_accepted accepted hf)).mpr (.inl ⟨ends, occupied⟩)
    refine ⟨r, ?_, (congrFun same.recordOf?_eq f).trans record, is⟩
    rw [same.functions]
    exact find?_functions accepted clear hf occupied record holds
  · intro plain
    obtain ⟨last, tail⟩ := exists_last occupied.ne_nil
    rw [same.image] at plain
    have inside := (covers_load accepted clear plain hf tail occupied).mpr (.inl ends)
    rw [ask_reposition, same.covers, if_pos inside]

theorem endless_load (accepted : img.breach? = none) (clear : img.routines.Pairwise Clear)
    (same : (load img).SameImage l) (hf : f ∈ img.routines) (endless : ¬ f.EndsInside)
    (occupied : f.Occupies x.toNat) : l.Endless f x := by
  refine ⟨?_, ?_, ?_⟩
  · have unowned : (load img).ownerOf? x = none := by
      refine ownerOf?_eq_none accepted ?_
      rintro g hg ends other
      exact endless (eq_of_occupies clear hf hg occupied other ▸ ends)
    rw [ask_functionNameAt, nameAt, same.ownerOf?_eq, unowned]
    rfl
  · obtain ⟨r, record⟩ := exists_record (l := load img) occupied.ne_nil
    have is := recordOf_recordOf? (ordered_of_accepted accepted hf) record
    have holds := is.contains_iff (x := x) (ordered_of_accepted accepted hf)
    refine ⟨r, (congrFun same.recordOf?_eq f).trans record, is, ?_⟩
    rw [same.functions]
    split
    · rename_i entry
      exact find?_functions accepted clear hf occupied record
        (holds.mpr (.inr ⟨endless, entry⟩))
    · rename_i elsewhere
      refine List.find?_eq_none.mpr ?_
      intro s listed held
      have own := recordOf?_of_contains accepted clear hf occupied listed held
      obtain rfl := Option.some.inj (own.symm.trans record)
      rcases holds.mp held with ⟨ends, -⟩ | ⟨-, entry⟩
      · exact endless ends
      · exact elsewhere entry
  · intro plain last tail
    rw [same.image] at plain
    have extent := covers_load accepted clear plain hf tail occupied
    rw [or_iff_right endless] at extent
    rw [ask_reposition, same.covers]
    exact if_congr extent rfl rfl

theorem unowned_load (accepted : img.breach? = none) (same : (load img).SameImage l)
    (free : ∀ f ∈ img.routines, ¬ f.Occupies x.toNat) : l.Unowned x := by
  refine ⟨?_, ?_⟩
  · have unowned := ownerOf?_eq_none accepted fun f hf _ => free f hf
    rw [ask_functionNameAt, nameAt, same.ownerOf?_eq, unowned]
    rfl
  · intro r listed holds
    rw [same.functions] at listed
    obtain ⟨f, hf, -, record⟩ := (mem_functions accepted).mp listed
    have ordered := ordered_of_accepted accepted hf
    exact free f hf ((recordOf_recordOf? ordered record).occupies ordered holds)

/-- All lookups tell the same owner, if no function lacks an end.  An address that no function
takes up has no owner, and one in a function that ends inside has the function's name, whatever
the other functions.  Where functions are clear of each other, a function without an end is the
only one that the lookups do not tell. -/
theorem lookups_agree (accepted : img.breach? = none) (asked : Analyzer.Asked (load img) l) :
    ((∀ f ∈ img.routines, f.EndsInside) →
      ∀ f ∈ img.routines, ∀ x : Address, f.Occupies x.toNat → l.Owned f x) ∧
    (∀ x : Address, (∀ f ∈ img.routines, ¬ f.Occupies x.toNat) → l.Unowned x) ∧
    (∀ f ∈ img.routines, f.EndsInside → ∀ x : Address, f.Occupies x.toNat →
      (Analyzer.functionNameAt x : Query Loaded String).ask l = (.ok f.name, l)) ∧
    (img.routines.Pairwise Clear → ∀ f ∈ img.routines, ∀ x : Address, f.Occupies x.toNat →
      (f.EndsInside → l.Owned f x) ∧ (¬ f.EndsInside → l.Endless f x)) := by
  have same := sameImage_of_asked asked
  refine ⟨?_, ?_, ?_, ?_⟩
  · intro ends f hf x occupied
    exact owned_load accepted (clear_of_ends accepted ends) same hf (ends f hf) occupied
  · intro x free
    exact unowned_load accepted same free
  · intro f hf ends x occupied
    exact name_load accepted same hf ends occupied
  · intro clear f hf x occupied
    exact ⟨fun ends => owned_load accepted clear same hf ends occupied,
      fun endless => endless_load accepted clear same hf endless occupied⟩

theorem lookups_agree_nearTop :
    Image.nearTop.breach? = none ∧ (∀ f ∈ Image.nearTop.routines, f.EndsInside) ∧
      ∃ f ∈ Image.nearTop.routines, f.Occupies 0xfffffffffffffffe ∧
        (load .nearTop).Owned f ⟨0xfffffffffffffffe⟩ := by
  have accepted : Image.nearTop.breach? = none := by
    rw [Image.breach?, Image.sortedSpans, List.mergeSort_of_pairwise (by decide)]
    decide
  have ends : ∀ f ∈ Image.nearTop.routines, f.EndsInside := by
    intro f hf last tail
    rcases List.mem_cons.mp hf with rfl | hf
    · obtain rfl := Option.some.inj tail
      decide
    · obtain rfl := List.mem_singleton.mp hf
      obtain rfl := Option.some.inj tail
      decide
  have high : Image.nearTop.routines[1] ∈ Image.nearTop.routines := List.getElem_mem _
  have occupied : Image.nearTop.routines[1].Occupies 0xfffffffffffffffe :=
    ⟨_, _, rfl, rfl, by decide, by decide⟩
  exact ⟨accepted, ends, _, high, occupied,
    (lookups_agree accepted .refl).1 ends _ high ⟨0xfffffffffffffffe⟩ occupied⟩

end Loaded

/-- A function of one instruction, which is the last byte there is. -/
def Image.topmost : Image where
  name := "topmost"
  routines := [
    { name := "f", instructions := [{ address := ⟨0xffffffffffffffff⟩, text := "ret" }] }]

namespace Loaded

/-- The image passes the check, and yet neither the name nor the image is found where its
function stands. -/
theorem topmost_unfound :
    Image.topmost.breach? = none ∧
      ∃ f ∈ Image.topmost.routines, f.Occupies 0xffffffffffffffff ∧ f.name = "f" ∧
        (Analyzer.functionNameAt ⟨0xffffffffffffffff⟩ : Query Loaded String).ask (load .topmost) =
          (.ok "", load .topmost) ∧
        (Analyzer.reposition ⟨0xffffffffffffffff⟩ : Query Loaded Unit).ask (load .topmost) =
          (.error (.outOfRange ⟨0xffffffffffffffff⟩), load .topmost) := by
  have sorted : Sorted .topmost := ⟨by decide, by decide, by decide, by decide⟩
  have loaded := load_of_sorted sorted
  refine ⟨?_, Image.topmost.routines[0], List.getElem_mem _, ?_, rfl, ?_, ?_⟩
  · rw [Image.breach?, Image.sortedSpans, List.mergeSort_of_pairwise (by decide)]
    decide
  · exact ⟨_, _, rfl, rfl, by decide, by decide⟩
  · rw [loaded]
    rfl
  · rw [loaded]
    rfl

end Loaded

end AsmView
