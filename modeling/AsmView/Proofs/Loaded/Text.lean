/-
# The lines of a batch

As long as no text, comment or name holds a line feed, a batch falls apart into one line
for each slot and one for each function that begins behind the first slot.  The lines of
slots have the addresses of their instructions, and the others have none.  So a batch is
known from its slots: `batchLines` are its lines, `furtherLines` are those behind the
first, and putting slots one behind the other puts their lines one behind the other.
-/
import AsmView.Proofs.Loaded

namespace AsmView

open Text

/-- No text, comment or function name of the image holds a line feed. -/
structure Image.OneLined (img : Image) : Prop where
  names : ∀ f ∈ img.routines, '\n' ∉ f.name.toList
  texts : ∀ f ∈ img.routines, ∀ i ∈ f.instructions, '\n' ∉ i.text.toList
  comments : ∀ f ∈ img.routines, ∀ i ∈ f.instructions, ∀ c, i.comment = some c → '\n' ∉ c.toList

/-- The line of the slot and the header of its function are each one line. -/
structure Slot.OneLined (s : Slot) : Prop where
  line : '\n' ∉ Loaded.lineChars s.instruction
  header : '\n' ∉ Loaded.headerChars s.owner

namespace Loaded

/-! ## Texts without a line feed inside -/

theorem newline_not_mem_lineChars {i : Instruction} (text : '\n' ∉ i.text.toList)
    (comment : ∀ c, i.comment = some c → '\n' ∉ c.toList) : '\n' ∉ lineChars i := by
  have bytes : '\n' ∉ padRight bytesColumn (i.bytes.toList.filter (!isBlank ·)) := by
    intro h
    rcases List.mem_append.mp h with shown | padding
    · exact absurd (List.mem_filter.mp shown).2 (by decide)
    · exact absurd (List.eq_of_mem_replicate padding) (by decide)
  unfold lineChars
  cases hc : i.comment with
  | none => simp [Address.newline_not_mem_chars, bytes, text]
  | some c =>
      have comment := comment c hc
      cases empty : c.isEmpty with
      | true => simp [Address.newline_not_mem_chars, bytes, text, empty]
      | false => simp [Address.newline_not_mem_chars, bytes, text, comment, empty]

theorem newline_not_mem_headerChars {f : Routine} (name : '\n' ∉ f.name.toList) :
    '\n' ∉ headerChars f := by
  simpa [headerChars] using name

/-- Every slot of a loaded image is one line, with one line above it at most. -/
theorem oneLined_load {img : Image} (h : img.OneLined) {s : Slot} (hs : s ∈ (load img).slots) :
    s.OneLined := by
  obtain ⟨owned, listed⟩ := mem_slots_load hs
  obtain ⟨f, hf, owner⟩ := mem_sortRoutines owned
  have inside : s.instruction ∈ f.instructions :=
    (instructions_sortRoutine f).mem_iff.mp (owner ▸ listed)
  have name : s.owner.name = f.name := owner ▸ rfl
  exact ⟨newline_not_mem_lineChars (h.texts f hf _ inside) (h.comments f hf _ inside),
    newline_not_mem_headerChars (name ▸ h.names f hf)⟩

/-! ## The lines of slots -/

/-- The line of an instruction as it is shown. -/
def shownLine (i : Instruction) : String :=
  String.ofList (withoutReturn (lineChars i))

/-- The header of a function as it is shown. -/
def headerLine (f : Routine) : String :=
  String.ofList (withoutReturn (headerChars f))

/-- The lines of one slot that is not the first of its batch. -/
def slotLines (s : Slot) : List String :=
  (if s.isFirst then [headerLine s.owner] else []) ++ [shownLine s.instruction]

/-- The lines of slots behind the first. -/
def furtherLines (slots : List Slot) : List String :=
  slots.flatMap slotLines

/-- The lines of a batch. -/
def batchLines : List Slot → List String
  | [] => []
  | s :: rest => shownLine s.instruction :: furtherLines rest

theorem lines_furtherText {slots : List Slot} (h : ∀ s ∈ slots, s.OneLined) :
    (lines (furtherText slots)).map String.ofList = furtherLines slots := by
  induction slots with
  | nil => rfl
  | cons s rest ih =>
      obtain ⟨line, header⟩ := h s List.mem_cons_self
      have further := ih fun r hr => h r (List.mem_cons_of_mem s hr)
      rw [furtherText, furtherLines, List.flatMap_cons, ← furtherLines, ← further, slotLines,
        List.append_assoc]
      cases s.isFirst with
      | true =>
          simp [List.append_assoc, lines_append_newline header, lines_append_newline line,
            headerLine, shownLine]
      | false => simp [lines_append_newline line, shownLine]

/-- The lines of a batch are those of its slots. -/
theorem linesOf_batchText {slots : List Slot} (h : ∀ s ∈ slots, s.OneLined) :
    linesOf (String.ofList (batchText slots)) = batchLines slots := by
  cases slots with
  | nil => rfl
  | cons s rest =>
      have further := lines_furtherText fun r hr => h r (List.mem_cons_of_mem s hr)
      rw [linesOf, String.toList_ofList, batchText,
        lines_append_newline (h s List.mem_cons_self).line, List.map_cons, further]
      rfl

/-- Behind the first line of a batch stands the text of the slots behind its first. -/
theorem afterFirstLine_batchText {slots : List Slot} (h : ∀ s ∈ slots, s.OneLined) :
    afterFirstLine (batchText slots) = furtherText slots.tail := by
  cases slots with
  | nil => rfl
  | cons s rest => exact afterFirstLine_append_newline (h s List.mem_cons_self).line _

theorem batchLines_append {slots : List Slot} (h : slots ≠ []) (further : List Slot) :
    batchLines (slots ++ further) = batchLines slots ++ furtherLines further := by
  cases slots with
  | nil => exact absurd rfl h
  | cons s rest => simp [batchLines, furtherLines]

/-- A slot has two lines at most. -/
theorem length_batchLines_le (slots : List Slot) :
    (batchLines slots).length ≤ 2 * slots.length := by
  have lines : ∀ s : Slot, (slotLines s).length ≤ 2 := by
    intro s
    rw [slotLines]
    split <;> simp
  have further : ∀ slots : List Slot, (furtherLines slots).length ≤ 2 * slots.length := by
    intro slots
    induction slots with
    | nil => exact Nat.le_refl 0
    | cons s rest ih =>
        have head := lines s
        rw [furtherLines, List.flatMap_cons, ← furtherLines, List.length_append, List.length_cons]
        omega
  cases slots with
  | nil => exact Nat.le_refl 0
  | cons s rest =>
      have tail := further rest
      rw [batchLines, List.length_cons, List.length_cons]
      omega

theorem prefix_batchLines_take (slots : List Slot) {m n : Nat} (h : m ≤ n) :
    batchLines (slots.take m) <+: batchLines (slots.take n) := by
  obtain ⟨further, cut⟩ := List.take_prefix_take_left h (l := slots)
  by_cases none : slots.take m = []
  · rw [none]
    exact List.nil_prefix
  · rw [← cut, batchLines_append none]
    exact List.prefix_append _ _

/-! ## The addresses of the lines -/

theorem lineChars_eq (i : Instruction) : ∃ rest, lineChars i = i.address.chars ++ ' ' :: rest :=
  ⟨_, by rw [lineChars, List.append_assoc, List.append_assoc]; rfl⟩

theorem lineAddress?_shownLine (i : Instruction) : lineAddress? (shownLine i) = some i.address := by
  obtain ⟨rest, h⟩ := lineChars_eq i
  rw [lineAddress?, shownLine, String.toList_ofList, h, withoutReturn_append_cons _ (by decide)]
  exact Address.addressOfChars?_chars _ (by decide) _

theorem lineAddress?_headerLine (f : Routine) : lineAddress? (headerLine f) = none := by
  rw [lineAddress?, headerLine, String.toList_ofList, headerChars, List.cons_append,
    withoutReturn_cons _ (by simp)]
  exact addressOfChars?_semicolon _

/-- A line of a slot that has an address has that of the slot. -/
theorem address_of_mem_slotLines {s : Slot} {line : String} {a : Address} (h : line ∈ slotLines s)
    (ha : lineAddress? line = some a) : s.address = a := by
  rw [slotLines] at h
  rcases List.mem_append.mp h with header | shown
  · split at header
    · rw [List.mem_singleton.mp header, lineAddress?_headerLine] at ha
      exact nomatch ha
    · exact nomatch header
  · rw [List.mem_singleton.mp shown, lineAddress?_shownLine] at ha
    exact Option.some.inj ha

theorem exists_of_mem_furtherLines {slots : List Slot} {line : String} {a : Address}
    (h : line ∈ furtherLines slots) (ha : lineAddress? line = some a) :
    ∃ s ∈ slots, s.address = a := by
  obtain ⟨s, hs, hline⟩ := List.mem_flatMap.mp h
  exact ⟨s, hs, address_of_mem_slotLines hline ha⟩

theorem exists_of_mem_batchLines {slots : List Slot} {line : String} {a : Address}
    (h : line ∈ batchLines slots) (ha : lineAddress? line = some a) :
    ∃ s ∈ slots, s.address = a := by
  cases slots with
  | nil => exact nomatch h
  | cons s rest =>
      rcases List.mem_cons.mp h with rfl | later
      · rw [lineAddress?_shownLine] at ha
        exact ⟨s, List.mem_cons_self, Option.some.inj ha⟩
      · obtain ⟨r, hr, here⟩ := exists_of_mem_furtherLines later ha
        exact ⟨r, List.mem_cons_of_mem s hr, here⟩

/-- A line that has an address. -/
def isAddressed (line : String) : Bool :=
  (lineAddress? line).isSome

theorem isAddressed_shownLine (i : Instruction) : isAddressed (shownLine i) = true := by
  rw [isAddressed, lineAddress?_shownLine]
  rfl

theorem isAddressed_headerLine (f : Routine) : isAddressed (headerLine f) = false := by
  rw [isAddressed, lineAddress?_headerLine]
  rfl

theorem countP_furtherLines (slots : List Slot) :
    (furtherLines slots).countP isAddressed = slots.length := by
  induction slots with
  | nil => rfl
  | cons s rest ih =>
      rw [furtherLines, List.flatMap_cons, ← furtherLines, List.countP_append, ih, slotLines]
      cases s.isFirst with
      | true => simp [isAddressed_shownLine, isAddressed_headerLine, Nat.add_comm]
      | false => simp [isAddressed_shownLine, Nat.add_comm]

/-- As many lines of a batch have an address as it has slots. -/
theorem countP_batchLines (slots : List Slot) :
    (batchLines slots).countP isAddressed = slots.length := by
  cases slots with
  | nil => rfl
  | cons s rest =>
      rw [batchLines, List.countP_cons_of_pos (isAddressed_shownLine _), countP_furtherLines,
        List.length_cons]

/-- The last line of slots is the line of the last of them. -/
theorem getLast?_furtherLines (slots : List Slot) (s : Slot) :
    (furtherLines (slots ++ [s])).getLast? = some (shownLine s.instruction) := by
  simp [furtherLines, slotLines]

theorem getLast?_batchLines (slots : List Slot) (s : Slot) :
    (batchLines (slots ++ [s])).getLast? = some (shownLine s.instruction) := by
  cases slots with
  | nil => rfl
  | cons r rest =>
      have further := getLast?_furtherLines rest s
      rw [List.cons_append, batchLines, List.getLast?_cons, further]
      rfl

theorem lastAddress?_batchLines (slots : List Slot) (s : Slot) :
    (batchLines (slots ++ [s])).getLast?.bind lineAddress? = some s.address := by
  rw [getLast?_batchLines, Option.bind_some, lineAddress?_shownLine]
  rfl

/-- Slots that read the same begin at the same address. -/
theorem findSome?_furtherLines (s : Slot) (rest : List Slot) :
    (furtherLines (s :: rest)).findSome? lineAddress? = some s.address := by
  rw [furtherLines, List.flatMap_cons, slotLines]
  cases s.isFirst with
  | true => simp [lineAddress?_headerLine, lineAddress?_shownLine, Slot.address]
  | false => simp [lineAddress?_shownLine, Slot.address]

/-- The text of a slot is not blank. -/
theorem allBlank_furtherText (s : Slot) (rest : List Slot) :
    allBlank (furtherText (s :: rest)) = false := by
  have zero : '0' ∈ furtherText (s :: rest) := by
    simp [furtherText, lineChars, Address.chars]
  rw [allBlank, List.all_eq_false]
  exact ⟨'0', zero, by decide⟩

end Loaded

end AsmView
