/-
# A loaded image as an analyzer

An image is loaded by sorting: instructions by address within each function,
functions by entry, empty functions dropped.  The positions of all instructions, put in
order of address, are the index, and what stands at them are the slots.  An address is
searched for among the slots by halves, and batches of lines are cut from them at the
current address in the same way.  No question changes anything but the current address,
and only moving it can fail.
-/
import AsmView.Analyzer
import AsmView.Halving
import AsmView.Image
import AsmView.Line
import AsmView.Loaded.Graph
import AsmView.Loaded.Transfer

namespace AsmView

open Text

/-- An instruction together with the function it stands in. -/
structure Slot where
  owner : Routine
  /-- Whether it is the function's first instruction. -/
  isFirst : Bool
  instruction : Instruction

def Slot.address (s : Slot) : Address :=
  s.instruction.address

/-- A loaded image: sorted functions, all instructions by address, and the current
address. -/
structure Loaded where
  image : Image
  slots : List Slot
  cursor : Address
  sorted : slots.Pairwise fun s t => s.address ≤ t.address

/-- Where an instruction stands: the number of its function, and its own number there. -/
structure Position where
  routine : Nat
  instruction : Nat
deriving DecidableEq, Repr

namespace Loaded

/-- A function with its instructions in order of address. -/
def sortRoutine (f : Routine) : Routine :=
  { f with instructions := f.instructions.mergeSort fun i j => i.address ≤ j.address }

/-- Functions in order of entry, without those that have no instruction. -/
def sortRoutines (fs : List Routine) : List Routine :=
  ((fs.map sortRoutine).filter (!·.instructions.isEmpty)).mergeSort fun f g =>
    (f.start?.map (·.toNat)).getD 0 ≤ (g.start?.map (·.toNat)).getD 0

/-- The positions of all instructions, function by function. -/
def positions (fs : List Routine) : List Position :=
  fs.zipIdx.flatMap fun (f, k) => (List.range f.instructions.length).map (⟨k, ·⟩)

/-- What stands at a position. -/
def slotOf? (fs : List Routine) (p : Position) : Option Slot :=
  fs[p.routine]?.bind fun f =>
    f.instructions[p.instruction]?.map fun i => ⟨f, p.instruction = 0, i⟩

/-- What a slot is sorted by: the number of its address. -/
def sortKey (s : Option Slot) : Nat :=
  (s.map (·.address.toNat)).getD 0

/-- All positions in order of address. -/
def index (fs : List Routine) : List Position :=
  (positions fs).mergeSort fun p q => sortKey (slotOf? fs p) ≤ sortKey (slotOf? fs q)

/-- All slots in order of address. -/
def sortSlots (fs : List Routine) : List Slot :=
  (index fs).filterMap (slotOf? fs)

/-- What is sorted by numbers is in order of the numbers. -/
theorem pairwise_mergeSort_key {α : Type} (key : α → Nat) (xs : List α) :
    (xs.mergeSort fun x y => key x ≤ key y).Pairwise fun x y => key x ≤ key y := by
  refine (List.pairwise_mergeSort (fun x y z => ?_) (fun x y => ?_) xs).imp of_decide_eq_true
  · simp only [decide_eq_true_eq]
    exact Nat.le_trans
  · simp only [Bool.or_eq_true, decide_eq_true_eq]
    exact Nat.le_total _ _

theorem sorted_sortSlots (fs : List Routine) :
    (sortSlots fs).Pairwise fun s t => s.address ≤ t.address := by
  refine List.pairwise_filterMap.mpr ((pairwise_mergeSort_key _ (positions fs)).imp ?_)
  intro p q le s hs t ht
  rw [hs, ht] at le
  exact le

/-- Where an image starts: its entry, or else the entry of its first function. -/
def startOf? (img : Image) : Option Address :=
  img.entry.or (img.routines.head?.bind (·.start?))

/-- Loads an image; the current address is where it starts. -/
def load (img : Image) : Loaded :=
  let image := { img with routines := sortRoutines img.routines }
  ⟨image, sortSlots image.routines, (startOf? image).getD ⟨0⟩, sorted_sortSlots image.routines⟩

/-- The slot at an address; of several the last. -/
def slotAt? (l : Loaded) (a : Address) : Option Slot :=
  Halving.find? (fun s => compare s.address.toNat a.toNat) l.slots

/-- The first function that contains an address. -/
def ownerOf? (l : Loaded) (a : Address) : Option Routine :=
  l.image.routines.find? (·.contains a)

def named? (l : Loaded) (name : String) : Option Routine :=
  l.image.routines.find? (·.name = name)

def sectionOf? (l : Loaded) (a : Address) : Option Section :=
  l.image.sections.find? (·.contains a)

/-- The address lies in the image: in a section, or, when there are none, between
the first instruction and the end of the last.  An end beyond the last address
leaves out the whole last instruction. -/
def covers (l : Loaded) (a : Address) : Bool :=
  if !l.image.sections.isEmpty then (l.sectionOf? a).isSome
  else match l.slots.head?, l.slots.getLast? with
    | some first, some last =>
      first.address ≤ a && a < last.instruction.end?.getD last.address
    | _, _ => false

/-- The fewest characters the column of raw bytes takes. -/
def bytesColumn : Nat := 12

/-- The line of an instruction: address, raw bytes, text, and the comment. -/
def lineChars (i : Instruction) : List Char :=
  i.address.chars ++ ' ' :: ' ' ::
    padRight bytesColumn (i.bytes.toList.filter (!isBlank ·)) ++ ' ' :: i.text.toList ++
    match i.comment with
    | some c => if c.isEmpty then [] else ' ' :: ' ' :: ';' :: ' ' :: c.toList
    | none => []

/-- The line that announces a function. -/
def headerChars (f : Routine) : List Char :=
  ';' :: '-' :: '-' :: ' ' :: f.name.toList ++ [':']

def lineOf (i : Instruction) : String :=
  String.ofList (lineChars i)

/-- The text of slots behind the first: a function's first instruction has the
function's header above it. -/
def furtherText : List Slot → List Char
  | [] => []
  | s :: rest =>
    (if s.isFirst then headerChars s.owner ++ ['\n'] else []) ++
      lineChars s.instruction ++ '\n' :: furtherText rest

/-- The text of a batch: no header stands above its first line. -/
def batchText : List Slot → List Char
  | [] => []
  | s :: rest => lineChars s.instruction ++ '\n' :: furtherText rest

/-- The slots from the current address on. -/
def ahead (l : Loaded) : List Slot :=
  l.slots.drop (Halving.boundary (·.address < l.cursor) l.slots)

def recordOf? (l : Loaded) (f : Routine) : Option KnownFunction :=
  f.start?.map fun entry =>
    { name := f.name, entry, size := f.size.toUInt64,
      sectionName := (l.sectionOf? entry).map (·.name) }

/-- The references that the instructions of a function make to targets of a kind. -/
def referencesOf (f : Routine) (wanted : Address → Bool) : List Reference :=
  f.instructions.filterMap fun i =>
    (i.target.filter wanted).map fun target => ⟨i.address, target, i.refKind⟩

/-- The references out of the function at an address, or into it from the others. -/
def referencesAt (l : Loaded) (a : Address) (direction : Direction) : List Reference :=
  match l.image.routines.findIdx? (·.contains a), l.ownerOf? a with
  | some index, some focused =>
    match direction with
    | .outgoing => referencesOf focused (!focused.contains ·)
    | .incoming =>
      ((l.image.routines.eraseIdx index).flatMap (referencesOf · focused.contains)).mergeSort
        fun r s => r.source ≤ s.source
  | _, _ => []

/-- Where the transfer on a line leads.  A line of a known instruction is answered
from the image, any other from its text. -/
def transferTarget? (l : Loaded) (line : String) : Option Address :=
  match (lineAddress? line).bind l.slotAt? with
  | some s => if s.instruction.isJump || s.instruction.isCall then s.instruction.target else none
  | none => Transfer.target? line

/-- `label: value` lines about an address. -/
def locationText (l : Loaded) (a : Address) : String :=
  let ofSection := match l.sectionOf? a with
    | some s => s!"section: {s.name}\nperms: {s.perms}\n"
    | none => ""
  let ofRoutine := match l.ownerOf? a with
    | some f =>
      s!"function: {f.name}\n" ++
        match f.start?.bind a.distanceFrom? with
        | some delta => s!"offset: {f.name}+0x{hexText delta}\n"
        | none => ""
    | none => ""
  let ofSlot := match l.slotAt? a with
    | some s => s!"size: {s.instruction.byteLength}\n"
    | none => ""
  ofSection ++ ofRoutine ++ ofSlot

/-- `mnemonic: description` of the instruction at an address. -/
def descriptionText (l : Loaded) (a : Address) : String :=
  match l.slotAt? a with
  | some s =>
    match s.instruction.description with
    | some d => s!"{s.instruction.mnemonic}: {d}"
    | none => ""
  | none => ""

/-- A number about the function at an address: `extra` and the number of its
instructions of a kind; 0 when no function owns the address. -/
def tally (l : Loaded) (a : Address) (extra : Nat) (kind : Instruction → Bool) : UInt64 :=
  match l.ownerOf? a with
  | some f => ((f.instructions.filter kind).length + extra).toUInt64
  | none => 0

/-- The graph of a function: its own, or one made from its instructions. -/
def graphOf (l : Loaded) (name : String) : String :=
  match l.named? name with
  | some f => if f.graph.isEmpty then f.graphText else f.graph
  | none => ""

/-- A question that is answered from the image. -/
def answer {α : Type} (f : Loaded → α) : Query Loaded α := do
  pure (f (← get))

instance : Analyzer Loaded where
  disassemble count := answer fun l => String.ofList (batchText (l.ahead.take count))
  reposition a := do
    if (← get).covers a then modify fun l => { l with cursor := a }
    else throw (.outOfRange a)
  functionNameAt a := answer fun l => ((l.ownerOf? a).map (·.name)).getD ""
  functionAt a := answer fun l =>
    (l.image.routines.find? (·.start? = some a)).bind l.recordOf?
  decompile name := answer fun l => ((l.named? name).map (·.decompiled)).getD ""
  references a direction := answer fun l => l.referencesAt a direction
  disassembleOne a := answer fun l => ((l.slotAt? a).map fun s => lineOf s.instruction).getD ""
  jumpTarget line := answer fun l => l.transferTarget? line
  offsetInfo a := answer fun l => l.locationText a
  opcodeDescription a := answer fun l => l.descriptionText a
  complexity a := answer fun l => l.tally a 1 (·.isConditionalJump)
  blockCount a := answer fun l => l.tally a 1 (·.isJump)
  exitCount a := answer fun l => l.tally a 0 (·.isExit)
  simplifiedGraph name := answer fun l => l.graphOf name
  start? l := startOf? l.image
  functions l := l.image.routines.filterMap l.recordOf?

end Loaded

end AsmView
