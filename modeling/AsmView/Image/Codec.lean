/-
# Images as JSON texts

How an image is written and read.  Writing leaves out what is absent; reading
takes members in any order, fills in what may be left out, and passes over members
it does not know.  An address may be written as text or as a plain number.
-/
import AsmView.Image
import AsmView.Json.Printer
import AsmView.Json.Reader

namespace AsmView

open Json Json.Reader

/-! ## Addresses and references -/

/-- What an address is read from: any value, of which counts and texts matter. -/
inductive Loose where
  | count (n : Nat)
  | text (s : String)
  | other

/-- Reads the elements of a list whatever they are. -/
def looseElements (item : Reader Loose) : Nat → Bool → Reader Unit
  | 0, _ => pure ()
  | n + 1, first => do
    if ← listContinues first then do
      let _ ← item
      looseElements item n false

/-- Reads the members of an object whatever they are. -/
def looseMembers (item : Reader Loose) : Nat → Bool → Reader Unit
  | 0, _ => pure ()
  | n + 1, first => do
    if ← objectContinues first then do
      advance
      let _ ← stringRest
      colon
      let _ ← item
      looseMembers item n false

/-- Reads any value, with lists and objects inside it down to a given depth. -/
def loose : Nat → Reader Loose
  | 0 => failNext .tooDeep
  | depth + 1 => do
    let c ← peekValue
    let ofNumber : Number → Loose
      | .count n => .count n
      | _ => .other
    if c = 'n' then do advance; ident ['u', 'l', 'l']; pure .other
    else if c = 't' then do advance; ident ['r', 'u', 'e']; pure .other
    else if c = 'f' then do advance; ident ['a', 'l', 's', 'e']; pure .other
    else if c = '-' then do advance; pure (ofNumber (← number true))
    else if c = '"' then do advance; pure (.text (← stringRest))
    else if c = '[' then
      if depth = 0 then failNext .tooDeep
      else closedBy listEnd do
        advance
        let room := (← get).length + 1
        looseElements (loose depth) room true
        pure .other
    else if c = '\x7b' then
      if depth = 0 then failNext .tooDeep
      else closedBy objectEnd do
        advance
        let room := (← get).length + 1
        looseMembers (loose depth) room true
        pure .other
    else if Text.isDecimalDigit c then do pure (ofNumber (← number false))
    else failNext .expectedValue

/-- Reads an address: a count, or a text that denotes one.  Lists and objects are
no address, but are read to their end as long as at most `depth` of them are open. -/
def Address.read (depth : Nat) : Reader Address := do
  match ← loose (depth + 1) with
  | .count n => pure ⟨n.toUInt64⟩
  | .text s =>
    match Address.parse s with
    | .ok a => pure a
    | .error f => failContent f.message
  | .other => failContent "data did not match any variant of untagged enum Repr"

/-- The kind of reference with a given name. -/
def ReferenceKind.ofName? : String → Option ReferenceKind
  | "call" => some .call
  | "jump" => some .jump
  | "data" => some .data
  | _ => none

/-- Reads the name of a kind of reference. -/
def ReferenceKind.readName : Reader ReferenceKind := settled do
  let s ← string
  match ReferenceKind.ofName? s with
  | some k => pure k
  | none =>
    failContent s!"unknown variant `{s}`, expected one of `call`, `jump`, `data`"

/-- Reads a kind of reference: its name, or an object that maps its name to `null`. -/
def ReferenceKind.read : Reader ReferenceKind := do
  match ← peek with
  | some '"' => readName
  | some '\x7b' => do
    advance
    let kind ← readName
    colon
    if (← peek) = some 'n' then do advance; ident ['u', 'l', 'l']
    else failKind "unit"
    match ← peek with
    | some '\x7d' => do advance; pure kind
    | some _ => failHere .expectedValue
    | none => failHere .eofInObject
  | some _ => failNext .expectedValue
  | none => failNext .eofInValue

/-- A reference as far as it has been read. -/
structure Reference.Draft where
  source? : Option Address := none
  target? : Option Address := none
  kind? : Option ReferenceKind := none

def Reference.shape : Shape Reference.Draft Reference where
  name := "RefEdge"
  members := [
    ⟨"from", (·.source?.isSome),
      fun d => do pure { d with source? := some (← Address.read 126) }, false⟩,
    ⟨"to", (·.target?.isSome),
      fun d => do pure { d with target? := some (← Address.read 126) }, false⟩,
    ⟨"kind", (·.kind?.isSome),
      fun d => do pure { d with kind? := some (← ReferenceKind.read) }, true⟩]
  finish d :=
    match d.source?, d.target? with
    | none, _ => .error "from"
    | _, none => .error "to"
    | some source, some target => .ok ⟨source, target, d.kind?.getD .call⟩

def Reference.read : Reader Reference :=
  shaped Reference.shape {}

/-! ## Sections, instructions and functions -/

structure Section.Draft where
  name? : Option String := none
  start? : Option Address := none
  size? : Option UInt64 := none
  perms? : Option String := none

def Section.shape : Shape Section.Draft Section where
  name := "Section"
  members := [
    ⟨"name", (·.name?.isSome), fun d => do pure { d with name? := some (← string) }, false⟩,
    ⟨"start", (·.start?.isSome),
      fun d => do pure { d with start? := some (← Address.read 124) }, false⟩,
    ⟨"size", (·.size?.isSome), fun d => do pure { d with size? := some (← count64) }, false⟩,
    ⟨"perms", (·.perms?.isSome), fun d => do pure { d with perms? := some (← string) }, true⟩]
  finish d :=
    match d.name?, d.start?, d.size? with
    | none, _, _ => .error "name"
    | _, none, _ => .error "start"
    | _, _, none => .error "size"
    | some name, some start, some size => .ok ⟨name, start, size, d.perms?.getD "r-x"⟩

def Section.read : Reader Section :=
  shaped Section.shape {}

def Section.encode (s : Section) : Value :=
  .object [("name", .text s.name), ("start", .text s.start.text), ("size", .count s.size.toNat),
    ("perms", .text s.perms)]

structure Instruction.Draft where
  address? : Option Address := none
  bytes? : Option String := none
  text? : Option String := none
  target? : Option (Option Address) := none
  comment? : Option (Option String) := none
  description? : Option (Option String) := none

def Instruction.shape : Shape Instruction.Draft Instruction where
  name := "Instruction"
  members := [
    ⟨"address", (·.address?.isSome),
      fun d => do pure { d with address? := some (← Address.read 122) }, false⟩,
    ⟨"bytes", (·.bytes?.isSome), fun d => do pure { d with bytes? := some (← string) }, true⟩,
    ⟨"text", (·.text?.isSome), fun d => do pure { d with text? := some (← string) }, false⟩,
    ⟨"target", (·.target?.isSome),
      fun d => do pure { d with target? := some (← nullable (Address.read 122)) }, true⟩,
    ⟨"comment", (·.comment?.isSome),
      fun d => do pure { d with comment? := some (← nullable string) }, true⟩,
    ⟨"description", (·.description?.isSome),
      fun d => do pure { d with description? := some (← nullable string) }, true⟩]
  finish d :=
    match d.address?, d.text? with
    | none, _ => .error "address"
    | _, none => .error "text"
    | some address, some text =>
      .ok ⟨address, d.bytes?.getD "", text, d.target?.join, d.comment?.join, d.description?.join⟩

def Instruction.read : Reader Instruction :=
  shaped Instruction.shape {}

/-- A member that is written only when it is there. -/
def optionalMember {α : Type} (key : String) (encode : α → Value) :
    Option α → List (String × Value)
  | some a => [(key, encode a)]
  | none => []

def Instruction.encode (i : Instruction) : Value :=
  .object ([("address", .text i.address.text), ("bytes", .text i.bytes), ("text", .text i.text)] ++
    optionalMember "target" (fun a : Address => .text a.text) i.target ++
    optionalMember "comment" .text i.comment ++
    optionalMember "description" .text i.description)

structure Routine.Draft where
  name? : Option String := none
  decompiled? : Option String := none
  graph? : Option String := none
  instructions? : Option (List Instruction) := none

def Routine.shape : Shape Routine.Draft Routine where
  name := "Function"
  members := [
    ⟨"name", (·.name?.isSome), fun d => do pure { d with name? := some (← string) }, false⟩,
    ⟨"decompiled", (·.decompiled?.isSome),
      fun d => do pure { d with decompiled? := some (← string) }, true⟩,
    ⟨"graph", (·.graph?.isSome), fun d => do pure { d with graph? := some (← string) }, true⟩,
    ⟨"instructions", (·.instructions?.isSome),
      fun d => do pure { d with instructions? := some (← list Instruction.read) }, false⟩]
  finish d :=
    match d.name?, d.instructions? with
    | none, _ => .error "name"
    | _, none => .error "instructions"
    | some name, some instructions =>
      .ok ⟨name, d.decompiled?.getD "", d.graph?.getD "", instructions⟩

def Routine.read : Reader Routine :=
  shaped Routine.shape {}

def Routine.encode (f : Routine) : Value :=
  .object [("name", .text f.name), ("decompiled", .text f.decompiled), ("graph", .text f.graph),
    ("instructions", .list (f.instructions.map Instruction.encode))]

/-! ## Images -/

namespace Image

structure Draft where
  name? : Option String := none
  entryPoint? : Option (Option Address) := none
  sections? : Option (List Section) := none
  routines? : Option (List Routine) := none

def shape : Shape Draft Image where
  name := "Program"
  members := [
    ⟨"name", (·.name?.isSome), fun d => do pure { d with name? := some (← string) }, false⟩,
    ⟨"entry", (·.entryPoint?.isSome),
      fun d => do pure { d with entryPoint? := some (← nullable (Address.read 126)) }, true⟩,
    ⟨"sections", (·.sections?.isSome),
      fun d => do pure { d with sections? := some (← list Section.read) }, true⟩,
    ⟨"functions", (·.routines?.isSome),
      fun d => do pure { d with routines? := some (← list Routine.read) }, false⟩]
  finish d :=
    match d.name?, d.routines? with
    | none, _ => .error "name"
    | _, none => .error "functions"
    | some name, some routines => .ok ⟨name, d.entryPoint?.join, d.sections?.getD [], routines⟩

def read : Reader Image :=
  shaped shape {}

def encode (img : Image) : Value :=
  .object ([("name", .text img.name)] ++
    optionalMember "entry" (fun a : Address => .text a.text) img.entry ++
    [("sections", .list (img.sections.map Section.encode)),
      ("functions", .list (img.routines.map Routine.encode))])

/-- The text of an image file. -/
def fileText (img : Image) : String :=
  img.encode.pretty ++ "\n"

/-- Reads the text of an image file. -/
def parse (text : String) : Except Fault Image :=
  Reader.run read text

end Image

end AsmView
