/-
# The built-in sample image

A program of twelve functions, shown when no image file is given.  The functions
start at even distances, differ in length and branch structure, and call each
other; each is drafted from a short cycle of instruction shapes.
-/
import AsmView.Image

namespace AsmView.Image.Sample

open Text

/-- Where the code section starts. -/
def textBase : Nat := 0x401000

/-- The distance between function entries. -/
def stride : Nat := 0x200

def functionNames : List String :=
  ["entry0", "main", "parse_args", "init_state", "read_input", "checksum", "decode_block",
    "emit_record", "flush_output", "cleanup", "sym.imp.puts", "sym.imp.malloc"]

/-- The shapes of instructions in a function's body. -/
inductive Form where
  | load
  | add
  | compare
  | branch
  | call
  | lea
  | store

/-- The cycle of shapes that bodies are cut from. -/
def body : List Form :=
  [.load, .add, .compare, .branch, .lea, .call, .store, .load, .compare]

/-- What a mnemonic does, for the mnemonics that are explained. -/
def description? : String → Option String
  | "push" => some "push word, doubleword or quadword onto the stack"
  | "mov" => some "moves data from src to dst"
  | "sub" => some "subtract src and dst, stores the result on dst"
  | "add" => some "adds src and dst, stores the result on dst"
  | "cmp" => some "compare two operands"
  | "jne" => some "jump short if not equal (ZF=0)"
  | "je" => some "jump short if equal (ZF=1)"
  | "jmp" => some "jump"
  | "call" => some "calling a procedure"
  | "lea" => some "load effective address"
  | "leave" => some "high level procedure exit"
  | "ret" => some "return from procedure"
  | _ => none

/-- An instruction before it has an address. -/
structure Draft where
  bytes : String
  text : String
  /-- The position in the same function that a branch leads to. -/
  branchTo : Option Nat := none
  /-- The function that is called. -/
  callee : Option Nat := none
  comment : Option String := none

/-- A number as `0x` and its hexadecimal digits. -/
def hex (n : Nat) : String :=
  "0x" ++ hexText n

/-- The draft at one step of a body, when `before` drafts stand in front of it. -/
def bodyDraft (index step before : Nat) : Draft :=
  let var := 4 + (step % 6) * 4
  match body[(step + index) % 10]?.getD .store with
  | .load => ⟨"8b45fc", s!"mov eax, dword [rbp - {hex var}]", none, none, none⟩
  | .add => ⟨"83c001", s!"add eax, {hex (step % 5 + 1)}", none, none, none⟩
  | .compare => ⟨"3d00010000", s!"cmp eax, {hex (0x100 + step)}", none, none, none⟩
  | .branch => ⟨"7506", if step % 3 = 0 then "je" else "jne", some (before + 3), none, none⟩
  | .call =>
    let count := functionNames.length
    let callee := (index + 1 + step % 3) % count
    ⟨"e800000000", "call", none, some (if callee = index then (callee + 1) % count else callee),
      none⟩
  | .lea => ⟨"488d45f0", s!"lea rax, [rbp - {hex var}]", none, none, none⟩
  | .store =>
    ⟨"8945fc", s!"mov dword [rbp - {hex var}], eax", none, none,
      if step % 4 = 0 then some s!"var_{hexText var}h" else none⟩

def drafts (index : Nat) : List Draft :=
  let start : List Draft := [
    ⟨"55", "push rbp", none, none, none⟩,
    ⟨"4889e5", "mov rbp, rsp", none, none, none⟩,
    ⟨"4883ec20", s!"sub rsp, {hex (0x10 + (index % 4) * 8)}", none, none, none⟩]
  let steps := List.range (12 + (index * 7) % 29)
  start ++ steps.map (fun step => bodyDraft index step (start.length + step)) ++
    [⟨"c9", "leave", none, none, none⟩, ⟨"c3", "ret", none, none, none⟩]

def draftLength (d : Draft) : Nat :=
  max (d.bytes.length / 2) 1

/-- The addresses of drafts laid out one after the other. -/
def layout (start : Nat) : List Draft → List Nat
  | [] => []
  | d :: ds => start :: layout (start + draftLength d) ds

/-- Where a function starts. -/
def entryOf (index : Nat) : Nat :=
  textBase + index * stride

/-- The instruction that a draft becomes in a function with the given addresses. -/
def finish (addresses : List Nat) (address : Nat) (d : Draft) : Instruction :=
  let inner := d.branchTo.map fun target => addresses.getD (min target (addresses.length - 1)) 0
  let target := inner.or (d.callee.map entryOf)
  let text := match target with
    | some t => s!"{d.text} {hex t}"
    | none => d.text
  { address := ⟨address.toUInt64⟩
    bytes := d.bytes
    text := text
    target := target.map fun t => ⟨t.toUInt64⟩
    comment := d.comment.or (d.callee.bind (functionNames[·]?))
    description := description? (String.ofList (firstWord text.toList)) }

/-- Drops the elements equal to the one before them. -/
def dropRepeats : List String → List String
  | a :: b :: rest => if a = b then dropRepeats (b :: rest) else a :: dropRepeats (b :: rest)
  | rest => rest

/-- A decompiled body that calls the given functions; imports have none. -/
def decompiledBody (name : String) (callees : List String) : String :=
  if "sym.imp.".toList.isPrefixOf name.toList then ""
  else
    s!"int32_t {name}(int64_t arg1)\n\x7b\n    int32_t var_4h;\n\n    var_4h = (int32_t)arg1;\n" ++
      String.join (callees.map fun callee =>
        s!"    if (var_4h != 0) \x7b\n        {callee}(var_4h);\n    \x7d\n") ++
      "    return var_4h;\n\x7d"

/-- One function of the sample. -/
def routine (index : Nat) (name : String) : Routine :=
  let ds := drafts index
  let addresses := layout (entryOf index) ds
  { name
    decompiled := decompiledBody name
      (dropRepeats (ds.filterMap fun d => d.callee.bind (functionNames[·]?)))
    instructions := List.zipWith (finish addresses) addresses ds }

def image : Image where
  name := "demo"
  entry := some ⟨textBase.toUInt64⟩
  sections := [⟨".text", ⟨textBase.toUInt64⟩, (stride * functionNames.length).toUInt64, "r-x"⟩]
  routines := functionNames.zipIdx.map fun (name, index) => routine index name

end AsmView.Image.Sample
