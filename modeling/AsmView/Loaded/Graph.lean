/-
# The control-flow graph of a function

When a function comes without a graph of its own, one is made from its
instructions.  The nodes are the addresses where a basic block starts: the entry,
what follows a jump or an exit, and what a jump leads to inside the function.  The
edges are the jumps inside the function and the falls from one block into the next.
-/
import AsmView.Image

namespace AsmView.Routine

/-- Inserts an address into an ascending list without repetition. -/
def insertAddress (a : Address) : List Address → List Address
  | [] => [a]
  | b :: bs => if a < b then a :: b :: bs else if b < a then b :: insertAddress a bs else b :: bs

/-- The target of a jump that stays inside the function. -/
def innerTarget? (f : Routine) (i : Instruction) : Option Address :=
  if i.isJump then i.target.filter f.contains else none

/-- The addresses of blocks that begin because of the instructions of a list. -/
def blockStartsFrom (f : Routine) : List Instruction → List Address
  | [] => []
  | i :: rest =>
    (if i.isJump || i.isExit then rest.head?.toList.map (·.address) else []) ++
      (f.innerTarget? i).toList ++ blockStartsFrom f rest

/-- The addresses where a basic block starts, ascending. -/
def blockStarts (f : Routine) : List Address :=
  (f.start?.toList ++ f.blockStartsFrom f.instructions).foldl (fun s a => insertAddress a s) []

/-- The block an address belongs to: the greatest start at or below it. -/
def blockOf? (starts : List Address) (a : Address) : Option Address :=
  (starts.filter (· ≤ a)).getLast?

/-- Control can go on to the next instruction. -/
def fallsThrough (i : Instruction) : Bool :=
  !i.isExit && i.mnemonic ≠ "jmp"

/-- The edges that begin at the instructions of a list. -/
def edgesFrom (f : Routine) (starts : List Address) :
    List Instruction → List (Address × Address)
  | [] => []
  | i :: rest =>
    (match blockOf? starts i.address with
      | none => []
      | some block =>
        (f.innerTarget? i).toList.map (block, ·) ++
          match rest.head? with
          | some next =>
            if fallsThrough i && starts.contains next.address then [(block, next.address)] else []
          | none => []) ++
      edgesFrom f starts rest

/-- The edges between blocks, in the order of the instructions they begin at. -/
def blockEdges (f : Routine) : List (Address × Address) :=
  f.edgesFrom f.blockStarts f.instructions

def graphText (f : Routine) : String :=
  let nodes := f.blockStarts.map fun a => s!"  \"{a}\";\n"
  let edges := f.blockEdges.map fun (a, b) => s!"  \"{a}\" -> \"{b}\";\n"
  s!"digraph \"{f.name}\" \x7b\n" ++ String.join nodes ++ String.join edges ++ "\x7d"

end AsmView.Routine
