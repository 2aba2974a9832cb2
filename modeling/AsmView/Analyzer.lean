/-
# The analyzer

The views never decode instructions themselves: they ask an analyzer for text,
names, references and numbers.  An analyzer keeps a current address of its own, and
what it answers may depend on it and on everything asked before.  Empty answers are
normal misses; a fault means that the analyzer itself failed.
-/
import AsmView.Reference
import AsmView.Routine

namespace AsmView

inductive EngineFault where
  | failure (message : String)
  | outOfRange (address : Address)
deriving DecidableEq, Repr

def EngineFault.message : EngineFault → String
  | .failure m => s!"analysis engine failure: {m}"
  | .outOfRange a => s!"address {a} is outside the loaded program"

/-- A question to an analyzer in state `σ`: a value or a fault, and the state the
question leaves behind in either case. -/
abbrev Query (σ : Type) := ExceptT EngineFault (StateM σ)

/-- What can be asked of an analyzer whose state is a `σ`. -/
class Analyzer (σ : Type) where
  /-- Up to `count` instruction lines from the current address on. -/
  disassemble (count : Nat) : Query σ String
  /-- Moves the current address. -/
  reposition (address : Address) : Query σ Unit
  /-- The name of the function that owns an address; empty when none does. -/
  functionNameAt (address : Address) : Query σ String
  /-- The function whose entry is the address. -/
  functionAt (address : Address) : Query σ (Option KnownFunction)
  /-- The decompiled body of a function. -/
  decompile (name : String) : Query σ String
  /-- The references of the function at an address, in one direction. -/
  references (address : Address) (direction : Direction) : Query σ (List Reference)
  /-- The line of one instruction. -/
  disassembleOne (address : Address) : Query σ String
  /-- Where the control transfer on a rendered line leads. -/
  jumpTarget (line : String) : Query σ (Option Address)
  /-- `label: value` lines about a location. -/
  offsetInfo (address : Address) : Query σ String
  /-- `mnemonic: description` of an instruction; empty when unknown. -/
  opcodeDescription (address : Address) : Query σ String
  /-- The cyclomatic complexity of the function at an address. -/
  complexity (address : Address) : Query σ UInt64
  /-- The number of basic blocks of the function at an address. -/
  blockCount (address : Address) : Query σ UInt64
  /-- The number of exits of the function at an address. -/
  exitCount (address : Address) : Query σ UInt64
  /-- The simplified graph of a function, as text. -/
  simplifiedGraph (name : String) : Query σ String
  /-- Where the program starts. -/
  start? : σ → Option Address
  /-- Every known function. -/
  functions : σ → List KnownFunction

def Query.ask {σ α : Type} (q : Query σ α) (s : σ) : Except EngineFault α × σ :=
  (q.run).run s

end AsmView
