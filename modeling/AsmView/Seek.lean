/-
# Seek targets

What a user types to go somewhere: an address behind `0x`, the name of a function,
part of a name, something like a name, or bare hexadecimal digits.  Names are tried
before bare digits, so `add` and `cafe` find functions of that name.
-/
import AsmView.Routine
import AsmView.Text.Case

namespace AsmView

open Text

/-- What a query stands for. -/
inductive Destination where
  | address (a : Address)
  | function (name : String) (entry : Address)
deriving DecidableEq, Repr

namespace Destination

/-- Where the target is. -/
def place : Destination → Address
  | .address a => a
  | .function _ entry => entry

/-- The function, when the query named one. -/
def functionName? : Destination → Option String
  | .address _ => none
  | .function name _ => some name

def ofRecord (r : KnownFunction) : Destination :=
  .function r.name r.entry

/-- One row of the table of longest common subsequences: from the row of `xs` against
the prefixes of `ys`, the row of `xs` with `x` behind it.  `diagonal` and `left` are
the entries up left and left of the next one. -/
def nextRow (x : Char) : List Char → List Nat → Nat → Nat → List Nat
  | y :: ys, up :: row, diagonal, left =>
    let entry := if x = y then diagonal + 1 else max up left
    entry :: nextRow x ys row up entry
  | _, _, _, _ => []

/-- The length of the longest common subsequence of two texts. -/
def commonLength (xs ys : List Char) : Nat :=
  (xs.foldl (fun row x => nextRow x ys row 0 0) (ys.map fun _ => 0)).getLastD 0

/-- How alike two texts are, as a fraction: twice the length of their longest common
subsequence, over their lengths together.  Two empty texts are wholly alike. -/
def likeness (xs ys : List Char) : Nat × Nat :=
  if xs.length + ys.length = 0 then (1, 1)
  else (2 * commonLength xs ys, xs.length + ys.length)

/-- `r` is at most `s`, as fractions. -/
def likenessLe (r s : Nat × Nat) : Bool :=
  r.1 * s.2 ≤ s.1 * r.2

/-- The first of the records with the least name length in bytes. -/
def shortestName? : List KnownFunction → Option KnownFunction
  | [] => none
  | r :: rs =>
    match shortestName? rs with
    | some s => if r.name.utf8ByteSize ≤ s.name.utf8ByteSize then some r else some s
    | none => some r

/-- The last of the records with the greatest likeness. -/
def mostAlike? : List (KnownFunction × (Nat × Nat)) → Option (KnownFunction × (Nat × Nat))
  | [] => none
  | r :: rs =>
    match mostAlike? rs with
    | some s => if likenessLe r.2 s.2 then some s else some r
    | none => some r

/-- The function a trimmed query names: exactly, else as part of a name whatever the
case (the shortest name wins), else by likeness of at least one half. -/
def byName? (query : String) (functions : List KnownFunction) : Option Destination :=
  let needle := lowercase query.toList
  let holding := functions.filter fun r => occursIn needle (lowercase r.name.toList)
  let alike := (functions.map fun r => (r, likeness needle (lowercase r.name.toList))).filter
    fun (_, ratio) => likenessLe (1, 2) ratio
  ((functions.find? (·.name = query)).or
    ((shortestName? holding).or ((mostAlike? alike).map (·.1)))).map ofRecord

/-- The query begins with `0x` or `0X`. -/
def isMarked : List Char → Bool
  | '0' :: 'x' :: _ => true
  | '0' :: 'X' :: _ => true
  | _ => false

/-- The address a text denotes, as a target. -/
def ofAddressText? (s : String) : Option Destination :=
  (Address.parse s).toOption.map .address

/-- What a query stands for among the known functions. -/
def resolve? (query : String) (functions : List KnownFunction) : Option Destination :=
  let query := trim query
  if query.isEmpty then none
  -- what is marked as an address is never a name, even where it is no address
  else if isMarked query.toList then ofAddressText? query
  else (byName? query functions).or (ofAddressText? query)

end Destination

end AsmView
