/-
# Lower and upper case

The full case mappings of a text.  A mapping may give several characters.  The
capital sigma is the one character whose lower case depends on its neighbours:
it is final after a cased character and not before one.
-/
import AsmView.Text.CaseTable
import AsmView.Text.CasedTable

namespace AsmView.Text

/-- The image of a code point under the first run that holds it. -/
def runImage? (runs : List (Nat × Nat × Nat × Int)) (n : Nat) : Option Char :=
  (runs.find? fun (first, last, step, _) =>
      first ≤ n && n ≤ last && (n - first) % step == 0).map
    fun (_, _, _, shift) => Char.ofNat (n + shift).toNat

/-- The image of a code point in a table of several-character mappings. -/
def severalImage? (table : List (Nat × List Nat)) (n : Nat) : Option (List Char) :=
  (table.lookup n).map (·.map Char.ofNat)

/-- The lower case of one character, wherever it stands. -/
def lowerOf (c : Char) : List Char :=
  if c.toNat < 0x80 then [c.toLower]
  else match severalImage? lowerSeveral c.toNat with
    | some cs => cs
    | none => [(runImage? lowerRuns c.toNat).getD c]

/-- The upper case of one character. -/
def upperOf (c : Char) : List Char :=
  if c.toNat < 0x80 then [c.toUpper]
  else match severalImage? upperSeveral c.toNat with
    | some cs => cs
    | none => [(runImage? upperRuns c.toNat).getD c]

/-- The nearest character that is not case-ignorable has case. -/
def meetsCased (cs : List Char) : Bool :=
  match cs.dropWhile isCaseIgnorable with
  | [] => false
  | c :: _ => isCased c

/-- Lower case from left to right; `before` is what stands to the left, nearest
character first. -/
def lowerFrom (before : List Char) : List Char → List Char
  | [] => []
  | c :: cs =>
    (if c = 'Σ' then [if meetsCased before && !meetsCased cs then 'ς' else 'σ'] else lowerOf c)
      ++ lowerFrom (c :: before) cs

def lowercase (cs : List Char) : List Char :=
  lowerFrom [] cs

def uppercase (cs : List Char) : List Char :=
  cs.flatMap upperOf

end AsmView.Text
