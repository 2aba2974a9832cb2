/-
# Writing JSON texts

Values without fractions, written over several lines:
two spaces per level, one member or element per line, and `[]` or an empty pair of
braces where there is none.
-/
import AsmView.Text.Digits

namespace AsmView.Json

open Text

/-- The form one character takes inside a string. -/
def escapedChar (c : Char) : List Char :=
  if c = '"' then ['\\', '"']
  else if c = '\\' then ['\\', '\\']
  else if c = '\x08' then ['\\', 'b']
  else if c = '\x0c' then ['\\', 'f']
  else if c = '\n' then ['\\', 'n']
  else if c = '\r' then ['\\', 'r']
  else if c = '\t' then ['\\', 't']
  else if c.toNat < 0x20 then '\\' :: 'u' :: hexPadded 4 c.toNat
  else [c]

def stringLiteral (s : String) : List Char :=
  '"' :: s.toList.flatMap escapedChar ++ ['"']

/-- A value to be written. -/
inductive Value where
  | null
  | flag (b : Bool)
  | text (s : String)
  | count (n : Nat)
  | list (items : List Value)
  | object (members : List (String × Value))

/-- A value that may be absent, which is written as `null`. -/
def Value.orNull {α : Type} (encode : α → Value) : Option α → Value
  | some a => encode a
  | none => .null

/-- A line break and the blanks that start a line at the given level. -/
def lineBreak (level : Nat) : List Char :=
  '\n' :: List.replicate (2 * level) ' '

mutual

/-- The text of a value whose first line is already indented to `level`. -/
def Value.chars (level : Nat) : Value → List Char
  | .null => ['n', 'u', 'l', 'l']
  | .flag true => ['t', 'r', 'u', 'e']
  | .flag false => ['f', 'a', 'l', 's', 'e']
  | .text s => stringLiteral s
  | .count n => decimal n
  | .list [] => ['[', ']']
  | .list (v :: vs) =>
    '[' :: lineBreak (level + 1) ++ v.chars (level + 1) ++ restOfList (level + 1) vs ++
      lineBreak level ++ [']']
  | .object [] => ['\x7b', '\x7d']
  | .object ((key, v) :: ms) =>
    '\x7b' :: lineBreak (level + 1) ++ stringLiteral key ++ [':', ' '] ++ v.chars (level + 1) ++
      restOfObject (level + 1) ms ++ lineBreak level ++ ['\x7d']

/-- The elements of a list behind its first. -/
def restOfList (level : Nat) : List Value → List Char
  | [] => []
  | v :: vs => ',' :: lineBreak level ++ v.chars level ++ restOfList level vs

/-- The members of an object behind its first. -/
def restOfObject (level : Nat) : List (String × Value) → List Char
  | [] => []
  | (key, v) :: ms =>
    ',' :: lineBreak level ++ stringLiteral key ++ [':', ' '] ++ v.chars level ++
      restOfObject level ms

end

def Value.pretty (v : Value) : String :=
  String.ofList (v.chars 0)

end AsmView.Json
