/-
# Lines and parts of a text

Cutting a text at line feeds, at a given character, and at the first occurrence
of a given part.
-/
import AsmView.Text.Blank

namespace AsmView.Text

/-- The lines of a text.  A line ends at a line feed, which takes a carriage
return right before it along; a last line without a line feed counts, an empty
rest after the last line feed does not. -/
def lines : List Char → List (List Char)
  | [] => []
  | '\n' :: cs => [] :: lines cs
  | '\r' :: '\n' :: cs => [] :: lines cs
  | c :: cs => consFirst c (lines cs)

def linesOf (s : String) : List String :=
  (lines s.toList).map String.ofList

/-- Everything after the first line feed; nothing when there is none. -/
def afterFirstLine : List Char → List Char
  | [] => []
  | '\n' :: cs => cs
  | _ :: cs => afterFirstLine cs

/-- The pieces between the occurrences of a separator character; always at least
one piece. -/
def splitAt (sep : Char) : List Char → List (List Char)
  | [] => [[]]
  | c :: cs => if c = sep then [] :: splitAt sep cs else consFirst c (splitAt sep cs)

/-- The text before and after the first occurrence of `part`. -/
def cutAt? (part : List Char) : List Char → Option (List Char × List Char)
  | [] => if part.isEmpty then some ([], []) else none
  | c :: cs =>
    if part.isPrefixOf (c :: cs) then some ([], (c :: cs).drop part.length)
    else (cutAt? part cs).map fun (before, after) => (c :: before, after)

/-- `part` occurs in the text. -/
def occursIn (part cs : List Char) : Bool :=
  (cutAt? part cs).isSome

/-- The text with the first occurrence of `part` replaced. -/
def replaceFirst (part replacement cs : List Char) : List Char :=
  match cutAt? part cs with
  | some (before, after) => before ++ replacement ++ after
  | none => cs

/-- The text behind a leading `part`, if it starts with it. -/
def dropLeading? (part cs : List Char) : Option (List Char) :=
  if part.isPrefixOf cs then some (cs.drop part.length) else none

/-- The text padded on the right with spaces to at least `width` characters. -/
def padRight (width : Nat) (cs : List Char) : List Char :=
  cs ++ List.replicate (width - cs.length) ' '

/-- The text padded on the left with spaces to at least `width` characters. -/
def padLeft (width : Nat) (cs : List Char) : List Char :=
  List.replicate (width - cs.length) ' ' ++ cs

end AsmView.Text
