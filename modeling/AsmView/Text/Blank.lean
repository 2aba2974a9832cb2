/-
# Blank characters

The characters with the White_Space property, and what is cut at them: the text
without the blanks around it, and its words.  Everything here is stated on lists
of characters; `Text.trim` is the same on strings.
-/

namespace AsmView.Text

/-- A character with the White_Space property. -/
def isBlank (c : Char) : Bool :=
  let n := c.toNat
  (0x9 ≤ n && n ≤ 0xd) || n == 0x20 || n == 0x85 || n == 0xa0 || n == 0x1680 ||
    (0x2000 ≤ n && n ≤ 0x200a) || n == 0x2028 || n == 0x2029 || n == 0x202f ||
    n == 0x205f || n == 0x3000

/-- The text from its first character that is not blank. -/
def dropBlanks (cs : List Char) : List Char :=
  cs.dropWhile isBlank

/-- The text up to its last character that is not blank. -/
def dropBlanksRight (cs : List Char) : List Char :=
  (dropBlanks cs.reverse).reverse

/-- The text without the blanks at either end. -/
def trimBlanks (cs : List Char) : List Char :=
  dropBlanksRight (dropBlanks cs)

def allBlank (cs : List Char) : Bool :=
  cs.all isBlank

/-- The first word: what is left of the leading blanks, up to the next blank. -/
def firstWord (cs : List Char) : List Char :=
  (dropBlanks cs).takeWhile (!isBlank ·)

/-- Puts a character in front of the first of several texts. -/
def consFirst (c : Char) : List (List Char) → List (List Char)
  | [] => [[c]]
  | w :: ws => (c :: w) :: ws

/-- The maximal runs of characters that are not blank, in order. -/
def words : List Char → List (List Char)
  | [] => []
  | [c] => if isBlank c then [] else [[c]]
  | c :: d :: cs =>
    if isBlank c then words (d :: cs)
    else if isBlank d then [c] :: words (d :: cs)
    else consFirst c (words (d :: cs))

/-- `s` without the blanks at either end. -/
def trim (s : String) : String :=
  String.ofList (trimBlanks s.toList)

/-- `s` holds nothing but blanks. -/
def isBlankText (s : String) : Bool :=
  allBlank s.toList

end AsmView.Text
