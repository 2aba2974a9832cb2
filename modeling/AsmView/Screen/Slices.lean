/-
# Slicing a line at byte offsets

In memory a line is a run of bytes, and its pieces are cut off at byte offsets, which are found by
searching and added up.  An offset inside a character, or beyond the end, is no place to cut at;
the answer is nothing then.  Everything here is stated on strings, whose bytes are those of UTF-8.
-/
import AsmView.Screen.Wording

namespace AsmView

open Text

namespace Text

/-- A text up to a byte offset and from there on, if no character lies across the offset. -/
def sliceAt? (s : String) (offset : Nat) : Option (String × String) :=
  if valid : String.Pos.Raw.IsValid s ⟨offset⟩ then
    let place := s.pos ⟨offset⟩ valid
    some ((s.sliceTo place).copy, (s.sliceFrom place).copy)
  else none

/-- The offset of the first character of a class. -/
def offsetOf? (p : Char → Bool) (s : String) : Option Nat :=
  if s.toList.any p then some (String.ofList (s.toList.takeWhile (!p ·))).utf8ByteSize else none

/-- The offset at which a part first occurs. -/
def offsetOfPart? (part : List Char) (s : String) : Option Nat :=
  (cutAt? part s.toList).map fun (front, _) => (String.ofList front).utf8ByteSize

end Text

/-- The address in a word, from the slice behind its first `0x` and the slice of digits in it. -/
def sliceWordAddress? (word : String) : Option (Option Address) :=
  match offsetOfPart? ['0', 'x'] word with
  | none => some none
  | some marker => do
    let (_, rest) ← sliceAt? word (marker + "0x".utf8ByteSize)
    let stop := (offsetOf? (!isHexDigit ·) rest).getD rest.utf8ByteSize
    if stop = 0 then some none
    else
      let (digits, _) ← sliceAt? rest stop
      some (Address.ofNat? (numeralValue 16 digits.toList))

/-- The address of a line, from slices of its first word with a letter or digit. -/
def sliceAddress? (line : String) : Option (Option Address) :=
  if (dropBlanks line.toList).head? = some ';' then some none
  else match (words line.toList).find? (·.any isAlphanumeric) with
    | none => some none
    | some word => sliceWordAddress? (String.ofList word)

namespace Screen

/-- The first word of a text with the blanks around it, and the rest.  Each offset is counted
from the one before it. -/
def sliceWord? (t : String) : Option (String × String) := do
  let start := t.utf8ByteSize - (String.ofList (dropBlanks t.toList)).utf8ByteSize
  let (_, afterBlanks) ← sliceAt? t start
  let wordEnd := ((offsetOf? isBlank afterBlanks).map (start + ·)).getD t.utf8ByteSize
  let (_, afterWord) ← sliceAt? t wordEnd
  let restStart := ((offsetOf? (!isBlank ·) afterWord).map (wordEnd + ·)).getD t.utf8ByteSize
  sliceAt? t restStart

/-- An instruction and, with what separates them, its comment. -/
def sliceComment? (line : String) : Option (String × Option String) :=
  match offsetOfPart? commentMark line with
  | some offset => (sliceAt? line offset).map fun (body, comment) => (body, some comment)
  | none => some (line, none)

/-- The pieces that a line of disassembly is painted in. -/
def slicePieces? (line : String) : Option (List String) := do
  match ← sliceAddress? line with
  | none => some [line]
  | some _ =>
    let (body, comment?) ← sliceComment? line
    let (address, rest) ← sliceWord? body
    let (bytes, text) ← sliceWord? rest
    some ([address, bytes, text] ++ comment?.toList)

end Screen

end AsmView
