/-
# How wide text is

On a terminal a character takes one cell, or two when it is as wide as it is high, or
none when it only changes its neighbour or is not shown at all.  The width of a text is
not always the sum: characters that are drawn as one take the room of one.  Which of
them are is seen from the end of the text, so a text is measured from its last character
to its first, with a note of what stands behind the character at hand.
-/
import AsmView.Text.WidthTable

namespace AsmView.Text

/-- A control character. -/
def isControl (c : Char) : Bool :=
  c.toNat < 0x20 || (0x7f ≤ c.toNat && c.toNat < 0xa0)

/-- The number of cells a character takes by itself.  A line feed takes none; any other
control character is given one. -/
def charWidth (c : Char) : Nat :=
  if c = '\n' then 0
  else if c.toNat ≤ 0xa0 then 1
  else if c = '\u17d8' then 3
  else if withinBounds wideBounds c then 2
  else if withinBounds unseenBounds c then 0
  else 1

/-- The joiner, which makes one drawing of its two neighbours. -/
def joinerSign : Char := '\u200d'

/-- The sign that asks for the pictured form of the character before it. -/
def pictureSign : Char := '\ufe0f'

/-- The sign that asks for the written form of the character before it. -/
def textSign : Char := '\ufe0e'

/-- What stands behind a character, as far as it can change the room the character
takes.  Of the letters that join, a flag tells whether a joiner stands before them. -/
inductive Behind where
  | plain
  | lineFeed
  | skinTone
  | flagLetter
  | flagLetters
  | picture
  /-- A joiner and a picture. -/
  | joinedPicture
  /-- The frame of a drawn key, joined to a picture. -/
  | joinedKey
  /-- One flag letter joined to a picture, or an even or an odd number of them. -/
  | joinedFlagLetter
  | joinedFlagsEven
  | joinedFlagsOdd
  /-- The end of a flag's tag joined to a picture, with some letters or digits of the
  tag. -/
  | tag (letters digits : Nat)
  | alef
  | lamed (joined : Bool)
  | ya (joined : Bool)
  | yaWithVowel
  | tifinagh (joined : Bool)
  | tifinaghWithJoiner
  | toneMark
  | orkhonI (joined : Bool)
  | stackedLetter
deriving DecidableEq, Repr

namespace Behind

/-- A letter that can be drawn as one with the letter before it. -/
def isLigature : Behind → Bool
  | .alef | .lamed _ | .ya _ | .yaWithVowel | .tifinagh _ | .tifinaghWithJoiner
  | .toneMark | .orkhonI _ | .stackedLetter => true
  | _ => false

/-- A picture joined to what stands before it. -/
def isJoined : Behind → Bool
  | .joinedPicture | .joinedKey => true
  | _ => false

/-- The same letter with a joiner before it. -/
def join : Behind → Behind
  | .lamed _ => .lamed true
  | .ya _ => .ya true
  | .tifinagh _ => .tifinagh true
  | .orkhonI _ => .orkhonI true
  | b => b

end Behind

/-- A Tifinagh consonant, two of which can be written as one. -/
def isTifinaghConsonant (n : Nat) : Bool :=
  (0x2d31 ≤ n && n ≤ 0x2d65) || n = 0x2d6f

/-- An alef. -/
def isAlef (n : Nat) : Bool :=
  [0x622, 0x623, 0x625, 0x627, 0x671, 0x672, 0x673, 0x675, 0x773, 0x774].contains n ||
    (0x870 ≤ n && n ≤ 0x882)

/-- A lam, which is written as one with an alef behind it. -/
def isLam (n : Nat) : Bool :=
  [0x644, 0x6b5, 0x6b6, 0x6b7, 0x6b8, 0x76a, 0x8a6, 0x8c7].contains n

/-- The Khmer letters that keep their width below another one. -/
def unstackedLetters : List Nat :=
  [0x1783, 0x1788, 0x178d, 0x1794, 0x1799, 0x179a, 0x179e, 0x179f, 0x17a1, 0x17a3, 0x17a4,
    0x17a5, 0x17a6, 0x17a8, 0x17a9, 0x17aa, 0x17ad, 0x17ae]

/-- A Khmer letter that can be stacked below another one. -/
def isStackedLetter (n : Nat) : Bool :=
  0x1780 ≤ n && n ≤ 0x17af && !unstackedLetters.contains n

/-- A letter of a flag. -/
def isFlagLetter (n : Nat) : Bool :=
  0x1f1e6 ≤ n && n ≤ 0x1f1ff

/-- A skin tone. -/
def isSkinTone (n : Nat) : Bool :=
  0x1f3fb ≤ n && n ≤ 0x1f3ff

/-- What a character is to the one before it, whatever stands behind it. -/
def Behind.of (c : Char) : Behind :=
  let n := c.toNat
  if n < 0x5dc then .plain
  else if n = 0x5dc then .lamed false
  else if isAlef n then .alef
  else if isStackedLetter n then .stackedLetter
  else if n = 0x1a10 then .ya false
  else if n < 0x2300 then .plain
  else if isTifinaghConsonant n then .tifinagh false
  else if n = 0xa4fc || n = 0xa4fd then .toneMark
  else if n = 0x10c03 then .orkhonI false
  else if isFlagLetter n then .flagLetter
  else if isSkinTone n then .skinTone
  else if withinBounds drawnBounds c then .picture
  else .plain

/-- A sign that is ignored between letters that are drawn as one. -/
def isIgnoredBetween (c : Char) : Bool :=
  let n := c.toNat
  n = 0x34f || n = 0x17b4 || n = 0x17b5 || (0x180b ≤ n && n ≤ 0x180d) || n = 0x180f ||
    n = 0x200d || (0xfe00 ≤ n && n ≤ 0xfe0f) || (0xe0100 ≤ n && n ≤ 0xe01ef)

/-- A sign without room of its own across which a lam and an alef meet. -/
def isTransparent (c : Char) : Bool :=
  charWidth c = 0 && !withinBounds separatingBounds c

/-- A flag's tag read one letter further to the front: at most six letters, or three
digits and no letters between them and the end, or up to four letters behind them. -/
def tagBefore? (letters digits n : Nat) : Option Behind :=
  if digits = 0 && letters < 6 && 0xe0061 ≤ n && n ≤ 0xe007a then some (.tag (letters + 1) 0)
  else if 0xe0030 ≤ n && n ≤ 0xe0039 then
    if digits = 0 && letters ≤ 4 then some (.tag 0 1)
    else if 0 < digits && digits < 3 then some (.tag 0 (digits + 1))
    else none
  else if n = 0x1f3f4 && (3 ≤ letters || digits = 3) then some .picture
  else none

/-- What a character adds to the width when it is drawn as one with what stands behind
it, and what it is to the one before it. -/
def jointly? (b : Behind) (c : Char) : Option (Int × Behind) :=
  let n := c.toNat
  match b with
  | .alef => if isLam n then some (0, .plain) else if isTransparent c then some (0, .alef) else none
  | .lamed true => if n = 0x5d0 then some (0, .plain) else none
  | .stackedLetter => if n = 0x17d2 then some (-1, .plain) else none
  | .ya true => if n = 0x1a17 then some (0, .yaWithVowel) else none
  | .yaWithVowel => if n = 0x1a15 then some (0, .plain) else none
  | .tifinagh joined =>
    if n = 0x2d7f then some (1, .tifinaghWithJoiner)
    else if joined && isTifinaghConsonant n then some (0, .plain)
    else none
  | .tifinaghWithJoiner => if isTifinaghConsonant n then some (-1, .plain) else none
  | .toneMark => if 0xa4f8 ≤ n && n ≤ 0xa4fb then some (0, .plain) else none
  | .orkhonI true => if n = 0x10c32 then some (0, .plain) else none
  | .skinTone =>
    if withinBounds toneBaseBounds c then some (0, .picture)
    else if c = joinerSign then some (0, .joinedPicture)
    else none
  | .flagLetter => if isFlagLetter n then some (1, .flagLetters) else none
  | .flagLetters =>
    if isFlagLetter n then some (1, .flagLetters)
    else if c = joinerSign then some (0, .joinedPicture)
    else none
  | .picture => if c = joinerSign then some (0, .joinedPicture) else none
  | .joinedPicture =>
    if n = 0x20e3 then some (0, .joinedKey)
    else if isFlagLetter n then some (1, .joinedFlagLetter)
    else if isSkinTone n then some (0, .skinTone)
    else if n = 0xe007f then some (0, .tag 0 0)
    else if Behind.of c = .picture then some (0, .picture)
    else none
  | .joinedFlagLetter => if isFlagLetter n then some (-1, .joinedFlagsEven) else none
  | .joinedFlagsEven =>
    if isFlagLetter n then some (3, .joinedFlagsOdd)
    else if c = joinerSign then some (0, .joinedPicture)
    else none
  | .joinedFlagsOdd =>
    if isFlagLetter n then some (-1, .joinedFlagsEven)
    else if c = joinerSign then some (0, .joinedPicture)
    else none
  | .tag letters digits => (tagBefore? letters digits n).map fun b => (0, b)
  | _ => none

/-- What has been seen of a text that is measured from its end. -/
structure Measure where
  width : Int := 0
  behind : Behind := .plain
  /-- The character at hand is asked for as a picture. -/
  asPicture : Bool := false
  /-- The character at hand is asked for as text. -/
  asText : Bool := false
deriving DecidableEq, Repr

namespace Measure

/-- A character has been measured. -/
def after (m : Measure) (added : Int) (b : Behind) : Measure :=
  { width := m.width + added, behind := b }

/-- The character at hand is to be a picture; a letter or a joined picture behind it
stays in sight. -/
def askPicture (m : Measure) : Measure :=
  if m.behind.isLigature || m.behind.isJoined then { m with asPicture := true }
  else { width := m.width, asPicture := true }

/-- The character at hand is to be text. -/
def askText (m : Measure) : Measure :=
  if m.behind.isLigature then { m with asText := true } else { width := m.width, asText := true }

/-- The character at hand has no form as a picture. -/
def noPicture (m : Measure) : Measure :=
  if !m.asPicture then m
  else if m.behind.isLigature then { m with asPicture := false }
  else { width := m.width }

/-- Measures a character that is asked for in no special form. -/
def takePlain (m : Measure) (c : Char) : Measure :=
  if m.behind.isLigature && m.behind ≠ .alef && isIgnoredBetween c then
    m.after 0 (if c = joinerSign then m.behind.join else m.behind)
  else match jointly? m.behind c with
    | some (added, b) => m.after added b
    | none => m.after (charWidth c) (.of c)

/-- Measures the character before those measured so far. -/
def take (m : Measure) (c : Char) : Measure :=
  if m.asPicture && withinBounds pictureFormBounds c then
    m.after (if m.behind.isJoined then 0 else 2) .picture
  else
    let m := m.noPicture
    if c = '\n' then m.after 0 .lineFeed
    else if c = '\r' && m = { width := m.width, behind := .lineFeed } then m.after 0 .plain
    else if c.toNat ≤ 0xa0 then m.after 1 .plain
    else if c = pictureSign then m.askPicture
    else if c = textSign then m.askText
    else if m.asText && withinBounds textFormBounds c then m.after 1 .plain
    else { m with asText := false }.takePlain c

end Measure

/-- The number of cells a text takes. -/
def textWidth (cs : List Char) : Nat :=
  (cs.foldr (fun c m => m.take c) ({} : Measure)).width.toNat

end AsmView.Text
