/-
# What the boxes say

The styled text of every box on screen, from the listing, the panels and the theme.
-/
import AsmView.Line
import AsmView.Machine
import AsmView.Panel
import AsmView.Screen.Ink
import AsmView.Screen.Theme
import AsmView.Text.Case

namespace AsmView

open Text

namespace Screen

/-- The title of a box: the key that leads to it, its label, and more about it. -/
def boxTitle (label : String) (key : Char) (more? : Option String) : String :=
  let more := (((more?.map trim).filter (!·.isEmpty)).map (" " ++ ·)).getD ""
  s!"─[{key}]─ {label}{more} "

/-- The first word of a text with the blanks around it, and the rest. -/
def cutWord (cs : List Char) : List Char × List Char :=
  let blanks := cs.takeWhile isBlank
  let afterBlanks := cs.dropWhile isBlank
  let word := afterBlanks.takeWhile (!isBlank ·)
  let afterWord := afterBlanks.dropWhile (!isBlank ·)
  (blanks ++ word ++ afterWord.takeWhile isBlank, afterWord.dropWhile isBlank)

/-- What separates an instruction from its comment. -/
def commentMark : List Char := [' ', ' ', ';', ' ']

/-- An instruction and, with what separates them, its comment. -/
def cutComment (cs : List Char) : List Char × Option (List Char) :=
  match cutAt? commentMark cs with
  | some (body, comment) => (body, some (commentMark ++ comment))
  | none => (cs, none)

/-- The spans of a line of disassembly: address, bytes, text and comment.  A line without
an address is one span, a header when it starts with a semicolon. -/
def disassemblySpans (theme : Theme) (line : String) : List Span :=
  if (lineAddress? line).isNone then
    let isHeader := (dropBlanks line.toList).head? = some ';'
    [⟨line, if isHeader then theme.header else theme.base⟩]
  else
    let (body, comment?) := cutComment line.toList
    let (address, rest) := cutWord body
    let (bytes, text) := cutWord rest
    [⟨String.ofList address, theme.address⟩, ⟨String.ofList bytes, theme.bytes⟩,
      ⟨String.ofList text, theme.base⟩] ++
      (comment?.map fun c => ⟨String.ofList c, theme.comment⟩).toList

/-- A line of disassembly, with the selection laid over it when the cursor is there. -/
def disassemblyLine (theme : Theme) (line : String) (underCursor : Bool) : InkLine :=
  let spans := disassemblySpans theme line
  ⟨{}, if underCursor then spans.map fun s => { s with style := s.style.patch theme.selection }
    else spans⟩

/-- What stands in a box that has nothing to show. -/
def emptyNote (theme : Theme) (message : String) : Ink :=
  [.whole message theme.comment]

/-- A labelled value, with the label padded to a width. -/
def rowLine (theme : Theme) (width : Nat) (r : LabelledValue) : InkLine :=
  ⟨{}, [⟨String.ofList (padRight width r.label.toList ++ [' ']), theme.footerLabel⟩,
    ⟨r.value, theme.base⟩]⟩

def noteLine (theme : Theme) (n : OpcodeNote) : InkLine :=
  ⟨{}, [⟨n.mnemonic ++ " ", theme.label⟩, ⟨n.text, theme.comment⟩]⟩

/-- The lines about a location. -/
def offsetLines (theme : Theme) (info : LocationFacts) : Ink :=
  let width := (info.rows.map (·.label.length)).foldl max 0
  info.rows.map (rowLine theme width) ++ (info.note?.map (noteLine theme)).toList

/-- What is known about the focus: the function's label and the lines about the
location. -/
def locationInk (theme : Theme) (p : Panels) : Ink :=
  let label := (p.function?.map (InkLine.whole · theme.label)).toList
  match p.offset? with
  | some info => label ++ offsetLines theme info
  | none => if label.isEmpty then emptyNote theme "No instruction under cursor" else label

def referenceInk (theme : Theme) (r : ReferenceRow) : InkLine :=
  ⟨{}, [⟨r.address.text, theme.address⟩, ⟨s!" {r.edge.kind.name} ", theme.footerLabel⟩,
    ⟨trim r.preview, theme.base⟩]⟩

/-- The surroundings of a jump's target. -/
def windowInk (theme : Theme) (p : TargetWindow) : Ink :=
  p.lines.mapIdx fun i line =>
    if p.highlight? = some i then .whole line theme.target else disassemblyLine theme line false

/-- The most lines a box can be scrolled by. -/
def maxScroll : Nat := 65535

/-- How many lines of a preview are scrolled away to put its target at the top. -/
def windowScroll (p : TargetWindow) : Nat :=
  min (p.highlight?.getD 0) maxScroll

def arcLength : Nat := 24

/-- The share of the longest arc that a value takes, rounded up.  It is computed in words, so
neither the product nor the sum may overflow. -/
def arcShare? (value most : UInt64) : Option Nat := do
  let product ← Machine.word? (value.toNat * arcLength)
  let sum ← Machine.word? (product + most.toNat)
  some (if value = 0 then 0 else max ((sum - 1) / most.toNat) 1)

/-- A metric with some of its dots filled. -/
def arcLine (theme : Theme) (label : String) (value : UInt64) (filled : Nat) : InkLine :=
  ⟨{}, [⟨String.ofList (padLeft 6 label.toList ++ [' ']), theme.footerLabel⟩,
    ⟨String.ofList (List.replicate filled '◉'), theme.bar⟩,
    ⟨String.ofList (List.replicate (arcLength - filled) '·'), theme.bytes⟩,
    ⟨s!" {decimalText value.toNat}", theme.base⟩]⟩

/-- The largest of some values, and at least 1. -/
def largest (values : List UInt64) : UInt64 :=
  values.foldl max 1

/-- The metrics as arcs in proportion to the largest, unless one of them overflows. -/
def arcsInk? (theme : Theme) (m : Metrics) : Option Ink :=
  m.labelled.mapM fun (label, value) =>
    (arcShare? value (largest m.values)).map (arcLine theme label value)

/-- A text in lower case but for its first character. -/
def capitalized (s : String) : String :=
  match lowercase s.toList with
  | [] => ""
  | c :: cs => String.ofList (upperOf c ++ cs)

/-- What stands at the right end of the footer. -/
def brandLine (theme : Theme) : InkLine :=
  ⟨{}, [⟨"disview ", theme.header⟩]⟩

/-- An item of the footer: what a key does, and the key. -/
def footerItem (theme : Theme) (label key : String) (disabled : Bool) : List Span :=
  let style := if disabled then theme.footerLabel else theme.footerKey
  [⟨capitalized label ++ ":", theme.footerLabel⟩, ⟨key, { style with bold := true }⟩]

/-- What separates the items of the footer. -/
def footerBar (theme : Theme) : Span :=
  ⟨" | ", theme.footerLabel⟩

/-- Items of the footer with bars between them. -/
def footerItems (theme : Theme) (items : List (String × String × Bool)) : List Span :=
  List.intercalate [footerBar theme]
    (items.map fun (label, key, disabled) => footerItem theme label key disabled)

/-- A message behind the footer, unless it is empty. -/
def footerTail (message : String) : List Span :=
  if message.isEmpty then [] else [⟨message, {}⟩]

def promptLead : String := "seek> "

/-- The footer while a place is asked for. -/
def promptLine (theme : Theme) (query message : String) : InkLine :=
  ⟨{}, [⟨promptLead, { theme.footerKey with bold := true }⟩, ⟨query, {}⟩, ⟨"   ", {}⟩,
      ⟨" ", theme.footerLabel⟩] ++
    footerItems theme [("GO", "Enter", false), ("CANCEL", "Esc", false)] ++ footerTail message⟩

end Screen

end AsmView
