/-
# Reading JSON values of a known shape

A reader takes what it needs from the front of the text.  Lists and objects are
read element by element with the reader of the element, so the first thing wrong
from the left is the one reported.  A value that is no part of the asked-for shape
is passed over, checked only for its syntax.
-/
import AsmView.Json.Scalar
import AsmView.Text.Quoted
import AsmView.Decimal.Shortest

namespace AsmView.Json

open Text

/-- Takes a value from the front of a text, or says what is wrong with it. -/
abbrev Reader := StateT (List Char) (Except Fault)

namespace Reader

/-- Fails with a cause placed where reading stands. -/
def failHere {α : Type} (cause : Cause) : Reader α :=
  fun cs => .error (.here cause cs)

/-- Fails with a cause placed behind the next byte. -/
def failNext {α : Type} (cause : Cause) : Reader α :=
  fun cs => .error (.atNext cause cs)

/-- Fails with a fault of content. -/
def failContent {α : Type} (message : String) : Reader α :=
  fun cs => .error (.ofContent message cs)

def isSpace (c : Char) : Bool :=
  c = ' ' || c = '\n' || c = '\t' || c = '\r'

/-- Passes over blanks and looks at the character behind them. -/
def peek : Reader (Option Char) :=
  fun cs => let cs := cs.dropWhile isSpace; .ok (cs.head?, cs)

def advance : Reader Unit :=
  fun cs => .ok ((), cs.drop 1)

/-- A reader made from a scanner. -/
def ofScan {α : Type} (scan : List Char → Except Fault (α × List Char)) : Reader α :=
  scan

/-- Gives a fault of content the place where reading stands. -/
def settled {α : Type} (reader : Reader α) : Reader α :=
  fun cs => match reader cs with
    | .ok r => .ok r
    | .error f => .error (f.settle f.unread)

/-- The rest of a literal name, behind its first letter. -/
def ident : List Char → Reader Unit
  | [] => pure ()
  | c :: cs => do
    match ← get with
    | [] => failHere .eofInValue
    | d :: _ => if c = d then do advance; ident cs else failNext .expectedIdent

/-- The string behind its opening quote. -/
def stringRest : Reader String :=
  ofScan (scanString true .plain [])

/-- The number behind its sign, if it has one. -/
def number (negative : Bool) : Reader Number :=
  ofScan (scanNumber negative)

/-- What a fault of content says of a number that was found. -/
def describeNumber : Number → String
  | .count n => s!"integer `{n}`"
  | .negative n => s!"integer `-{n}`"
  | .fraction f => s!"floating point `{Decimal.scientific f}`"

/-- Fails because the next value is not `expected`, naming what it is instead. -/
def failKind {α : Type} (expected : String) : Reader α := settled do
  let found (what : String) : Reader α :=
    failContent s!"invalid type: {what}, expected {expected}"
  match ← peek with
  | some 'n' => advance; ident ['u', 'l', 'l']; found "null"
  | some 't' => advance; ident ['r', 'u', 'e']; found "boolean `true`"
  | some 'f' => advance; ident ['a', 'l', 's', 'e']; found "boolean `false`"
  | some '-' => do advance; found (describeNumber (← number true))
  | some '"' => do advance; found s!"string {quoted (← stringRest)}"
  | some '[' => found "sequence"
  | some '\x7b' => found "map"
  | some c =>
    if isDecimalDigit c then do found (describeNumber (← number false))
    else failNext .expectedValue
  | none => failNext .expectedValue

/-- The next character that begins a value. -/
def peekValue : Reader Char := do
  match ← peek with
  | some c => pure c
  | none => failNext .eofInValue

def string : Reader String := do
  if (← peekValue) = '"' then do advance; stringRest
  else failKind "a string"

/-- A count below 2⁶⁴. -/
def count64 : Reader UInt64 := settled do
  let c ← peekValue
  let taken : Reader Number :=
    if c = '-' then do advance; number true
    else if isDecimalDigit c then number false
    else failKind "u64"
  match ← taken with
  | .count n => pure n.toUInt64
  | .negative n => failContent s!"invalid value: integer `-{n}`, expected u64"
  | .fraction f => failContent s!"invalid type: {describeNumber (.fraction f)}, expected u64"

/-- A value that may be `null`. -/
def nullable {α : Type} (value : Reader α) : Reader (Option α) := do
  if (← peek) = some 'n' then do advance; ident ['u', 'l', 'l']; pure none
  else do pure (some (← value))

/-! ## Lists -/

/-- Whether another element follows in a list; takes the comma before it. -/
def listContinues (first : Bool) : Reader Bool := do
  match ← peek with
  | none => failNext .eofInList
  | some ']' => pure false
  | some c =>
    if first then pure true
    else if c = ',' then do
      advance
      match ← peek with
      | some ']' => failNext .trailingComma
      | some _ => pure true
      | none => failNext .eofInValue
    else failNext .expectedListEnd

def listEnd : Reader Unit := do
  match ← peek with
  | some ']' => advance
  | some ',' => do
    advance
    match ← peek with
    | some ']' => failNext .trailingComma
    | _ => failNext .trailingCharacters
  | some _ => failNext .trailingCharacters
  | none => failNext .eofInList

/-- Whether another member follows in an object; takes the comma before it. -/
def objectContinues (first : Bool) : Reader Bool := do
  match ← peek with
  | none => failNext .eofInObject
  | some '\x7d' => pure false
  | some c =>
    if first then
      if c = '"' then pure true else failNext .keyMustBeString
    else if c = ',' then do
      advance
      match ← peek with
      | some '"' => pure true
      | some '\x7d' => failNext .trailingComma
      | some _ => failNext .keyMustBeString
      | none => failNext .eofInValue
    else failNext .expectedObjectEnd

def objectEnd : Reader Unit := do
  match ← peek with
  | some '\x7d' => advance
  | some ',' => failNext .trailingComma
  | some _ => failNext .trailingCharacters
  | none => failNext .eofInObject

def colon : Reader Unit := do
  match ← peek with
  | some ':' => advance
  | some _ => failNext .expectedColon
  | none => failNext .eofInObject

/-- Reads a body and then its end.  When the body fails the end is still looked
for, so that a fault of content is placed behind it. -/
def closedBy {α : Type} (close : Reader Unit) (body : Reader α) : Reader α :=
  fun cs => match body cs with
    | .ok (a, rest) =>
      match close rest with
      | .ok (_, rest) => .ok (a, rest)
      | .error f => .error (f.settle f.unread)
    | .error f =>
      match close f.unread with
      | .ok (_, rest) => .error (f.settle rest)
      | .error g => .error (f.settle g.unread)

/-- The elements of a list, up to its end.  The number bounds how many there can
be. -/
def elements {α : Type} (item : Reader α) : Nat → Bool → Reader (List α)
  | 0, _ => pure []
  | n + 1, first => do
    if ← listContinues first then do
      let a ← item
      let as ← elements item n false
      pure (a :: as)
    else pure []

/-- A list of values read by `item`. -/
def list {α : Type} (item : Reader α) : Reader (List α) := do
  if (← peekValue) = '[' then
    closedBy listEnd do
      advance
      let room := (← get).length + 1
      elements item room true
  else failKind "a sequence"

/-! ## Values passed over -/

/-- A string passed over; its escapes need not be proper characters. -/
def skipString : Reader Unit := do
  let _ ← ofScan (scanString false .plain [])

/-- A number passed over behind its sign.  It may be of any size, and is cut short rather
than missing. -/
def skipNumber : Reader Unit := fun cs =>
  match scanNumeral cs with
  | .ok (_, rest) => .ok ((), rest)
  | .error f => .error (if f.cause = .eofInValue then { f with cause := .invalidNumber } else f)

/-- A key and its colon inside a value passed over. -/
def skipKey : Reader Unit := do
  match ← peek with
  | some '"' => do
    advance; skipString
    match ← peek with
    | some ':' => advance
    | some _ => failNext .expectedColon
    | none => failNext .eofInObject
  | some _ => failNext .keyMustBeString
  | none => failNext .eofInObject

/-- Closes as many of the open lists and objects (`true` for an object, innermost
first) as end here, up to the comma after which the next value stands.  The answer
is what is still open. -/
def skipClosers (afterValue : Bool) : Nat → List Bool → Reader (List Bool)
  | 0, isOpen => pure isOpen
  | _ + 1, [] => pure []
  | n + 1, object :: outer => do
    match ← peek with
    | none => failNext (if object then .eofInObject else .eofInList)
    | some c =>
      if c = ',' && afterValue then do advance; pure (object :: outer)
      else if c = (if object then '\x7d' else ']') then do
        advance; skipClosers true n outer
      else if afterValue then
        failNext (if object then .expectedObjectEnd else .expectedListEnd)
      else pure (object :: outer)

/-- Passes over one value and the rest of everything still open around it.  The
number bounds how many values can follow. -/
def skipOpen : Nat → List Bool → Reader Unit
  | 0, _ => pure ()
  | n + 1, isOpen => do
    let c ← peekValue
    let stillOpen ← show Reader (List Bool) from do
      if c = '[' || c = '\x7b' then do
        advance
        skipClosers false (n + 2) ((c = '\x7b') :: isOpen)
      else do
        if c = 'n' then do advance; ident ['u', 'l', 'l']
        else if c = 't' then do advance; ident ['r', 'u', 'e']
        else if c = 'f' then do advance; ident ['a', 'l', 's', 'e']
        else if c = '-' then do advance; skipNumber
        else if c = '"' then do advance; skipString
        else if isDecimalDigit c then skipNumber
        else failNext .expectedValue
        skipClosers true (n + 2) isOpen
    match stillOpen with
    | [] => pure ()
    | object :: _ => do
      if object then skipKey
      skipOpen n stillOpen

/-- Passes over one value. -/
def skip : Reader Unit := do
  skipOpen ((← get).length + 1) []

/-! ## Objects of a fixed shape -/

/-- A member of a fixed shape: its name, whether the draft has it already, and
how it is read into the draft.  A member that may be left out at the end of the
list form is `optional`. -/
structure Member (δ : Type) where
  name : String
  isSet : δ → Bool
  read : δ → Reader δ
  optional : Bool

/-- A fixed shape: its name in messages, its members in order, and how a finished
draft becomes a value (or which member is missing). -/
structure Shape (δ α : Type) where
  name : String
  members : List (Member δ)
  finish : δ → Except String α

/-- The members of an object, in any order; unknown ones are passed over. -/
def objectMembers {δ : Type} (members : List (Member δ)) : Nat → Bool → δ → Reader δ
  | 0, _, draft => pure draft
  | n + 1, first, draft => do
    if ← objectContinues first then do
      advance
      let key ← stringRest
      match members.find? (·.name = key) with
      | some m =>
        if m.isSet draft then failContent s!"duplicate field `{key}`"
        else do
          colon
          objectMembers members n false (← m.read draft)
      | none => do
        colon; skip
        objectMembers members n false draft
    else pure draft

/-- The members of the list form, in order. -/
def listMembers {δ : Type} (expected : String) :
    List (Member δ) → Nat → Bool → δ → Reader δ
  | [], _, _, draft => pure draft
  | m :: ms, taken, first, draft => do
    if ← listContinues first then do
      listMembers expected ms (taken + 1) false (← m.read draft)
    else if m.optional then listMembers expected ms (taken + 1) first draft
    else failContent s!"invalid length {taken}, expected {expected}"

/-- The value of a finished draft. -/
def finished {δ α : Type} (shape : Shape δ α) (draft : δ) : Reader α :=
  match shape.finish draft with
  | .ok a => pure a
  | .error missing => failContent s!"missing field `{missing}`"

/-- A value of a fixed shape, written as an object or as the list of its members. -/
def shaped {δ α : Type} (shape : Shape δ α) (draft : δ) : Reader α := do
  let c ← peekValue
  if c = '\x7b' then
    closedBy objectEnd do
      advance
      let room := (← get).length + 1
      finished shape (← objectMembers shape.members room true draft)
  else if c = '[' then
    closedBy listEnd do
      advance
      let expected := s!"struct {shape.name} with {shape.members.length} elements"
      finished shape (← listMembers expected shape.members 0 true draft)
  else failKind s!"struct {shape.name}"

/-! ## Whole texts -/

/-- Nothing but blanks is left. -/
def endOfText : Reader Unit := do
  match ← peek with
  | none => pure ()
  | some _ => failNext .trailingCharacters

/-- Reads a whole text. -/
def run {α : Type} (reader : Reader α) (text : String) : Except Fault α :=
  (do let a ← reader; endOfText; pure a : Reader α).run' text.toList

end Reader

end AsmView.Json
