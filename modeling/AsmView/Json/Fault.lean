/-
# What can be wrong with a JSON text

A fault has a cause and a place.  The place is counted in bytes from the end of
the text, so that it can be noted without knowing how much was read before; only
when the fault is shown is it turned into a line and a column.  Faults of content
(a missing field, a value of the wrong kind) are noted without a place and get
the place at which the list or object around them was left.
-/
import AsmView.Text.Digits

namespace AsmView.Json

open Text

/-- Why a text is not the JSON text that was asked for. -/
inductive Cause where
  | eofInList
  | eofInObject
  | eofInString
  | eofInValue
  | expectedColon
  | expectedListEnd
  | expectedObjectEnd
  | expectedIdent
  | expectedValue
  | invalidEscape
  | invalidNumber
  | numberOutOfRange
  | keyMustBeString
  | loneSurrogate
  | controlCharacter
  | trailingComma
  | trailingCharacters
  | cutHexEscape
  | tooDeep
  | content (message : String)
deriving DecidableEq, Repr

def Cause.message : Cause → String
  | .eofInList => "EOF while parsing a list"
  | .eofInObject => "EOF while parsing an object"
  | .eofInString => "EOF while parsing a string"
  | .eofInValue => "EOF while parsing a value"
  | .expectedColon => "expected `:`"
  | .expectedListEnd => "expected `,` or `]`"
  | .expectedObjectEnd => "expected `,` or `\x7d`"
  | .expectedIdent => "expected ident"
  | .expectedValue => "expected value"
  | .invalidEscape => "invalid escape"
  | .invalidNumber => "invalid number"
  | .numberOutOfRange => "number out of range"
  | .keyMustBeString => "key must be a string"
  | .loneSurrogate => "lone leading surrogate in hex escape"
  | .controlCharacter =>
    "control character (\\u0000-\\u001F) found while parsing a string"
  | .trailingComma => "trailing comma"
  | .trailingCharacters => "trailing characters"
  | .cutHexEscape => "unexpected end of hex escape"
  | .tooDeep => "recursion limit exceeded"
  | .content m => m

/-- The bytes a text takes in UTF-8. -/
def byteCount (cs : List Char) : Nat :=
  cs.foldl (fun n c => n + c.utf8Size) 0

/-- A fault: its cause, what was still unread, and how many bytes lie behind its
place, once it has one. -/
structure Fault where
  cause : Cause
  unread : List Char
  behind? : Option Nat
deriving DecidableEq, Repr

namespace Fault

/-- A fault at the place reading has reached. -/
def here (cause : Cause) (unread : List Char) : Fault :=
  ⟨cause, unread, some (byteCount unread)⟩

/-- A fault at the byte that comes next: its place is just behind that byte. -/
def atNext (cause : Cause) (unread : List Char) : Fault :=
  ⟨cause, unread, some (byteCount unread - 1)⟩

/-- A fault of content, which has no place yet. -/
def ofContent (message : String) (unread : List Char) : Fault :=
  ⟨.content message, unread, none⟩

/-- The fault, placed where reading stands unless it has a place. -/
def settle (f : Fault) (unread : List Char) : Fault :=
  { f with unread, behind? := some (f.behind?.getD (byteCount unread)) }

end Fault

/-- The line and column of a byte offset: lines count from 1, columns are the
bytes since the last line feed. -/
def lineColumn : Nat → List Char → Nat × Nat → Nat × Nat
  | _, [], at_ => at_
  | offset, c :: cs, (line, column) =>
    if offset < c.utf8Size then (line, column + offset)
    else lineColumn (offset - c.utf8Size) cs
      (if c = '\n' then (line + 1, 0) else (line, column + c.utf8Size))

/-- The fault as shown for the text it was found in. -/
def Fault.message (f : Fault) (whole : List Char) : String :=
  match f.behind? with
  | none => f.cause.message
  | some behind =>
    let (line, column) := lineColumn (byteCount whole - behind) whole (1, 0)
    s!"{f.cause.message} at line {line} column {column}"

end AsmView.Json
