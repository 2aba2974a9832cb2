/-
# Labelled rows

Text of the form `label: value`, line by line.  A line is cut at its first colon and
its label shown in upper case; blank lines are left out, and a line without a colon is
a label without a value.
-/
import AsmView.Panel
import AsmView.Text.Case

namespace AsmView

open Text

/-- The row of a trimmed line. -/
def LabelledValue.ofLine (line : List Char) : LabelledValue :=
  match cutAt? [':'] line with
  | some (label, value) =>
    ⟨String.ofList (uppercase (trimBlanks label)), String.ofList (trimBlanks value)⟩
  | none => ⟨String.ofList (uppercase line), ""⟩

/-- The rows of a text. -/
def LabelledValue.ofText (s : String) : List LabelledValue :=
  (((lines s.toList).map trimBlanks).filter (!·.isEmpty)).map ofLine

/-- The note in a `mnemonic: description` text. -/
def OpcodeNote.ofText? (s : String) : Option OpcodeNote :=
  (cutAt? [':', ' '] s.toList).map fun (mnemonic, text) =>
    ⟨String.ofList (trimBlanks mnemonic), String.ofList (trimBlanks text)⟩

end AsmView
