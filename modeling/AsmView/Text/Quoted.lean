/-
# Quoted text in messages

Messages show text between double quotes.  The quote and the backslash get a
backslash in front, the common control characters their letters, and every other
character that is not printable its code point in braces.
-/
import AsmView.Text.Digits
import AsmView.Text.Printable

namespace AsmView.Text

/-- The form one character takes between the quotes. -/
def quotedChar (c : Char) : List Char :=
  if c = '"' then ['\\', '"']
  else if c = '\\' then ['\\', '\\']
  else if c = '\x00' then ['\\', '0']
  else if c = '\t' then ['\\', 't']
  else if c = '\n' then ['\\', 'n']
  else if c = '\r' then ['\\', 'r']
  else if isPrintable c then [c]
  else ['\\', 'u', '\x7b'] ++ hexNumeral c.toNat ++ ['\x7d']

/-- A text between double quotes. -/
def quoted (s : String) : String :=
  String.ofList ('"' :: s.toList.flatMap quotedChar ++ ['"'])

end AsmView.Text
