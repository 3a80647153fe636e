import ScriptRunner.Text.Extender
import ScriptRunner.Text.Unprintable

/-!
# Quoted texts

A text in quotation marks, with escapes for quotation marks, backslashes, line ends, tabs and NUL.
Any other character that is not printed, or that would join the one in front of it, is written with
its number in hexadecimal digits.
-/

namespace ScriptRunner.Text

/-- What opens and closes the number of an escaped character. -/
def braced (s : Text) : Text := ['{'] ++ s ++ ['}']

/-- A character as it stands in a quoted text. -/
def quotedChar (c : Char) : Text :=
  if c = '"' then ['\\', '"']
  else if c = '\\' then ['\\', '\\']
  else if c = '\n' then ['\\', 'n']
  else if c = '\r' then ['\\', 'r']
  else if c = '\t' then ['\\', 't']
  else if c.toNat = 0 then ['\\', '0']
  else if isExtender c || isUnprintable c then
    ['\\', 'u'] ++ braced (Nat.toDigits 16 c.toNat)
  else [c]

/-- A text in quotation marks. -/
def quoted (s : Text) : Text := ['"'] ++ s.flatMap quotedChar ++ ['"']

end ScriptRunner.Text
