/-!
# Texts and byte strings

Script lines, statements and messages are lists of characters; file names, file contents and the
bytes that reach an output are lists of bytes. This module fixes the two types and the passage
from a string literal to a text.
-/

namespace ScriptRunner

/-- A text is the list of its characters. -/
abbrev Text := List Char

/-- A byte string, such as a file name or the contents of a file. -/
abbrev Bytes := List UInt8

/-- A string literal stands for the text of its characters. -/
instance : Coe String Text := ⟨String.toList⟩

namespace Text

/-- The decimal digits of a natural number. -/
def ofNat (n : Nat) : Text := Nat.toDigits 10 n

/-- The texts one after another, with `separator` between neighbours. -/
def join (separator : Text) : List Text → Text
  | [] => []
  | [s] => s
  | s :: rest => s ++ separator ++ join separator rest

end Text

end ScriptRunner
