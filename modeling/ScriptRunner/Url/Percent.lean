import ScriptRunner.Text.Digit
import ScriptRunner.Text.Utf8

/-!
# Percent encoding

A character that may not stand in a part of a URL is written as its UTF-8 bytes, each as a percent
sign and two digits. The parts differ in the ASCII characters they encode; control characters and
characters outside ASCII are encoded in all of them.
-/

namespace ScriptRunner.Url

open Text

/-- A control character of ASCII. -/
def isControl (c : Char) : Bool := c.toNat < 0x20 || c.toNat == 0x7F

/-- Characters encoded in a fragment, beside controls. -/
def fragmentMarks : List Char := [' ', '"', '<', '>', '`']

/-- Characters encoded in a path, beside controls. -/
def pathMarks : List Char := fragmentMarks ++ ['#', '?', '{', '}']

/-- Characters encoded in a user name or a password, beside controls. -/
def userMarks : List Char := pathMarks ++ ['/', ':', ';', '=', '@', '[', '\\', ']', '^', '|']

/-- Characters encoded in a query, beside controls. -/
def queryMarks : List Char := [' ', '"', '#', '<', '>']

/-- Characters encoded in the query of a URL with a special scheme, beside controls. -/
def specialQueryMarks : List Char := queryMarks ++ ['\'']

/-- A number below 16 as an upper case digit. -/
def upperDigit (n : Nat) : Char := Char.ofNat (if n < 10 then 0x30 + n else 0x37 + n)

/-- A byte in its encoded form. -/
def encodedByte (b : UInt8) : Text := ['%', upperDigit (b.toNat / 16), upperDigit (b.toNat % 16)]

/-- Whether a character is encoded where `marks` are. -/
def needsEncoding (marks : List Char) (c : Char) : Bool :=
  isControl c || 0x80 ≤ c.toNat || marks.contains c

/-- A text with the characters encoded that may not stand in a part of a URL. -/
def percentEncode (marks : List Char) (s : Text) : Text :=
  s.flatMap fun c =>
    if needsEncoding marks c then (String.utf8EncodeChar c).flatMap encodedByte else [c]

/-- The bytes of a text, with encoded bytes decoded. A percent sign without two digits stands for
itself. -/
def percentDecode : Text → Bytes
  | [] => []
  | [c] => String.utf8EncodeChar c
  | [c, d] => String.utf8EncodeChar c ++ String.utf8EncodeChar d
  | c :: d :: e :: rest =>
    match c == '%', hexValue? d, hexValue? e with
    | true, some high, some low => UInt8.ofNat (high * 16 + low) :: percentDecode rest
    | _, _, _ => String.utf8EncodeChar c ++ percentDecode (d :: e :: rest)

end ScriptRunner.Url
