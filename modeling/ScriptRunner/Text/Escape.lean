import ScriptRunner.Text.Basic

/-!
# Texts without escape sequences

A terminal takes an escape character and what belongs to it as a command, and does not show it, nor
any control character. What is left of a text without them is what a reader would see. White space
is kept, and white space inside a command that has no text of its own ends the command.
-/

namespace ScriptRunner.Text

/-- What a terminal takes the next character for. -/
inductive TerminalState where
  /-- A part of the text. -/
  | ground
  /-- What follows an escape character. -/
  | escape
  /-- What follows the first marks behind an escape character. -/
  | escapeMarks
  /-- A part of a control sequence, which ends with a letter or a sign like one. -/
  | sequence
  /-- The head of a device string, which ends in the same way and has text behind it. -/
  | deviceHead
  /-- A part of a text for the device. -/
  | device
  /-- A part of a text for the system, which a bell ends. -/
  | system
  deriving DecidableEq, Repr

/-- White space of ASCII. -/
def isAsciiBlank (c : Char) : Bool :=
  c == ' ' || c == '\t' || c == '\n' || c == '\r' || c == '\x0c'

/-- Whether the UTF-8 form of a character has the byte that ends a text for a device. -/
def hasStringEnd (c : Char) : Bool := 0x80 ≤ c.toNat && (String.utf8EncodeChar c).contains 0x9C

namespace TerminalState

/-- Whether control characters count as such, and not as a part of a string. -/
def obeysControls : TerminalState → Bool
  | ground | escape | escapeMarks | sequence => true
  | deviceHead | device | system => false

/-- The state that a character other than a control leads to, from the state behind an escape
character. -/
def afterEscape (c : Char) : TerminalState :=
  if c = '[' then sequence
  else if c = ']' then system
  else if c = 'P' then deviceHead
  else if c = 'X' ∨ c = '^' ∨ c = '_' then device
  else if c.toNat < 0x30 then escapeMarks
  else if c.toNat < 0x7F then ground
  else escape

/-- The state that a character leads to, and whether the character is shown. -/
def next (s : TerminalState) (c : Char) : TerminalState × Bool :=
  if c = '\x1b' then (escape, false)
  else if c.toNat = 0x18 ∨ c.toNat = 0x1A then (ground, false)
  else if c.toNat < 0x20 then
    if s.obeysControls ∧ isAsciiBlank c then (ground, true)
    else if s = system ∧ c.toNat = 0x07 then (ground, false)
    else (s, false)
  else
    match s with
    | ground => (ground, c.toNat ≠ 0x7F)
    | escape => (afterEscape c, false)
    | escapeMarks => (if 0x30 ≤ c.toNat ∧ c.toNat < 0x7F then ground else s, false)
    | sequence => (if 0x40 ≤ c.toNat ∧ c.toNat < 0x7F then ground else s, false)
    | deviceHead => (if 0x40 ≤ c.toNat ∧ c.toNat < 0x7F then device else s, false)
    | device => (if hasStringEnd c then ground else s, false)
    | system => (s, false)

end TerminalState

/-- What is shown of a text, from a state on. -/
def shownFrom (s : TerminalState) : Text → Text
  | [] => []
  | c :: rest =>
    match s.next c with
    | (s, true) => c :: shownFrom s rest
    | (s, false) => shownFrom s rest

/-- A text without escape sequences and control characters. -/
def withoutEscapes (s : Text) : Text := shownFrom .ground s

example : withoutEscapes ("a\x1b[1mb\x1b]0;t\x07c" : String).toList = "abc".toList := by decide

end ScriptRunner.Text
