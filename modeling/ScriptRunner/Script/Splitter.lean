import ScriptRunner.Script.Comment
import ScriptRunner.Script.Directive

/-!
# Splitting a script into statements

A `Splitter` reads a script line by line. Each line has one of the kinds of `LineKind`; only a line
of code adds to the pending text. A statement ends with a line of code whose stripped text, without
trailing white space, ends with the delimiter in force, provided that the pending text then holds an
even number of single quotes. Its text is the pending text, without any occurrence of the delimiter
if that is not the default one, trimmed; a text that consists of delimiters and white space is
dropped. The line of a statement is the one that made the pending text other than blank.
-/

namespace ScriptRunner.Script

open Text

/-- The delimiter at the start of every script. -/
def defaultDelimiter : Text := [';']

/-- Whether the reader is inside a block comment that spans lines. -/
inductive ScanMode where
  | normal
  | inBlockComment
  deriving DecidableEq, Repr

/-- Parity of the single quotes in the pending text. -/
inductive Parity where
  | even
  | odd
  deriving DecidableEq, Repr

namespace Parity

/-- The parity after one more quote. -/
def flip : Parity → Parity
  | even => odd
  | odd => even

/-- The parity after the quotes of a text. -/
def after (p : Parity) (s : Text) : Parity :=
  s.foldl (fun q c => if c = '\'' then q.flip else q) p

end Parity

/-- A statement, or the text at the end of a script that is none, and the line it starts on. -/
structure Statement where
  sql : Text
  line : Nat
  deriving DecidableEq, Repr

/-- What a line is to the reader. -/
inductive LineKind where
  /-- A blank line or a line comment. -/
  | ignorable
  /-- A line with a block comment that is not closed on it. -/
  | opensComment
  /-- A line inside a block comment. -/
  | insideComment
  /-- The line that ends a block comment. -/
  | closesComment
  /-- A directive, with the delimiter it names. -/
  | directive (token : Option Text)
  /-- Code, without the comments closed on the line. -/
  | code (text : Text)
  deriving DecidableEq, Repr

/-- The kind of a line read in a mode. -/
def LineKind.of (mode : ScanMode) (line : Text) : LineKind :=
  let text := stripComments line
  if isIgnorable line then .ignorable
  else if contains blockOpen text then .opensComment
  else if mode = .inBlockComment then
    if contains blockClose text then .closesComment else .insideComment
  else if isDirective text then .directive (directiveToken? text)
  else .code text

/-- What is noticed about a directive. -/
inductive Notice where
  /-- The directive on this line names no delimiter and has no effect. -/
  | missingToken (line : Nat)
  /-- The directive on this line changes the delimiter. -/
  | delimiterChanged (line : Nat) (token : Text)
  deriving DecidableEq, Repr

/-- The reader of one script. -/
structure Splitter where
  delimiter : Text := defaultDelimiter
  mode : ScanMode := .normal
  quotes : Parity := .even
  /-- The lines of code since the last statement, each followed by a line feed. -/
  pending : Text := []
  /-- The line on which the pending text became other than blank. -/
  pendingLine : Nat := 0
  /-- How many lines have been read. -/
  lineNumber : Nat := 0
  deriving DecidableEq, Repr

/-- What reading one line gives. -/
structure Step where
  splitter : Splitter
  statement : Option Statement := none
  notice : Option Notice := none
  deriving DecidableEq, Repr

namespace Splitter

/-- The text of a statement closed under `delimiter`, or nothing if it has no body. -/
def body? (delimiter pending : Text) : Option Text :=
  let sql := trim (if delimiter = defaultDelimiter then pending else removeAll delimiter pending)
  if isBlank (dropEnd ';' sql) then none else some sql

/-- Close the pending text. -/
def close (s : Splitter) : Step where
  splitter := { s with pending := [], quotes := .even }
  statement := (body? s.delimiter s.pending).map (⟨·, s.pendingLine⟩)

/-- Read a line of code. -/
def pushCode (s : Splitter) (text : Text) : Step :=
  let s :=
    { s with
      pendingLine := if isBlank s.pending then s.lineNumber else s.pendingLine
      pending := s.pending ++ text ++ ['\n']
      quotes := s.quotes.after text }
  if s.quotes = .even ∧ endsWith s.delimiter (trimEnd text) then s.close else { splitter := s }

/-- Read the next line. -/
def push (s : Splitter) (line : Text) : Step :=
  let s := { s with lineNumber := s.lineNumber + 1 }
  match LineKind.of s.mode line with
  | .ignorable => { splitter := s }
  | .opensComment => { splitter := { s with mode := .inBlockComment } }
  | .insideComment => { splitter := s }
  | .closesComment => { splitter := { s with mode := .normal } }
  | .directive none => { splitter := s, notice := some (.missingToken s.lineNumber) }
  | .directive (some token) =>
    { splitter := { s with delimiter := token }
      notice := some (.delimiterChanged s.lineNumber token) }
  | .code text => s.pushCode text

/-- At the end of a script, the pending text that no delimiter closed. -/
def remainder (s : Splitter) : Option Statement :=
  if isBlank s.pending then none else some ⟨trim s.pending, s.pendingLine⟩

end Splitter

end ScriptRunner.Script
