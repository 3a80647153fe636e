import ScriptRunner.Script.Splitter

/-!
# The outline of a script

A second account of what the statements of a script are, in two passes over its lines. The first
keeps the lines of code, each with its number, its text without comments and the delimiter in force
on it (`codeLines`). The second cuts these into groups (`groups`): a group ends with the first line
that ends with its own delimiter while the group holds an even number of single quotes.

Each group is a statement, unless it has no body, and the lines behind the last group are the
remainder (`outline`). The reader of single lines is in `ScriptRunner.Script.Splitter`.
-/

namespace ScriptRunner.Script

open Text

/-- A line of code. -/
structure CodeLine where
  number : Nat
  /-- The line without the comments closed on it. -/
  text : Text
  /-- The delimiter in force. -/
  delimiter : Text
  deriving DecidableEq, Repr

/-- The lines of code among the given lines, the first of which has the given number. -/
def codeLines (mode : ScanMode) (delimiter : Text) (number : Nat) : List Text → List CodeLine
  | [] => []
  | line :: rest =>
    let text := stripComments line
    if isIgnorable line then codeLines mode delimiter (number + 1) rest
    else if contains blockOpen text then codeLines .inBlockComment delimiter (number + 1) rest
    else
      match mode with
      | .inBlockComment =>
        codeLines (if contains blockClose text then .normal else .inBlockComment) delimiter
          (number + 1) rest
      | .normal =>
        if isDirective text then
          codeLines .normal ((directiveToken? text).getD delimiter) (number + 1) rest
        else ⟨number, text, delimiter⟩ :: codeLines .normal delimiter (number + 1) rest

/-- Whether a line ends the group that consists of `before` and itself. -/
def CodeLine.closes (before : List CodeLine) (line : CodeLine) : Bool :=
  ((before ++ [line]).flatMap CodeLine.text).count '\'' % 2 == 0
    && endsWith line.delimiter (trimEnd line.text)

/-- The groups that the lines form behind `before`, which has begun a group, and the lines that no
group holds. -/
def groups (before : List CodeLine) : List CodeLine → List (List CodeLine) × List CodeLine
  | [] => ([], before)
  | line :: rest =>
    if line.closes before then
      let more := groups [] rest
      ((before ++ [line]) :: more.1, more.2)
    else groups (before ++ [line]) rest

namespace CodeLine

/-- The text of some lines of code. -/
def joined (group : List CodeLine) : Text := group.flatMap fun line => line.text ++ ['\n']

/-- The number of the first line that is not blank. -/
def firstNumber (group : List CodeLine) : Nat :=
  ((group.find? fun line => !isBlank line.text).map CodeLine.number).getD 0

/-- The text that a delimiter closes, without the delimiters that are no part of a statement. -/
def withoutDelimiter (delimiter : Text) (s : Text) : Text :=
  trim (if delimiter = defaultDelimiter then s else removeAll delimiter s)

/-- The statement that a group makes, if it has a body. -/
def statement? (group : List CodeLine) : Option Statement :=
  let delimiter := (group.getLast?.map CodeLine.delimiter).getD defaultDelimiter
  let sql := withoutDelimiter delimiter (joined group)
  if isBlank (dropEnd ';' sql) then none else some ⟨sql, firstNumber group⟩

/-- The text of lines that no group holds. -/
def remainder? (rest : List CodeLine) : Option Statement :=
  if isBlank (joined rest) then none else some ⟨trim (joined rest), firstNumber rest⟩

end CodeLine

/-- The statements of some lines, and the text behind them that is none. -/
def outline (lines : List Text) : List Statement × Option Statement :=
  let parts := groups [] (codeLines .normal defaultDelimiter 1 lines)
  (parts.1.filterMap CodeLine.statement?, CodeLine.remainder? parts.2)

end ScriptRunner.Script
