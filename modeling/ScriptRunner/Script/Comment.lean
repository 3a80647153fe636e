import ScriptRunner.Text.Blank
import ScriptRunner.Text.Search

/-!
# Comments of a script line

A line is ignored when it is blank or begins, at its very first character, with `#` or `--`.
A block comment stands between `/*` and the first `*/` behind it. `stripComments` removes the
block comments that are closed on the line, from left to right; an opener without a closer stays,
together with all that follows it, and is how a comment over several lines is noticed.
-/

namespace ScriptRunner.Script

open Text

/-- The mark that opens a block comment. -/
def blockOpen : Text := ['/', '*']

/-- The mark that closes a block comment. -/
def blockClose : Text := ['*', '/']

/-- A line that never adds to a statement. White space before `#` or `--` makes it code. -/
def isIgnorable (line : Text) : Bool :=
  isBlank line || startsWith ['#'] line || startsWith ['-', '-'] line

/-- The line without the block comments that are closed on it. -/
def stripComments (line : Text) : Text :=
  match h : cut blockOpen line with
  | none => line
  | some (before, body) =>
    match h' : cut blockClose body with
    | none => line
    | some (_, after) =>
      have : after.length < line.length :=
        Nat.lt_trans (length_lt_of_cut (by decide) h') (length_lt_of_cut (by decide) h)
      before ++ stripComments after
termination_by line.length

end ScriptRunner.Script
