import ScriptRunner.Text.Blank

/-!
# The `DELIMITER` directive

A directive is a line of the form

    [space, tab, CR, LF]*  DELIMITER  [space, tab]+  token

where the keyword is written in any mix of upper and lower case. The token is what remains, without
white space at its ends; a directive whose token is empty names no delimiter.
-/

namespace ScriptRunner.Script

open Text

/-- The keyword that changes the delimiter. -/
def keyword : Text := "DELIMITER".toList

/-- White space that may stand before the keyword. -/
def isLeadingBlank (c : Char) : Bool := c == ' ' || c == '\t' || c == '\r' || c == '\n'

/-- White space that separates the keyword from its token. -/
def isGap (c : Char) : Bool := c == ' ' || c == '\t'

/-- The text behind the keyword and the gap after it, if the line is a directive. Letters outside
ASCII have no other case here, so none of them can stand for a letter of the keyword. -/
def directiveRest? (line : Text) : Option Text :=
  let line := line.dropWhile isLeadingBlank
  if (line.take keyword.length).map Char.toUpper = keyword then
    match line.drop keyword.length with
    | [] => none
    | c :: rest => if isGap c then some (rest.dropWhile isGap) else none
  else none

/-- Whether the line is a directive, with or without a token. -/
def isDirective (line : Text) : Bool := (directiveRest? line).isSome

/-- The delimiter that a directive names. -/
def directiveToken? (line : Text) : Option Text :=
  match directiveRest? line with
  | none => none
  | some rest => if isBlank rest then none else some (trim rest)

end ScriptRunner.Script
