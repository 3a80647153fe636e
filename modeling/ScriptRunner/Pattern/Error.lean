import ScriptRunner.Pattern.Place
import ScriptRunner.Text.Search

/-!
# Pattern errors

What can be wrong with a pattern, how it is worded, and how the place is shown: below the line of the
pattern that it stands in, marks stand below the characters in question. Lines are numbered when
there are several of them.
-/

namespace ScriptRunner.Pattern

open Text

/-- What is wrong with a pattern. -/
inductive Fault where
  -- Sets
  | setUnclosed
  | setEscape
  | rangeReversed
  | rangeBound
  -- Escapes
  | escapeUnfinished
  | escapeUnknown
  | backreference
  | hexDigit
  | hexNumber
  | propertyName
  | boundaryUnclosed
  | boundaryOrCountUnclosed
  -- Groups
  | groupUnclosed
  | groupUnopened
  | nameUnclosed
  | nameEmpty
  | nameCharacter
  | nameRepeated
  | flagsUnclosed
  | flagUnknown
  | flagRepeated
  | negationRepeated
  | negationLast
  | lookAround
  -- Repetitions
  | nothingToRepeat
  | countUnclosed
  | countEmpty
  | countTooLarge
  -- Meaning
  | tooDeep
  | unicodeForbidden
  | invalidText
  | unknownProperty
  | unknownShorthand
  | caseUnknown
  deriving DecidableEq, Repr

/-- How deep groups, sets and the like may stand in each other. -/
def maxDepth : Nat := 250

/-- The wording of a fault. -/
def Fault.message : Fault → Text
  | setUnclosed => "unclosed character class"
  | setEscape => "invalid escape sequence found in character class"
  | rangeReversed => "invalid character class range, the start must be <= the end"
  | rangeBound => "invalid range boundary, must be a literal"
  | escapeUnfinished => "incomplete escape sequence, reached end of pattern prematurely"
  | escapeUnknown => "unrecognized escape sequence"
  | backreference => "backreferences are not supported"
  | hexDigit => "invalid hexadecimal digit"
  | hexNumber => "hexadecimal literal is not a Unicode scalar value"
  | propertyName => "invalid Unicode character class"
  | boundaryUnclosed =>
    "special word boundary assertion is either unclosed or contains an invalid character"
  | boundaryOrCountUnclosed =>
    "found either the beginning of a special word boundary or a bounded repetition on a \\b with "
      ++ "an opening brace, but no closing brace"
  | groupUnclosed => "unclosed group"
  | groupUnopened => "unopened group"
  | nameUnclosed => "unclosed capture group name"
  | nameEmpty => "empty capture group name"
  | nameCharacter => "invalid capture group character"
  | nameRepeated => "duplicate capture group name"
  | flagsUnclosed => "expected flag but got end of regex"
  | flagUnknown => "unrecognized flag"
  | flagRepeated => "duplicate flag"
  | negationRepeated => "flag negation operator repeated"
  | negationLast => "dangling flag negation operator"
  | lookAround => "look-around, including look-ahead and look-behind, is not supported"
  | nothingToRepeat => "repetition operator missing expression"
  | countUnclosed => "unclosed counted repetition"
  | countEmpty => "repetition quantifier expects a valid decimal"
  | countTooLarge => "decimal literal invalid"
  | tooDeep =>
    "exceed the maximum number of nested parentheses/brackets (" ++ Text.ofNat maxDepth ++ [')']
  | unicodeForbidden => "Unicode not allowed here"
  | invalidText => "pattern can match invalid UTF-8"
  | unknownProperty => "Unicode property not found"
  | unknownShorthand =>
    "Unicode-aware Perl class not found (make sure the unicode-perl feature is enabled)"
  | caseUnknown =>
    "Unicode-aware case insensitivity matching is not available (make sure the unicode-case "
      ++ "feature is enabled)"

/-- A fault and where it is, and perhaps what else it has to do with. -/
structure PatternError where
  fault : Fault
  extent : Extent
  other : Option Extent := none
  deriving DecidableEq, Repr

/-! ## The pattern with marks -/

/-- The lines of a pattern. A line end may have a carriage return, and what follows the last line
end is a line only if it is not empty. -/
def linesOf (pattern : Text) : List Text :=
  let pieces := splitOnChar '\n' pattern
  let ended := pieces.dropLast.map fun s => if s.getLast? = some '\r' then s.dropLast else s
  ended ++ pieces.getLast?.toList.filter (· ≠ [])

/-- Marks below the extents in a line, in their order, from a column on. -/
def marksFrom (column : Nat) : List Extent → Text
  | [] => []
  | e :: rest =>
    let indent := e.start.column - 1 - column
    let width := max 1 (e.stop.column - e.start.column)
    List.replicate indent ' ' ++ List.replicate width '^'
      ++ marksFrom (column + indent + width) rest

namespace PatternError

/-- The extents of an error, in the order of the pattern. -/
def extents (e : PatternError) : List Extent :=
  match e.other with
  | none => [e.extent]
  | some other =>
    if other.start.offset ≤ e.extent.start.offset then [other, e.extent] else [e.extent, other]

/-- The lines of the pattern, with marks below them. -/
def marked (e : PatternError) (pattern : Text) : Text :=
  let lines := linesOf pattern
  let count := lines.length + if pattern.getLast? = some '\n' then 1 else 0
  let width := if 1 < count then (Text.ofNat count).length else 0
  (lines.zipIdx 1).flatMap fun (line, n) =>
    let number := Text.ofNat n
    let label : Text :=
      if width = 0 then List.replicate 4 ' '
      else List.replicate (width - number.length) ' ' ++ number ++ [':', ' ']
    let here := e.extents.filter fun x => x.isInLine && x.start.line == n
    label ++ line ++ ['\n']
      ++ if here = [] then [] else List.replicate label.length ' ' ++ marksFrom 0 here ++ ['\n']

/-- A note about an extent that runs over several lines. -/
def note (e : Extent) : Text :=
  "on line " ++ Text.ofNat e.start.line ++ " (column " ++ Text.ofNat e.start.column
    ++ ") through line " ++ Text.ofNat e.stop.line ++ " (column "
    ++ Text.ofNat (e.stop.column - 1) ++ [')']

/-- All that is told about an error in a pattern. -/
def report (e : PatternError) (pattern : Text) : Text :=
  let divider : Text := List.replicate 79 '~' ++ ['\n']
  let notes := (e.extents.filter (!·.isInLine)).map note
  let shown :=
    if '\n' ∈ pattern then
      divider ++ e.marked pattern ++ divider
        ++ if notes = [] then [] else join ['\n'] notes ++ ['\n']
    else e.marked pattern
  "regex parse error:\n" ++ shown ++ "error: " ++ e.fault.message

end PatternError

end ScriptRunner.Pattern
