import ScriptRunner.Text.Search

/-!
# Styled text

Styles of terminal output, written as ANSI escape sequences: the codes of the style before the text
and a reset behind it. A reset inside the text is followed by the codes again, so that the style
holds to the end.
-/

namespace ScriptRunner.Text

/-- The colours in use. -/
inductive Colour where
  | red
  | green
  | yellow
  | blue
  | magenta
  | cyan
  deriving DecidableEq, Repr

/-- The code of a foreground colour. -/
def Colour.code : Colour → Text
  | .red => "31"
  | .green => "32"
  | .yellow => "33"
  | .blue => "34"
  | .magenta => "35"
  | .cyan => "36"

/-- How a text is to look. -/
structure Style where
  bold : Bool := false
  dimmed : Bool := false
  italic : Bool := false
  underlined : Bool := false
  colour : Option Colour := none
  deriving DecidableEq, Repr

/-- The style of a colour. -/
def Style.ofColour (c : Colour) : Style := { colour := some c }

/-- The style with bold letters. -/
def Style.inBold (s : Style) : Style := { s with bold := true }

/-- What begins an escape sequence. -/
def escapeStart : Text := ['\x1b', '[']

/-- The sequence that ends all styles. -/
def styleReset : Text := escapeStart ++ ['0', 'm']

/-- The codes of a style. -/
def Style.codes (s : Style) : List Text :=
  (if s.bold then [['1']] else []) ++ (if s.dimmed then [['2']] else [])
    ++ (if s.italic then [['3']] else []) ++ (if s.underlined then [['4']] else [])
    ++ (s.colour.map Colour.code).toList

/-- The sequence that starts a style. -/
def Style.start (s : Style) : Text := escapeStart ++ join [';'] s.codes ++ ['m']

/-- The text in a style, if styles are in use. -/
def paint (styled : Bool) (style : Style) (s : Text) : Text :=
  if styled then
    style.start ++ replaceAll styleReset (styleReset ++ style.start) s ++ styleReset
  else s

end ScriptRunner.Text
