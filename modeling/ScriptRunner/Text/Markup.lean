import ScriptRunner.Text.Escape
import ScriptRunner.Text.Style

/-!
# Texts in several styles

A marked-up text is a list of spans, each in one style. It is written with an escape sequence for
every code of a style, or plainly, without any.
-/

namespace ScriptRunner.Text

/-- A text in one style. -/
structure Span where
  style : Style
  text : Text
  deriving DecidableEq, Repr

/-- A text in several styles. -/
abbrev Markup := List Span

/-- The written form of a span. -/
def Span.write (styled : Bool) (s : Span) : Text :=
  if styled ∧ s.style.codes ≠ [] then
    s.style.codes.flatMap (fun code => escapeStart ++ code ++ ['m']) ++ s.text ++ styleReset
  else s.text

/-- A text in a style. -/
def inStyle (style : Style) (s : Text) : Markup := [⟨style, s⟩]

/-- A text without a style. -/
def plain (s : Text) : Markup := inStyle {} s

namespace Markup

/-- The written form of a marked-up text. -/
def write (styled : Bool) (m : Markup) : Text := m.flatMap (Span.write styled)

/-- The form of a marked-up text for an output that may have no escape sequences, also none that
parts of the text bring along. -/
def display (styled : Bool) (m : Markup) : Text :=
  if styled then m.write true else withoutEscapes (m.write true)

end Markup

end ScriptRunner.Text
