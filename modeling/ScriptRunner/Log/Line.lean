import ScriptRunner.Log.Entry
import ScriptRunner.Text.Markup
import ScriptRunner.Text.Quoted

/-!
# Log lines

A log line shows the time, the level, the message and the fields of an entry.
-/

namespace ScriptRunner.Log

open Text

/-- The name of a level, filled up with blanks in front to the width of the longest one. -/
def Level.label : Level → Text
  | .error => "ERROR"
  | .warn => " WARN"
  | .info => " INFO"
  | .debug => "DEBUG"
  | .trace => "TRACE"

/-- The colour of a level. -/
def Level.colour : Level → Colour
  | .error => .red
  | .warn => .yellow
  | .info => .green
  | .debug => .blue
  | .trace => .magenta

/-- The written form of a value. -/
def Value.toText : Value → Text
  | .number n => Text.ofNat n
  | .plain text => text
  | .quoted text => Text.quoted text

/-- A field with a blank in front. -/
def fieldMarkup (name : Text) (value : Value) : Markup :=
  plain [' '] ++ inStyle { italic := true } name
    ++ inStyle { dimmed := true } ['='] ++ plain value.toText

/-- The line of an entry at a time. -/
def Entry.line (time : Text) (entry : Entry) : Markup :=
  inStyle { dimmed := true } time ++ plain [' ']
    ++ inStyle (.ofColour entry.level.colour) entry.level.label
    ++ plain (' ' :: entry.message)
    ++ entry.fields.flatMap (fun field => fieldMarkup field.1 field.2) ++ plain ['\n']

end ScriptRunner.Log
