import ScriptRunner.Text.Basic

/-!
# Character classes given by runs

A class of characters is given by the lengths of the runs of code points outside and inside it, in
turn, starting with code point zero. What lies behind the last run is outside.
-/

namespace ScriptRunner.Text

/-- Whether the code point `n` lies in the class with the given runs. -/
def inRuns (n : Nat) : List Nat → Bool
  | outside :: inside :: rest =>
    if n < outside then false
    else if n < outside + inside then true
    else inRuns (n - (outside + inside)) rest
  | _ => false

end ScriptRunner.Text
