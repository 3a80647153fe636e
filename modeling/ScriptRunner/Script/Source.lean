import ScriptRunner.Script.Splitter

/-!
# A script as a stream of statements

A script is cut into lines at line feeds, and a carriage return right before a line feed belongs to
the line end. `Stream` holds the lines that were not read yet, so that a run can stop after any
statement without looking at the rest.
-/

namespace ScriptRunner.Script

open Text

/-- The lines of a text. The last one needs no line feed. -/
def lines : Text → List Text
  | [] => []
  | '\r' :: '\n' :: rest => [] :: lines rest
  | c :: rest =>
    if c = '\n' then [] :: lines rest
    else
      match lines rest with
      | [] => [[c]]
      | line :: more => (c :: line) :: more

/-- A text without the byte order mark it may begin with. -/
def dropByteOrderMark : Text → Text
  | [] => []
  | c :: rest => if c = '\uFEFF' then rest else c :: rest

/-- The part of a script that is still to be read. -/
structure Stream where
  splitter : Splitter := {}
  lines : List Text
  deriving DecidableEq, Repr

/-- What was read from a stream, and where reading stopped. -/
structure Reading where
  statements : List Statement := []
  notices : List Notice := []
  stream : Stream
  deriving DecidableEq, Repr

namespace Stream

/-- The stream of a whole script. -/
def ofScript (script : Text) : Stream := { lines := Script.lines (dropByteOrderMark script) }

/-- Read at most `count` statements. Lines behind the last statement taken are not read. -/
def take (count : Nat) (splitter : Splitter) : List Text → Reading
  | [] => { stream := ⟨splitter, []⟩ }
  | line :: rest =>
    match count with
    | 0 => { stream := ⟨splitter, line :: rest⟩ }
    | n + 1 =>
      let step := splitter.push line
      let more := take (if step.statement.isSome then n else n + 1) step.splitter rest
      { more with
        statements := step.statement.toList ++ more.statements
        notices := step.notice.toList ++ more.notices }

end Stream

/-- The statements of a script, in order, and the text at its end that is none. -/
structure Splitting where
  statements : List Statement
  remainder : Option Statement
  notices : List Notice
  deriving DecidableEq, Repr

/-- Read at most `count` statements of a script and then end it. -/
def splitTake (count : Nat) (script : Text) : Splitting :=
  let stream := Stream.ofScript script
  let reading := Stream.take count stream.splitter stream.lines
  ⟨reading.statements, reading.stream.splitter.remainder, reading.notices⟩

/-- Split a whole script. Each statement takes a line, so there are no more of them than lines. -/
def split (script : Text) : Splitting :=
  splitTake ((lines (dropByteOrderMark script)).length + 1) script

end ScriptRunner.Script
