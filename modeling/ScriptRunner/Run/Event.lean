import ScriptRunner.Run.Connector

/-!
# What happens in a run

A run keeps a journal of events. Its log is a view of the journal: some events have an entry, and
others, such as opening a session, have none.
-/

namespace ScriptRunner

open Text Script

/-- The phases of a run. -/
inductive Phase where
  | uninitialized
  /-- A script was found. -/
  | located
  /-- A session is open. -/
  | running
  | done
  | aborted
  deriving DecidableEq, Repr

/-- The name of a phase. -/
def Phase.name : Phase → Text
  | .uninitialized => "Uninitialized"
  | .located => "Located"
  | .running => "Running"
  | .done => "Done"
  | .aborted => "Aborted"

/-- Something that happens in a run. -/
inductive Event where
  | walkStarted (root : Path) (extension : Text)
  | phaseChanged (before after : Phase)
  /-- A session was asked for, and opened unless there is an error. -/
  | connected (error : Option DatabaseError)
  | scriptStarted (path : Path)
  | executing (statement : Statement)
  /-- The statement was executed, with success unless there is an error. -/
  | executed (statement : Statement) (error : Option DatabaseError)
  | noticed (notice : Notice)
  /-- What a session reported. -/
  | noted (entry : Log.Entry)
  | unterminated (script : Path) (line : Nat)
  /-- The session was closed. -/
  | closed (error : Option DatabaseError)
  | finished (files statements : Nat)
  /-- The output did not take all of a progress line, with what the operating system says. -/
  | progressLost (error : Text)
  /-- The output did not take all of another text. -/
  | outputLost (error : Text)
  deriving DecidableEq, Repr

namespace Event

/-- The part of the program that reports a run. -/
def runTarget : Text := "sqlapply::driver"

/-- The part of the program that reports statements. -/
def statementTarget : Text := "sqlapply::executor"

/-- The part of the program that reports walks. -/
def walkTarget : Text := "sqlapply::locator"

/-- The log entry of an event. -/
def logged? : Event → Option Log.Entry
  | walkStarted root extension =>
    some
      { level := .debug
        target := walkTarget
        message := "walking script tree"
        fields := [("root", .plain root.display), ("extension", .plain extension)] }
  | phaseChanged before after =>
    some
      { level := .debug
        target := runTarget
        message := "run state"
        fields := [("from", .plain before.name), ("to", .plain after.name)] }
  | connected _ => none
  | scriptStarted path =>
    some
      { level := .info
        target := runTarget
        message := "applying script"
        fields := [("script", .plain path.display)] }
  | executing statement =>
    some
      { level := .debug
        target := statementTarget
        message := "executing statement"
        fields := [("line", .number statement.line), ("sql", .plain statement.sql)] }
  | executed _ _ => none
  | noticed notice => some (Log.Entry.ofNotice notice)
  | noted entry => some entry
  | unterminated script line =>
    some
      { level := .warn
        target := runTarget
        message := "unterminated statement at end of script was not executed"
        fields := [("script", .plain script.display), ("line", .number line)] }
  | closed none => none
  | closed (some error) =>
    some
      { level := .warn
        target := runTarget
        message := "failed to close connection"
        fields := [("error", .plain error.message)] }
  | finished files statements =>
    some
      { level := .info
        target := runTarget
        message := "all scripts applied"
        fields := [("files", .number files), ("statements", .number statements)] }
  | progressLost error =>
    some
      { level := .debug
        target := statementTarget
        message := "progress output failed"
        fields := [("error", .plain error)] }
  | outputLost error =>
    some
      { level := .debug
        target := runTarget
        message := "operator output failed"
        fields := [("error", .plain error)] }

end Event

/-- The log of a journal. -/
def logOf (journal : List Event) : List Log.Entry := journal.filterMap Event.logged?

end ScriptRunner
