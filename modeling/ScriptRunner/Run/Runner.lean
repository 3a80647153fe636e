import ScriptRunner.FileTree.Edit
import ScriptRunner.Run.Error
import ScriptRunner.Run.Event
import ScriptRunner.Run.Output
import ScriptRunner.Script.Source

/-!
# Running the scripts of a tree

A run locates the scripts, opens a session once there is a first one, and applies one script after
another, statement by statement. It stops at the first thing that fails; what was executed before
stays executed. The session is closed in every case. A run ends in the phase `done` if it succeeds
and in `aborted` if it does not.

Operator output never decides anything: an output that takes no more is noted in the journal and
the run goes on.
-/

namespace ScriptRunner

open Text Script

/-- What a run is to do. -/
structure Runner (σ : Type) where
  locator : Locator
  connector : Connector σ
  /-- Whether a marker is shown for each statement. -/
  progress : Bool := true
  /-- Whether operator output is coloured. -/
  coloured : Bool := false

/-- What a run reads and changes. -/
structure RunState (σ : Type) where
  tree : FileTree
  session : σ
  output : Output := {}
  phase : Phase := .uninitialized
  journal : List Event := []

/-- The totals of a run. -/
structure Summary where
  files : Nat := 0
  statements : Nat := 0
  /-- Scripts whose last text no delimiter closed. -/
  unterminated : Nat := 0
  deriving DecidableEq, Repr

variable {σ : Type}

namespace RunState

/-- Add an event to the journal. -/
def record (s : RunState σ) (event : Event) : RunState σ :=
  { s with journal := s.journal ++ [event] }

/-- Add events to the journal. -/
def recordAll (s : RunState σ) (events : List Event) : RunState σ :=
  { s with journal := s.journal ++ events }

/-- Go over to another phase. -/
def enter (s : RunState σ) (phase : Phase) : RunState σ :=
  { s.record (.phaseChanged s.phase phase) with phase := phase }

/-- Write a text to the output. If the write fails, `lost` is recorded with the error. -/
def write (s : RunState σ) (lost : Text → Event) (text : Text) : RunState σ :=
  let written := s.output.write (encode text)
  let s := { s with output := written.1 }
  match written.2 with
  | none => s
  | some error => s.record (lost error)

/-- Tell the operator something. -/
def emit (s : RunState σ) (text : Text) : RunState σ := s.write .outputLost text

/-- Tell the operator something on a line of its own. -/
def say (s : RunState σ) (line : Text) : RunState σ := s.emit (line ++ ['\n'])

end RunState

namespace Runner

/-- What is shown for a statement that was executed. -/
def progressMarker : Text := ['.']

/-- A text in one of the colours of the operator output. -/
def paint (runner : Runner σ) (colour : Colour) (text : Text) : Text :=
  Text.paint runner.coloured (.ofColour colour) text

/-- The arrow in front of an announcement. -/
def arrow (runner : Runner σ) : Text := runner.paint .cyan "→"

/-- Remove the paths that a statement removes. A path that is not there is passed over. -/
def removePaths (tree : FileTree) (paths : List Path) : FileTree :=
  paths.foldl (fun tree path => (tree.remove path).toOption.getD tree) tree

/-- Execute a statement and show its progress. The failure is returned if there is one. -/
def applyStatement (runner : Runner σ) (statement : Statement) (s : RunState σ) :
    Option StatementFailure × RunState σ :=
  let s := s.record (.executing statement)
  let (session, reply) := runner.connector.execute statement.sql s.session
  let s := { s with session := session, tree := removePaths s.tree reply.removes }
  let s := s.recordAll (reply.notes.map .noted ++ [.executed statement reply.error])
  match reply.error with
  | some error => (some ⟨statement.sql, error.failureMessage⟩, s)
  | none =>
    if runner.progress then
      (none, s.write .progressLost
        ((runner.connector.progressLine statement s.session).getD progressMarker))
    else (none, s)

/-- Read the lines of a script and execute its statements. Returned are the splitter at the end of
the script and the number of statements executed. -/
def applyLines (runner : Runner σ) (script : ScriptFile) (splitter : Splitter) (count : Nat) :
    List Text → RunState σ → Except RunError (Splitter × Nat) × RunState σ
  | [], s => (.ok (splitter, count), s)
  | line :: rest, s =>
    let step := splitter.push line
    let s := s.recordAll (step.notice.toList.map .noticed)
    match step.statement with
    | none => applyLines runner script step.splitter count rest s
    | some statement =>
      match runner.applyStatement statement s with
      | (none, s) => applyLines runner script step.splitter (count + 1) rest s
      | (some failure, s) =>
        (.error (.statement script.path statement.line failure),
         s.say (' ' :: runner.paint .red "✗"))

/-- Apply one script. -/
def applyScript (runner : Runner σ) (script : ScriptFile) (summary : Summary) (s : RunState σ) :
    Except RunError Summary × RunState σ :=
  let s := s.record (.scriptStarted script.path)
  match s.tree.readText script.path with
  | .error error => (.error (.readScript script.path error), s)
  | .ok content =>
    let s := s.emit ("  " ++ runner.arrow ++ " " ++ Path.display script.name ++ " ")
    let stream := Stream.ofScript content
    match applyLines runner script stream.splitter 0 stream.lines s with
    | (.error error, s) => (.error error, s)
    | (.ok (splitter, count), s) =>
      let rest := splitter.remainder
      let s := s.recordAll (rest.toList.map fun r => .unterminated script.path r.line)
      let s := s.say (' ' :: runner.paint .green "✓")
      (.ok
        { files := summary.files + 1
          statements := summary.statements + count
          unterminated := summary.unterminated + rest.toList.length }, s)

/-- Apply an item of the walk and then those behind it, of which there are at most `budget`. -/
def applyItems (runner : Runner σ) (summary : Summary) (item : Item) (walk : Walk) (budget : Nat)
    (s : RunState σ) : Except RunError Summary × RunState σ :=
  match item with
  | .error error => (.error (.locate error), s)
  | .ok script =>
    match runner.applyScript script summary s with
    | (.error error, s) => (.error error, s)
    | (.ok summary, s) =>
      let finish :=
        (Except.ok summary, s.record (.finished summary.files summary.statements))
      match budget with
      | 0 => finish
      | budget + 1 =>
        match walk.next s.tree runner.locator.extension with
        | (none, _) => finish
        | (some item, walk) => applyItems runner summary item walk budget s

/-- Close the session, whatever came of the run. -/
def release (runner : Runner σ) (s : RunState σ) : RunState σ :=
  let (session, error) := runner.connector.close s.session
  let s := ({ s with session := session } : RunState σ).record (.closed error)
  match error with
  | none => s
  | some error =>
    s.say (runner.paint .yellow "!" ++ " failed to close connection: " ++ error.message)

/-- Open a session, apply the items and close the session. -/
def applyInSession (runner : Runner σ) (first : Item) (walk : Walk) (budget : Nat)
    (s : RunState σ) : Except RunError Summary × RunState σ :=
  match runner.connector.connect s.session with
  | (session, .error error) =>
    (.error (.connect error), ({ s with session := session } : RunState σ).record
      (.connected (some error)))
  | (session, .ok notes) =>
    let s := ({ s with session := session } : RunState σ).recordAll
      (.connected none :: notes.map .noted)
    let (result, s) := runner.applyItems {} first walk budget (s.enter .running)
    (result, runner.release s)

/-- Locate the scripts, and apply them if there are any. -/
def locateAndApply (runner : Runner σ) (s : RunState σ) :
    Except RunError Summary × RunState σ :=
  let s := s.say (runner.arrow ++ " Loading scripts from "
    ++ runner.paint .yellow runner.locator.root.display)
  match runner.locator.resolveRoot s.tree with
  | .error error => (.error (.locate error), s)
  | .ok root =>
    let extension := runner.locator.extension
    let s := s.record (.walkStarted root extension)
    let walk := Walk.unopened root
    match walk.next s.tree extension with
    | (none, _) => (.error (.noScripts runner.locator.root extension), s)
    | (some (.error error), _) => (.error (.locate error), s)
    | (some (.ok first), rest) =>
      let s := (s.enter .located).say (runner.arrow ++ " Running scripts on "
        ++ runner.paint .yellow runner.connector.target)
      runner.applyInSession (.ok first) rest (walk.budget s.tree extension) s

/-- Run once. -/
def run (runner : Runner σ) (s : RunState σ) : Except RunError Summary × RunState σ :=
  let (result, s) := runner.locateAndApply s
  (result, s.enter (if result.isOk then .done else .aborted))

end Runner

end ScriptRunner
