import ScriptRunner.CommandLine.Help
import ScriptRunner.CommandLine.Reader
import ScriptRunner.Log.Filter
import ScriptRunner.Log.Line
import ScriptRunner.Run.Database
import ScriptRunner.Run.Runner
import ScriptRunner.Settings

/-!
# The program

From a command line, an environment and a tree of files to what the program prints and the code it
ends with. Operator output goes to standard output; log lines and errors go to standard error. What
databases answer is a parameter (`Invocation.runWith`).
-/

namespace ScriptRunner

open Text CommandLine

/-- The variables of an environment. -/
abbrev Environment := List (Text × Text)

namespace Environment

/-- The log filter that is set. -/
def logLevel (e : Environment) : Option Text := e.lookup "SQLAPPLY_LOG".toList

/-- Whether colours are turned off. -/
def forbidsColour (e : Environment) : Bool := (e.lookup "NO_COLOR".toList).any (· ≠ [])

/-- Whether colours are turned on although the output is no terminal. -/
def forcesColour (e : Environment) : Bool := (e.lookup "CLICOLOR_FORCE".toList).any (· ≠ ['0'])

/-- The directory for configuration files: the one that is set, if it is set absolutely, or else the
usual one in the home directory. -/
def configurationDirectory (e : Environment) : Option Path :=
  match ((e.lookup "XDG_CONFIG_HOME".toList).map encode).filter Path.isAbsolute with
  | some path => some path
  | none =>
    ((e.lookup "HOME".toList).filter (· ≠ [])).map fun home =>
      Path.child (encode home) (encode ".config")

end Environment

/-- What a program leaves behind. -/
structure Transcript where
  exitCode : Nat := 0
  output : Text := []
  errors : Text := []
  deriving DecidableEq, Repr

/-- Why a run did not succeed. -/
inductive Failure where
  | settings (error : SettingsError)
  | filter (error : Log.FilterError)
  | run (error : RunError)
  deriving DecidableEq, Repr

namespace Failure

/-- The wording of a failure, and of what lies behind it. -/
def messages : Failure → List Text
  | settings error => "Failed to load configuration".toList :: error.message :: error.causes
  | filter error => error.message :: error.causes
  | run error => error.message :: error.causes

/-- What is told about a failure. For a statement, it is shown and the place of its script named. -/
def report (coloured : Bool) (failure : Failure) : Text :=
  let title := paint coloured (Style.ofColour .red).inBold "Error:"
  match failure with
  | run (.statement script line failure) =>
    ['\n'] ++ title ++ ['\n'] ++ failure.statement ++ ['\n'] ++ " failed with: "
      ++ paint coloured (.ofColour .red) failure.message
      ++ " (" ++ script.display ++ [':'] ++ Text.ofNat line ++ ")\n"
      ++ paint coloured (.ofColour .yellow)
        "Statements executed before this one remain applied; nothing was rolled back."
      ++ ['\n']
  | failure => title ++ [' '] ++ join ": " failure.messages ++ ['\n']

end Failure

/-- What is told about a run that succeeded. -/
def Summary.report (coloured planned : Bool) (summary : Summary) : Text :=
  let verb : Text := if planned then "planned" else "applied"
  let first :=
    paint coloured (Style.ofColour .green).inBold "✓" ++ " " ++ Text.ofNat summary.statements
      ++ " statement(s) from " ++ Text.ofNat summary.files ++ " script(s) " ++ verb ++ ['\n']
  let second :=
    paint coloured (.ofColour .yellow) "!" ++ " " ++ Text.ofNat summary.unterminated
      ++ " script(s) ended with text that had no delimiter; it was not executed\n"
  if 0 < summary.unterminated then first ++ second else first

/-- The log lines of a journal that a filter lets through. -/
def logLines (filter : Log.Filter) (styled : Bool) (time : Text) (journal : List Event) : Text :=
  ((logOf journal).filter filter.enables).flatMap fun entry => (entry.line time).write styled

/-- What a program is started with. -/
structure Invocation where
  words : List Text
  environment : Environment
  /-- The time that log lines show. -/
  time : Text

namespace Invocation

/-- The line that opens the operator output. -/
def opening (coloured : Bool) : Text :=
  paint coloured (Style.ofColour .cyan).inBold programName ++ [' '] ++ programVersion ++ ['\n']

/-- The line about a run that executes nothing. -/
def planNotice (coloured : Bool) : Text :=
  paint coloured { dimmed := true } "Dry run: nothing will be executed" ++ ['\n']

/-- Run the scripts through a connector, and tell what came of it. A run that is `planned` executes
nothing. -/
def apply {σ : Type} (i : Invocation) (filter : Log.Filter) (planned : Bool) (runner : Runner σ)
    (session : σ) (tree : FileTree) : Transcript :=
  let (result, s) := runner.run { tree := tree, session := session }
  let notice := if planned then planNotice runner.coloured else []
  let output := opening runner.coloured ++ notice ++ decodeLossy s.output.delivered
  let log := logLines filter (!i.environment.forbidsColour) i.time s.journal
  match result with
  | .ok summary =>
    { output := output ++ summary.report runner.coloured planned, errors := log }
  | .error error =>
    { exitCode := 1, output := output
      errors := log ++ (Failure.run error).report runner.coloured }

/-- The path at which a program looks for settings. -/
def settingsPath? (i : Invocation) : Option Path :=
  match request i.environment.logLevel i.words with
  | .run arguments =>
    (arguments.config.map encode).or (i.environment.configurationDirectory.map Settings.pathIn)
  | _ => none

/-- The path under which a program looks for scripts. -/
def scriptsPath? (i : Invocation) : Option Path :=
  match request i.environment.logLevel i.words with
  | .run arguments => some (encode arguments.directory)
  | _ => none

/-- Load the settings and run the scripts. -/
def start {σ : Type} (i : Invocation) (server : Server σ) (session : σ) (arguments : Arguments)
    (tree : FileTree) : Transcript :=
  let forced := i.environment.forcesColour
  let refuse (failure : Failure) : Transcript :=
    { exitCode := 1, errors := failure.report forced }
  match
    Settings.load tree (arguments.config.map encode) i.environment.configurationDirectory with
  | .error error => refuse (.settings error)
  | .ok settings =>
    let level := (arguments.logLevel.or settings.logLevel).getD Log.defaultSetting
    match Log.Filter.build level with
    | .error error => refuse (.filter error)
    | .ok filter =>
      let coloured := forced && !arguments.noColour && settings.coloured
      let locator : Locator :=
        Locator.withExtension { root := encode arguments.directory } settings.extension
      match if arguments.dryRun then none else arguments.database with
      | some url =>
        i.apply filter false
          { locator := locator, connector := server.database url, coloured := coloured }
          session tree
      | none =>
        i.apply filter true
          { locator := locator, connector := dryRun coloured, coloured := coloured } 0 tree

/-- Run the program where a server answers for databases. -/
def runWith {σ : Type} (i : Invocation) (server : Server σ) (session : σ) (tree : FileTree) :
    Transcript :=
  let level := i.environment.logLevel
  let styled := i.environment.forcesColour && !i.environment.forbidsColour
  match request level i.words with
  | .run arguments => i.start server session arguments tree
  | .help => { output := (help level).display styled }
  | .version => { output := versionLine }
  | .refused error => { exitCode := 2, errors := error.report.display styled }

/-- Run the program where there is no server. -/
def run (i : Invocation) (tree : FileTree) : Transcript := i.runWith Server.standIn () tree

end Invocation

end ScriptRunner
