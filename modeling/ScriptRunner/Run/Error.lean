import ScriptRunner.Locator.Root
import ScriptRunner.Run.Connector

/-!
# How a run can fail
-/

namespace ScriptRunner

open Text

/-- A statement that could not be executed, and what the database says about it. -/
structure StatementFailure where
  statement : Text
  message : Text
  deriving DecidableEq, Repr

/-- The wording of a failure. -/
def StatementFailure.report (failure : StatementFailure) : Text :=
  "statement failed: " ++ failure.message

/-- Why a run stopped. -/
inductive RunError where
  | locate (error : LocateError)
  | noScripts (root : Path) (extension : Text)
  | readScript (path : Path) (error : FileError)
  | connect (error : DatabaseError)
  | statement (script : Path) (line : Nat) (failure : StatementFailure)
  deriving DecidableEq, Repr

namespace RunError

/-- The wording of an error. -/
def message : RunError → Text
  | locate error => error.message
  | noScripts root extension =>
    "no *." ++ extension ++ " scripts found under " ++ root.display
  | readScript path error =>
    "failed to read script " ++ path.display ++ ": " ++ error.message
  | connect error => "failed to connect to database: " ++ error.message
  | statement script line failure =>
    script.display ++ " (line " ++ Text.ofNat line ++ "): " ++ failure.report

/-- The wording of what lies behind an error, nearest cause first. -/
def causes : RunError → List Text
  | locate (.directoryNotFound _) => []
  | locate (.discoveryFailed _ (.root error)) => [error.message]
  | locate (.discoveryFailed _ (.entry path error)) =>
    [(ListingCause.entry path error).message, error.message]
  | noScripts _ _ => []
  | readScript _ error => [error.message]
  | connect error => error.message :: error.causes
  | statement _ _ failure => [failure.report]

end RunError

end ScriptRunner
