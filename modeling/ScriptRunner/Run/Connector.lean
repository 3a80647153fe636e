import ScriptRunner.FileTree.Basic
import ScriptRunner.Log.Entry
import ScriptRunner.Text.Style

/-!
# Connectors

A connector opens a session with something that executes statements, such as a database. `Connector
σ` is given by what it does to a state of type `σ`, which holds all that the connector and the open
session remember. One session is open at a time, and the state lives on from one run to the next.

Executing a statement may remove files. It cannot create any.
-/

namespace ScriptRunner

open Text Script

/-- What can go wrong between a run and a database. -/
inductive DatabaseError where
  | protocol (message : Text)
  /-- An error that the database itself reports, with the code it gives. -/
  | database (message : Text) (code : Option Text)
  | rowNotFound
  | workerCrashed
  | configuration (message : Text)
  | unreachable (message : Text)
  deriving DecidableEq, Repr

namespace DatabaseError

/-- The wording of an error. -/
def message : DatabaseError → Text
  | protocol m => "encountered unexpected or invalid data: " ++ m
  | database m _ => "error returned from database: " ++ m
  | rowNotFound => "no rows returned by a query that expected to return at least one row"
  | workerCrashed => "attempted to communicate with a crashed background worker"
  | configuration m => "error with configuration: " ++ m
  | unreachable m => "error communicating with database: " ++ m

/-- The wording of what lies behind an error. -/
def causes : DatabaseError → List Text
  | database m _ => [m]
  | configuration m => [m]
  | unreachable m => [m]
  | _ => []

/-- The message of a failed statement: for an error that the database reports, its own words. -/
def failureMessage : DatabaseError → Text
  | database m none => m
  | database m (some code) => m ++ " (" ++ code ++ ")"
  | e => e.message

end DatabaseError

/-- What executing a statement brings about. -/
structure Reply where
  error : Option DatabaseError := none
  /-- The paths that the statement removes. -/
  removes : List Path := []
  /-- What the session itself reports. -/
  notes : List Log.Entry := []

/-- A way to open sessions and to execute statements in them. -/
structure Connector (σ : Type) where
  /-- The target, in words that are safe to print. -/
  target : Text
  /-- Open a session. -/
  connect : σ → σ × Except DatabaseError (List Log.Entry)
  /-- Execute a statement in the open session. -/
  execute : Text → σ → σ × Reply
  /-- Close the session. -/
  close : σ → σ × Option DatabaseError
  /-- What is shown for a statement that was just executed, in place of the plain marker. -/
  progressLine : Statement → σ → Option Text := fun _ _ => none

/-- The connector that executes nothing. It counts the statements of its session and shows each one
with its number. -/
def dryRun (coloured : Bool) : Connector Nat where
  target := "dry run (no database)"
  connect := fun _ => (0, .ok [])
  execute := fun _ count => (count + 1, {})
  close := fun count => (count, none)
  progressLine := fun statement count =>
    some ("\n    " ++ paint coloured (.ofColour .cyan) (['['] ++ Text.ofNat count ++ [']']) ++ " "
      ++ statement.sql)

end ScriptRunner
