import ScriptRunner.Script.Splitter

/-!
# Log entries

An entry has a level, a target (the part of the program that reports), a message and named fields.
The target is not printed, but filters select entries by it.
-/

namespace ScriptRunner.Log

open Script

/-- How important an entry is, most important first. -/
inductive Level where
  | error
  | warn
  | info
  | debug
  | trace
  deriving DecidableEq, Repr

/-- The position of a level, counted from the most important one, which has number 1. -/
def Level.rank : Level → Nat
  | .error => 1
  | .warn => 2
  | .info => 3
  | .debug => 4
  | .trace => 5

/-- The value of a field. -/
inductive Value where
  | number (n : Nat)
  /-- A text that is printed as it is. -/
  | plain (text : Text)
  /-- A text that is printed in quotation marks. -/
  | quoted (text : Text)
  deriving DecidableEq, Repr

/-- One log entry. -/
structure Entry where
  level : Level
  target : Text
  message : Text
  fields : List (Text × Value)
  deriving DecidableEq, Repr

/-- The entry of a notice about a directive. -/
def Entry.ofNotice : Notice → Entry
  | .missingToken line =>
    { level := .warn
      target := "sqlapply::splitter"
      message := "DELIMITER directive without a token ignored"
      fields := [("line", .number line)] }
  | .delimiterChanged line token =>
    { level := .debug
      target := "sqlapply::splitter"
      message := "delimiter changed"
      fields := [("line", .number line), ("delimiter", .quoted token)] }

end ScriptRunner.Log
