import ScriptRunner.Text.Markup

/-!
# The arguments of the program

Two arguments are given by their place: the directory of the scripts and the URL of the database.
The others are flags, of which some take a value.
-/

namespace ScriptRunner.CommandLine

open Text

/-- The name and the version of the program. -/
def programName : Text := "sqlapply"

/-- The version of the program. -/
def programVersion : Text := "0.1.0"

/-- An argument that is given by name. -/
inductive Flag where
  | config
  | logLevel
  | dryRun
  | noColour
  | help
  | version
  deriving DecidableEq, Repr

namespace Flag

/-- All flags, in the order in which they are explained. -/
def all : List Flag := [config, logLevel, dryRun, noColour, help, version]

/-- The name of a flag, which is written behind two dashes. -/
def name : Flag → Text
  | config => "config"
  | logLevel => "log-level"
  | dryRun => "dry-run"
  | noColour => "no-color"
  | help => "help"
  | version => "version"

/-- What the value of a flag is called, if it takes one. -/
def value? : Flag → Option Text
  | config => some "PATH"
  | logLevel => some "LEVEL"
  | _ => none

/-- The flag of a name. -/
def ofName? (name : Text) : Option Flag := all.find? fun flag => flag.name = name

/-- The flag of a letter, which is written behind one dash. -/
def ofLetter? (c : Char) : Option Flag :=
  if c = 'h' then some help else if c = 'V' then some version else none

/-- The name of a flag as it is written. -/
def written (flag : Flag) : Text := ['-', '-'] ++ flag.name

end Flag

/-- An argument of the program. -/
inductive Argument where
  | directory
  | database
  | flag (flag : Flag)
  deriving DecidableEq, Repr

namespace Argument

/-- Whether an argument takes a value. -/
def takesValue : Argument → Bool
  | flag f => f.value?.isSome
  | _ => true

/-- Whether the value of an argument must not be empty. -/
def refusesEmpty : Argument → Bool
  | directory => true
  | database => false
  | flag f => f == .config

/-- The style of what is to be written as it stands. -/
def literal : Style := { bold := true }

/-- What an argument is called where all arguments are named. -/
def name : Argument → Text
  | directory => "SCRIPT_DIR"
  | database => "DATABASE_URL"
  | flag f => f.written ++ (f.value?.map fun v => " <" ++ v ++ ['>']).getD []

/-- An argument in a usage line. A database that is not required stands in brackets. -/
def markup (required : Bool) : Argument → Markup
  | directory => plain "<SCRIPT_DIR>"
  | database => plain (if required then "<DATABASE_URL>" else "[DATABASE_URL]")
  | flag f =>
    inStyle literal f.written ++ (f.value?.map fun v => plain (" <" ++ v ++ ">")).getD []

/-- An argument in a message. -/
def text (a : Argument) : Text := Markup.write false (a.markup true)

end Argument

end ScriptRunner.CommandLine
