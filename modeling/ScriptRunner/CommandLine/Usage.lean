import ScriptRunner.CommandLine.Argument

/-!
# Usage errors

What can be wrong with a command line, and how it is told. A message ends with a usage line, which
shows either all of the usage or only the arguments in question.
-/

namespace ScriptRunner.CommandLine

open Text

/-- What is wrong with a command line. -/
inductive UsageError where
  /-- There is no such argument. Perhaps another flag was meant, or the argument was meant as a
  value. `used` are the arguments that the usage line shows. -/
  | unexpected (argument : Text) (similar : Option Flag) (asValue : Bool) (used : List Argument)
  | missingValue (argument : Argument)
  | repeated (argument : Argument)
  /-- A value was given to a flag that takes none. `behindOthers` tells whether other arguments were
  settled before it. -/
  | surplusValue (value : Text) (flag : Flag) (behindOthers : Bool)
  | missing (arguments : List Argument) (used : List Argument)
  deriving DecidableEq, Repr

/-! ## Styles -/

/-- The style of a title. -/
def titleStyle : Style := { bold := true, underlined := true }

/-- The style of the word that announces an error. -/
def errorStyle : Style := { bold := true, colour := some .red }

/-- The style of what is right. -/
def validStyle : Style := .ofColour .green

/-- The style of what is wrong. -/
def invalidStyle : Style := .ofColour .yellow

/-- A text in quotes. -/
def inQuotes (style : Style) (s : Text) : Markup :=
  plain ['\''] ++ inStyle style s ++ plain ['\'']

/-! ## The usage line -/

/-- The flags among some arguments. -/
def flagsOf (arguments : List Argument) : List Argument :=
  arguments.filter fun a => a != .directory && a != .database

/-- A usage line of the given parts. -/
def usageOf (parts : List Markup) : Markup :=
  inStyle titleStyle "Usage:" ++ plain [' '] ++ inStyle Argument.literal programName
    ++ parts.flatMap fun m => plain [' '] ++ m

/-- The usage line for some arguments in question, or for all if there are none. -/
def usageLine (used : List Argument) : Markup :=
  let options : List Markup :=
    if used = [] then [plain "[OPTIONS]"] else (flagsOf used).eraseDups.map (Argument.markup true)
  let places : List Markup :=
    [Argument.markup true .directory, Argument.markup (used.contains .database) .database]
  usageOf (options ++ places)

/-- The arguments that a run can be given, as a choice. -/
def choice : List Argument :=
  [.directory, .database, .flag .config, .flag .logLevel, .flag .dryRun, .flag .noColour]

/-- The usage line for a flag behind other arguments: any of those that a run can be given, and the
flag itself if it is none of them. -/
def choiceLine (flag : Flag) : Markup :=
  let own : List Markup :=
    if .flag flag ∈ choice then [] else [Argument.markup true (.flag flag)]
  usageOf (own ++ [plain (['<'] ++ join ['|'] (choice.map Argument.name) ++ ['>'])])

/-! ## Messages -/

namespace UsageError

/-- What the error is. -/
def message : UsageError → Markup
  | unexpected argument _ _ _ =>
    plain "unexpected argument " ++ inQuotes invalidStyle argument ++ plain " found"
  | missingValue argument =>
    plain "a value is required for " ++ inQuotes invalidStyle argument.text
      ++ plain " but none was supplied"
  | repeated argument =>
    plain "the argument " ++ inQuotes invalidStyle argument.text
      ++ plain " cannot be used multiple times"
  | surplusValue value flag _ =>
    plain "unexpected value " ++ inQuotes invalidStyle value ++ plain " for "
      ++ inQuotes Argument.literal flag.written ++ plain " found; no more were expected"
  | missing arguments _ =>
    plain "the following required arguments were not provided:"
      ++ arguments.flatMap fun a => plain "\n  " ++ inStyle validStyle a.text

/-- Start a tip on a line of its own. -/
def tip : Markup := plain "\n\n  " ++ inStyle validStyle "tip:" ++ plain [' ']

/-- What may have been meant. -/
def tips : UsageError → Markup
  | unexpected _ (some flag) _ _ =>
    tip ++ plain "a similar argument exists: " ++ inQuotes validStyle flag.written
  | unexpected argument none true _ =>
    tip ++ plain "to pass " ++ inQuotes invalidStyle argument ++ plain " as a value, use "
      ++ inQuotes validStyle ("-- " ++ argument)
  | _ => []

/-- The usage line of a message, if it has one. -/
def usage? : UsageError → Option Markup
  | unexpected _ _ _ used => some (usageLine used)
  | missingValue _ => none
  | repeated _ => some (usageLine [])
  | surplusValue _ flag behindOthers =>
    some (if behindOthers then choiceLine flag else usageLine [.flag flag])
  | missing _ used => some (usageLine used)

/-- All that is told about an error. -/
def report (e : UsageError) : Markup :=
  inStyle errorStyle "error:" ++ plain [' '] ++ e.message ++ e.tips
    ++ (e.usage?.map fun usage => plain "\n\n" ++ usage).getD []
    ++ plain "\n\nFor more information, try " ++ inQuotes Argument.literal Flag.help.written
    ++ plain ".\n"

end UsageError

end ScriptRunner.CommandLine
