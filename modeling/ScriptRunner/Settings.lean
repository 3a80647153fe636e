import ScriptRunner.FileTree.Resolve
import ScriptRunner.Locator.Root
import ScriptRunner.Toml.Document

/-!
# Settings

The settings of a run come from a TOML file with the sections `log`, `scripts` and `output`, each
with one setting. What the file leaves out keeps its default, and what it has beyond them does not
count.
-/

namespace ScriptRunner

open Text

/-- The settings of a run. -/
structure Settings where
  /-- The log filter, unless none is set. -/
  logLevel : Option Text := none
  /-- The extension of script files. -/
  extension : Text := defaultExtension
  /-- Whether operator output may be coloured. -/
  coloured : Bool := true
  deriving DecidableEq, Repr

/-- Why settings could not be loaded. -/
inductive SettingsError where
  | unreadable (path : Path) (error : FileError)
  /-- The file is no TOML document, or a setting has a value of the wrong kind. -/
  | invalid (path : Path)
  deriving DecidableEq, Repr

namespace SettingsError

/-- The wording of an error. -/
def message : SettingsError → Text
  | unreadable path error => "failed to read config " ++ path.display ++ ": " ++ error.message
  | invalid path => "invalid config " ++ path.display

/-- The wording of what lies behind an error. -/
def causes : SettingsError → List Text
  | unreadable _ error => [error.message]
  | invalid _ => []

end SettingsError

namespace Settings

/-- The value of the setting of a section. A section is a table, or an array whose first item is the
value. A date or a time is taken as a section without settings. -/
def valueIn? (name : Text) : Toml.Value → Option (Option Toml.Value)
  | .table _ entries => some (entries.lookup name)
  | .array items => some items.head?
  | .tables elements => some (elements.head?.map (.table .header))
  | .moment => some none
  | _ => none

/-- The value of a setting in a document, if the section is one and has the setting. -/
def value? (section_ name : Text) (document : Toml.Table) : Option (Option Toml.Value) :=
  match document.lookup section_ with
  | none => some none
  | some value => valueIn? name value

/-- Read a text. -/
def text? : Toml.Value → Option Text
  | .string text => some text
  | _ => none

/-- Read a switch. -/
def switch? : Toml.Value → Option Bool
  | .boolean b => some b
  | _ => none

/-- The settings in a document. -/
def ofDocument? (document : Toml.Table) : Option Settings := do
  let level ← (← value? "log" "level" document).mapM text?
  let extension ← (← value? "scripts" "extension" document).mapM text?
  let coloured ← (← value? "output" "color" document).mapM switch?
  some
    { logLevel := level
      extension := extension.getD defaultExtension
      coloured := coloured.getD true }

/-- The settings in a text. -/
def read? (text : Text) : Option Settings := (Toml.document? text).bind ofDocument?

/-- Load the settings from a file. -/
def ofFile (tree : FileTree) (path : Path) : Except SettingsError Settings :=
  match tree.readText path with
  | .error error => .error (.unreadable path error)
  | .ok text =>
    match read? text with
    | some settings => .ok settings
    | none => .error (.invalid path)

/-- The place of the settings below the directory for configuration files. -/
def pathIn (directory : Path) : Path :=
  Path.child (Path.child directory (encode "sqlapply")) (encode "config.toml")

/-- Load the settings from the file that was named, which must be there; or else from the usual
place, if there is a file. -/
def load (tree : FileTree) (named : Option Path) (directory : Option Path) :
    Except SettingsError Settings :=
  match named with
  | some path => ofFile tree path
  | none =>
    match directory.map pathIn with
    | some path => if tree.isFile path then ofFile tree path else .ok {}
    | none => .ok {}

end Settings

end ScriptRunner
