import ScriptRunner.Log.DirectiveReader
import ScriptRunner.Text.Quoted

/-!
# Log filters

A filter is made from a list of directives with commas between them. For an entry the most specific
directive that applies to it decides; if there is none, the entry is not logged. What a database
library logs about each statement is kept quiet, unless the directives mention it.
-/

namespace ScriptRunner.Log

open Text

/-- The directives of a filter, most specific first. -/
structure Filter where
  /-- Directives that can be decided for an entry alone. -/
  static : List Directive := []
  /-- Directives about spans and fields. -/
  withScope : List Directive := []
  deriving DecidableEq, Repr

/-- A level setting that is no list of directives. -/
structure FilterError where
  setting : Text
  cause : DirectiveError
  deriving DecidableEq, Repr

/-- The wording of an error. -/
def FilterError.message (e : FilterError) : Text :=
  "invalid log level " ++ quoted e.setting ++ ": " ++ e.cause.message

/-- The wording of what lies behind an error, nearest cause first. -/
def FilterError.causes (e : FilterError) : List Text := e.cause.causes

/-- The level when no other is set. -/
def defaultSetting : Text := "warn"

/-- The library whose entries are kept quiet. -/
def quietTarget : Text := "sqlx"

/-- The directive that keeps it quiet. -/
def quietDirective : Text := quietTarget ++ "=warn"

namespace Filter

/-- The filter of some directives. Of directives that are equally specific the last one counts. -/
def ofDirectives (ds : List Directive) : Filter where
  static :=
    (ds.filter (!·.hasScope) ++ (ds.filter (·.hasScope)).filterMap Directive.static?).foldl
      (fun sorted d => d.insert sorted) []
  withScope := (ds.filter (·.hasScope)).foldl (fun sorted d => d.insert sorted) []

/-- Read directives with commas between them. Empty ones are left out. -/
def read (s : Text) : Except DirectiveError Filter := do
  let ds ← ((splitOnChar ',' s).filter (· ≠ [])).mapM Directive.read
  .ok (ofDirectives ds)

/-- The setting that counts: without white space at its ends, and the default one if it is blank. -/
def effective (setting : Text) : Text :=
  let setting := trim setting
  if setting = [] then defaultSetting else setting

/-- The directives of a setting, with the one that keeps the database library quiet unless the
setting mentions it. -/
def directives (setting : Text) : Text :=
  let setting := effective setting
  if contains quietTarget setting then setting else setting ++ [','] ++ quietDirective

/-- The filter of a setting. -/
def build (setting : Text) : Except FilterError Filter :=
  match read (directives setting) with
  | .ok filter => .ok filter
  | .error cause => .error ⟨effective setting, cause⟩

/-- The written form of a filter. -/
def toText (filter : Filter) : Text :=
  join [','] ((filter.static ++ filter.withScope).map Directive.toText)

/-- Whether an entry is logged. Entries of this program are not made inside spans, so that no
directive about spans has a say. -/
def enables (filter : Filter) (entry : Entry) : Bool :=
  match filter.static.find? (·.applies entry) with
  | some d => d.threshold.admits entry.level
  | none => false

end Filter

end ScriptRunner.Log
