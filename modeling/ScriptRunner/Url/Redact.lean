import ScriptRunner.Url.Reader

/-!
# Hiding passwords

A URL that is shown to the operator has asterisks in place of its password. A text that is no URL,
or has no password, is shown as it is.
-/

namespace ScriptRunner

open Text

/-- What is shown in place of a password. -/
def passwordMask : Text := ['*', '*', '*']

/-- The authority with its password hidden, if it has one. -/
def Authority.masked? (a : Authority) : Option Authority :=
  if a.password.isSome ∧ a.host ≠ [] then some { a with password := some passwordMask } else none

namespace Url

/-- A URL as it may be shown. -/
def redact (s : Text) : Text :=
  match read s with
  | .error _ => s
  | .ok url =>
    match url.authority.bind Authority.masked? with
    | none => s
    | some authority => { url with authority := some authority }.toText

end Url

end ScriptRunner
