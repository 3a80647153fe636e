import ScriptRunner.Locator.Walk

/-!
# Locating scripts under a root

A `Locator` knows the root directory and the extension of script files. Each walk starts at the
root as it is then, with all links in the path of the root followed.
-/

namespace ScriptRunner

open Text

/-- The extension of script files when no other is set. -/
def defaultExtension : Text := "sql"

/-- Where to look for scripts, and what their extension is. -/
structure Locator where
  root : Path
  extension : Text := defaultExtension
  deriving DecidableEq, Repr

namespace Locator

/-- The locator for another extension, which may be written with leading dots. -/
def withExtension (locator : Locator) (extension : Text) : Locator :=
  { locator with extension := extension.dropWhile (· == '.') }

/-- The path of the root, with all links followed. It is looked up once more to see whether it is
that of a directory. -/
def resolveRoot (locator : Locator) (tree : FileTree) : Except LocateError Path :=
  match tree.canonical locator.root with
  | .ok ⟨location, .directory _ _⟩ =>
    if tree.isDirectory (Path.ofLocation location) then .ok (Path.ofLocation location)
    else .error (.directoryNotFound locator.root)
  | .ok _ => .error (.directoryNotFound locator.root)
  | .error .notFound => .error (.directoryNotFound locator.root)
  | .error .notADirectory => .error (.directoryNotFound locator.root)
  | .error e => .error (.discoveryFailed locator.root (.root e))

/-- Start a walk. -/
def start (locator : Locator) (tree : FileTree) : Except LocateError Walk :=
  (locator.resolveRoot tree).map Walk.unopened

/-- All items of a fresh walk. -/
def scripts (locator : Locator) (tree : FileTree) : Except LocateError (List Item) :=
  (locator.start tree).map (Walk.items tree locator.extension)

end Locator

end ScriptRunner
