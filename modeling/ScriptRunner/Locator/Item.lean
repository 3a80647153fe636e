import ScriptRunner.FileTree.Resolve

/-!
# What a walk yields

A walk yields scripts, and errors for directories that cannot be listed. An entry of a directory is
a script if it is a regular file, or a link to one, and its name has the right extension in any mix
of upper and lower case ASCII letters.
-/

namespace ScriptRunner

open Text

/-- A script in the tree. -/
structure ScriptFile where
  path : Path
  name : Name
  deriving DecidableEq, Repr

/-- Why the scripts under a directory could not be listed. -/
inductive ListingCause where
  /-- The root could not be looked up. -/
  | root (error : FileError)
  /-- A directory met on the walk could not be opened. -/
  | entry (path : Path) (error : FileError)
  deriving DecidableEq, Repr

/-- The wording of a cause. -/
def ListingCause.message : ListingCause → Text
  | .root error => error.message
  | .entry path error => "IO error for operation on " ++ path.display ++ ": " ++ error.message

/-- Why scripts could not be located. -/
inductive LocateError where
  | directoryNotFound (root : Path)
  | discoveryFailed (path : Path) (cause : ListingCause)
  deriving DecidableEq, Repr

/-- The wording of an error. -/
def LocateError.message : LocateError → Text
  | .directoryNotFound root => "script directory not found: " ++ root.display
  | .discoveryFailed path cause =>
    "failed to list scripts under " ++ path.display ++ ": " ++ cause.message

/-- What a walk yields: a script, or a directory that could not be listed. -/
abbrev Item := Except LocateError ScriptFile

namespace Walk

/-- The dot that stands before the extension of a name. -/
def dot : UInt8 := 0x2E

/-- The extension of a name: what follows the last dot, if something stands before that dot. -/
def extension? (name : Name) : Option Bytes :=
  let extension := (name.reverse.takeWhile (· != dot)).reverse
  let stem := name.take (name.length - (extension.length + 1))
  if name = [dot, dot] ∨ stem = [] then none else some extension

/-- A byte with an upper case ASCII letter replaced by the lower case one. -/
def lowerAscii (b : UInt8) : UInt8 := if 0x41 ≤ b ∧ b ≤ 0x5A then b + 0x20 else b

/-- Whether a name has the given extension, in any mix of upper and lower case ASCII letters. -/
def hasExtension (extension : Text) (name : Name) : Bool :=
  match extension? name with
  | none => false
  | some found => found.map lowerAscii == (encode extension).map lowerAscii

/-- Whether a listed entry is a script: a regular file, or a link that leads to one at the time the
walk comes to it, and of the right extension. -/
def isScript (tree : FileTree) (extension : Text) (path : Path) (name : Name) (kind : Kind) :
    Bool :=
  hasExtension extension name &&
    match kind with
    | .file => true
    | .link => tree.isFile path
    | .directory => false
    | .special => false

end Walk

end ScriptRunner
