import ScriptRunner.Locator.Walk

/-!
# The contents of a directory

A second account of what a walk yields, for a tree that stays as it is: first the scripts that lie in
the directory, by name, then the contents of each directory in it, by name. A directory that cannot
be listed has one error for its contents.
-/

namespace ScriptRunner

open Text

namespace Walk

/-- Names in their order as byte strings. -/
def byName (names : List Name) : List Name := names.mergeSort fun a b => decide (a ≤ b)

/-- The names of the scripts among the entries of a directory. -/
def scriptNames (tree : FileTree) (extension : Text) (directory : Path)
    (entries : List (Name × Kind)) : List Name :=
  byName ((entries.filter fun e =>
    isScript tree extension (Path.child directory e.1) e.1 e.2).map Prod.fst)

/-- The names of the directories among the entries of a directory. -/
def directoryNames (entries : List (Name × Kind)) : List Name :=
  byName ((entries.filter fun e => e.2 = .directory).map Prod.fst)

/-- All scripts in a directory and below it, with an error for each directory that cannot be
listed. -/
def contents (tree : FileTree) (extension : Text) (directory : Path) : List Item :=
  match h : tree.list directory with
  | .error e => [failed directory e]
  | .ok entries =>
    have := FileTree.length_le_of_list_eq_ok h
    (scriptNames tree extension directory entries).map
        (fun name => .ok ⟨Path.child directory name, name⟩)
      ++ (directoryNames entries).flatMap fun name =>
        contents tree extension (Path.child directory name)
termination_by FileTree.maxPath + 1 - directory.length
decreasing_by
  have := Path.length_lt_length_child directory name
  omega

end Walk

end ScriptRunner
