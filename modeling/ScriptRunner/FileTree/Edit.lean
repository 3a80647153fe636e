import ScriptRunner.FileTree.Resolve

/-!
# Changing a tree

Entries are created with the directories they need, and removed with all that is below them. A new
entry comes last in its directory; one that takes the place of another keeps its place.
-/

namespace ScriptRunner

namespace Node

/-- The entries with the one of the given name set, or left out when there is no node for it. -/
def setEntry (name : Name) (node : Option Node) :
    List (Name × Node) → List (Name × Node)
  | [] => node.toList.map fun n => (name, n)
  | (other, old) :: rest =>
    if other = name then node.toList.map (fun n => (name, n)) ++ rest
    else (other, old) :: setEntry name node rest

/-- The node with the position below it set, or left out when there is no node for it. Where the
way leads through something other than a directory, nothing changes. -/
def set (node : Node) : Location → Option Node → Node
  | [], new => new.getD node
  | [name], new =>
    match node with
    | directory entries access => directory (setEntry name new entries) access
    | other => other
  | name :: rest, new =>
    match node with
    | directory entries access =>
      match entries.lookup name with
      | some child => directory (setEntry name (some (child.set rest new)) entries) access
      | none => node
    | other => other

end Node

namespace FileTree

/-- The tree with the node at a position set or removed. -/
def setAt (tree : FileTree) (location : Location) (node : Option Node) : FileTree :=
  { tree with top := tree.top.set location node }

/-- The position at which to create what the last part of `parts` names in the directory that the
others lead to. Directories that are missing on the way are created. -/
def prepare (tree : FileTree) (here : Location) : List Name → FileTree × Option (Location × Name)
  | [] => (tree, none)
  | [name] => (tree, some (here, name))
  | part :: rest =>
    match tree.follow {} maxLinks here [part] with
    | .ok found => prepare tree found.location rest
    | .error .notFound =>
      prepare (tree.setAt (here ++ [part]) (some (.directory []))) (here ++ [part]) rest
    | .error _ => (tree, none)

/-- The position of a file that is written where `parts` lead from a position. Links are followed,
at most `links` of them, also one that leads to where nothing is yet. -/
def landing (tree : FileTree) : (links : Nat) → Location → List Name → Option Location
  | links, here, parts =>
    match parts.getLast?, tree.follow {} maxLinks here parts.dropLast with
    | some name, .ok directory =>
      match links, directory.node.child? name with
      | links + 1, some (.link target) =>
        landing tree links (if Path.isAbsolute target then [] else directory.location)
          (Path.parts target)
      | 0, some (.link _) => none
      | _, _ => some (directory.location ++ [name])
    | _, _ => none

/-- Create a node at a path. A file written to a link goes to where the link leads, and a directory
that exists already is left as it is. -/
def create (tree : FileTree) (path : Path) (node : Node) : FileTree :=
  match tree.prepare (tree.start path) ((Path.parts path).filter (· ≠ [])) with
  | (tree, none) => tree
  | (tree, some (here, name)) =>
    match node with
    | .directory _ _ =>
      if (tree.follow {} maxLinks here [name]).isOk then tree
      else tree.setAt (here ++ [name]) (some node)
    | .file _ _ =>
      match tree.landing maxLinks here [name] with
      | some location => tree.setAt location (some node)
      | none => tree
    | _ => tree.setAt (here ++ [name]) (some node)

/-- Remove the file, link or directory at a path. -/
def remove (tree : FileTree) (path : Path) : Except FileError FileTree := do
  let found ← tree.find path false
  .ok (tree.setAt found.location none)

end FileTree

end ScriptRunner
