import ScriptRunner.FileTree.Basic

/-!
# Looking up paths

A path is followed part by part. A symbolic link on the way is replaced by its target, at most
`maxLinks` times; the last part is followed only if asked for. Every part, also an empty one or a
dot, needs a directory to stand in, and any but an empty one a directory in which names can be
looked up. To list a directory or to read a file, it must not refuse that in turn.
-/

namespace ScriptRunner

open Text

namespace FileTree

/-- How many links are followed in one look-up. -/
def maxLinks : Nat := 40

/-- The most bytes that a name may have. -/
def maxName : Nat := 255

/-- The most bytes that a path may have. -/
def maxPath : Nat := 4095

/-- A position and what is there. -/
structure Found where
  location : Location
  node : Node
  deriving Repr

/-- How a path is followed. -/
structure Lookup where
  /-- Whether a link that the last part names is followed as well. -/
  followLast : Bool := true
  /-- Whether each entry on the way is looked at by its path from the top, which must not be too
  long then. The dots are not looked at in that case. -/
  byPath : Bool := false

namespace Lookup

/-- Whether an entry at a position can be looked at, by a path with `more` bytes behind its name. -/
def reaches (how : Lookup) (location : Location) (more : Nat) : Bool :=
  !how.byPath || (Path.ofLocation location).length + more ≤ maxPath

/-- The error of looking at a part of a path in the directory at a position, whatever the directory
has of that name. -/
def obstacle? (how : Lookup) (tree : FileTree) (here : Location) (access : Access) (part : Name) :
    Option FileError :=
  if how.byPath && (part == [0x2E] || part == [0x2E, 0x2E]) then none
  else if !how.reaches (here ++ [part]) 0 then some .nameTooLong
  else
    let refusal := if how.byPath then tree.top.barrier? here else access.search
    refusal.or (if part.length > maxName then some .nameTooLong else none)

end Lookup

/-- Whether parts of a path that stand behind an entry ask no more of it than to be a directory:
they come to their end, or back out of the entry, without a name. -/
def asksDirectory (rest : List Name) : Bool :=
  rest ≠ [] &&
    match rest.dropWhile fun part => part = [] ∨ part = [0x2E] with
    | [] => true
    | part :: _ => part = [0x2E, 0x2E]

/-- Follow `parts` from the position `here` as far as the first link, and leave what is to be
followed then to `jump`. A directory that is only asked to be one is looked at with a slash behind
its name. -/
def followWith (tree : FileTree) (how : Lookup)
    (jump : Location → List Name → Except FileError Found) (here : Location) :
    List Name → Except FileError Found
  | [] =>
    match tree.top.get? here with
    | none => .error .notFound
    | some node => .ok ⟨here, node⟩
  | part :: rest =>
    match tree.top.get? here with
    | some (.directory entries access) =>
      if part = [] then followWith tree how jump here rest
      else
        match how.obstacle? tree here access part with
        | some error => .error error
        | none =>
          if part = [0x2E] then followWith tree how jump here rest
          else if part = [0x2E, 0x2E] then followWith tree how jump here.dropLast rest
          else
            match entries.lookup part with
            | none => .error .notFound
            | some (.link target) =>
              if rest = [] ∧ how.followLast = false then .ok ⟨here ++ [part], .link target⟩
              else if target = [] then .error .notFound
              else jump (if Path.isAbsolute target then [] else here) (Path.parts target ++ rest)
            | some (.directory _ _) =>
              if asksDirectory rest && !how.reaches (here ++ [part]) 1 then .error .nameTooLong
              else followWith tree how jump (here ++ [part]) rest
            | some file =>
              if rest = [] then .ok ⟨here ++ [part], file⟩ else .error .notADirectory
    | some _ => .error .notADirectory
    | none => .error .notFound

/-- Follow `parts` from a position, through at most `links` links. -/
def follow (tree : FileTree) (how : Lookup) :
    (links : Nat) → Location → List Name → Except FileError Found
  | 0 => tree.followWith how fun _ _ => .error .tooManyLinks
  | links + 1 => tree.followWith how (follow tree how links)

/-- The position that the parts of a path start from. -/
def start (tree : FileTree) (path : Path) : Location :=
  if Path.isAbsolute path then [] else tree.workingDirectory

/-- Look up a path that a caller of the operating system gives. -/
def find (tree : FileTree) (path : Path) (followLast : Bool) : Except FileError Found :=
  if path.contains 0 then .error .nulInPath
  else if path = [] then .error .notFound
  else if path.length > maxPath then .error .nameTooLong
  else
    follow tree { followLast := followLast } maxLinks (tree.start path) (Path.parts path)

/-- Only a path that is not too long is looked up. -/
theorem length_le_of_find_eq_ok {tree : FileTree} {path : Path} {followLast : Bool} {found : Found}
    (h : tree.find path followLast = .ok found) : path.length ≤ maxPath := by
  unfold find at h
  split at h
  · cases h
  split at h
  · cases h
  split at h
  · cases h
  · omega

/-- Whether there is a regular file at a path, or a link that leads to one. -/
def isFile (tree : FileTree) (path : Path) : Bool :=
  match tree.find path true with
  | .ok ⟨_, .file _ _⟩ => true
  | _ => false

/-- Whether there is a directory at a path, or a link that leads to one. -/
def isDirectory (tree : FileTree) (path : Path) : Bool :=
  match tree.find path true with
  | .ok ⟨_, .directory _ _⟩ => true
  | _ => false

/-- The position that a path leads to, with all links followed. A path of any length can be given,
but the way must not lead through a place whose path from the top is too long. -/
def canonical (tree : FileTree) (path : Path) : Except FileError Found :=
  if path.contains 0 then .error .nulInPath
  else if path = [] then .error .notFound
  else follow tree { byPath := true } maxLinks (tree.start path) (Path.parts path)

/-- The names and kinds of the entries of a directory, in the order of the directory. -/
def list (tree : FileTree) (path : Path) : Except FileError (List (Name × Kind)) := do
  match (← tree.find path true).node with
  | .directory entries access =>
    match access.listing with
    | some error => .error error
    | none => .ok (entries.map fun e => (e.1, e.2.kind))
  | _ => .error .notADirectory

/-- Only a directory whose path is not too long is listed. -/
theorem length_le_of_list_eq_ok {tree : FileTree} {path : Path} {entries : List (Name × Kind)}
    (h : tree.list path = .ok entries) : path.length ≤ maxPath := by
  unfold list at h
  cases hf : tree.find path true with
  | error e => rw [hf] at h; cases h
  | ok found => exact length_le_of_find_eq_ok hf

/-- The text of a file. -/
def readText (tree : FileTree) (path : Path) : Except FileError Text := do
  match (← tree.find path true).node with
  | .file content none | .special content none =>
    match decode? content with
    | some text => .ok text
    | none => .error .invalidText
  | .file _ (some error) | .special _ (some error) => .error error
  | .directory _ access => .error (access.listing.getD .isADirectory)
  | .link _ => .error .tooManyLinks

end FileTree

end ScriptRunner
