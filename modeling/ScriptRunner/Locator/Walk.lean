import ScriptRunner.Locator.Item
import ScriptRunner.Locator.Order

/-!
# Walking a tree of scripts

A walk looks at one directory after another. It lists a directory when it comes to it, and from
then on goes by what the listing said, whatever happens to the tree meanwhile. Entries come in the
order of siblings, and all that is below a directory comes before the next one.

`Walk.next` looks for the next item in the tree as it is at that time. The depth of a walk is
bounded because a directory is opened only if its path has at most `FileTree.maxPath` bytes, and the
path of an entry is longer than that of its directory.
-/

namespace ScriptRunner

open Text

namespace Walk

/-- A directory that was listed, with the entries that the walk has not come to yet. -/
structure Frame where
  directory : Path
  entries : List (Name × Kind)
  deriving DecidableEq, Repr

/-- The item for a directory that could not be opened. -/
def failed (path : Path) (error : FileError) : Item :=
  .error (.discoveryFailed path (.entry path error))

/-- The entries of a directory in the order of the walk. -/
def enter (tree : FileTree) (path : Path) : Except FileError (List (Name × Kind)) :=
  (tree.list path).map inOrder

/-- A directory that can be entered has a path that is not too long. -/
theorem length_le_of_enter_eq_ok {tree : FileTree} {path : Path} {entries : List (Name × Kind)}
    (h : enter tree path = .ok entries) : path.length ≤ FileTree.maxPath := by
  unfold enter at h
  cases hl : tree.list path with
  | error e => rw [hl] at h; cases h
  | ok listed => exact FileTree.length_le_of_list_eq_ok hl

/-- How many more bytes a path in a directory may have. -/
def room (directory : Path) : Nat := FileTree.maxPath + 1 - directory.length

/-- A directory that can be entered leaves less room than the one it is in. -/
theorem room_child_lt {tree : FileTree} {directory : Path} {name : Name}
    {entries : List (Name × Kind)} (h : enter tree (Path.child directory name) = .ok entries) :
    room (Path.child directory name) < room directory := by
  have := length_le_of_enter_eq_ok h
  have := Path.length_lt_length_child directory name
  unfold room
  omega

/-- The first item among the given entries of a directory, where `below` searches the directories
among them. -/
def searchWith (tree : FileTree) (extension : Text) (directory : Path)
    (below : (path : Path) → List (Name × Kind) → room path < room directory →
      Option (Item × List Frame)) : List (Name × Kind) → Option (Item × List Frame)
  | [] => none
  | (name, kind) :: rest =>
    let path := Path.child directory name
    if kind = .directory then
      match h : enter tree path with
      | .error e => some (failed path e, [⟨directory, rest⟩])
      | .ok listed =>
        match below path listed (room_child_lt h) with
        | some (item, frames) => some (item, frames ++ [⟨directory, rest⟩])
        | none => searchWith tree extension directory below rest
    else if isScript tree extension path name kind then
      some (.ok ⟨path, name⟩, [⟨directory, rest⟩])
    else searchWith tree extension directory below rest

/-- The first item among the given entries of a directory and all that is below them, with the
frames that remain, innermost first. -/
def search (tree : FileTree) (extension : Text) (directory : Path) :
    List (Name × Kind) → Option (Item × List Frame) :=
  searchWith tree extension directory fun path listed _ => search tree extension path listed
termination_by room directory

/-- The first item in the frames, with the frames that remain. -/
def searchFrames (tree : FileTree) (extension : Text) : List Frame → Option (Item × List Frame)
  | [] => none
  | frame :: outer =>
    match search tree extension frame.directory frame.entries with
    | some (item, frames) => some (item, frames ++ outer)
    | none => searchFrames tree extension outer

/-- The sum of some counts. -/
def total (counts : List Nat) : Nat := counts.foldr (· + ·) 0

/-- How many entries there are among the given ones and below them. -/
def extent (tree : FileTree) (directory : Path) (entries : List (Name × Kind)) : Nat :=
  total (entries.map fun e =>
    if e.2 = .directory then
      match h : enter tree (Path.child directory e.1) with
      | .error _ => 1
      | .ok listed =>
        have := room_child_lt h
        1 + extent tree (Path.child directory e.1) listed
    else 1)
termination_by room directory

end Walk

/-- A walk that is under way. -/
inductive Walk where
  /-- The root was looked up, but is not opened yet. -/
  | unopened (root : Path)
  /-- Directories were listed, innermost first. -/
  | within (frames : List Walk.Frame)
  deriving DecidableEq, Repr

namespace Walk

/-- Open the root. There is an item at once if the root is no directory any more: an error, or the
root itself if it has become a script. -/
def openRoot (tree : FileTree) (extension : Text) (root : Path) : Option Item × List Frame :=
  let name := ((Path.parts root).getLast?).getD []
  let entered : Option Item × List Frame :=
    match enter tree root with
    | .error e => (some (failed root e), [])
    | .ok listed => (none, [⟨root, listed⟩])
  match tree.find root false with
  | .error e => (some (failed root e), [])
  | .ok found =>
    let itself : Option Item × List Frame :=
      (if isScript tree extension root name found.node.kind then some (.ok ⟨root, name⟩) else none,
        [])
    match found.node.kind with
    | .directory => entered
    | .link =>
      match tree.find root true with
      | .error e => (some (failed root e), [])
      | .ok target => if target.node.kind = .directory then entered else itself
    | _ => itself

/-- The next item, and the walk behind it. -/
def next (tree : FileTree) (extension : Text) (walk : Walk) : Option Item × Walk :=
  let opened : Option Item × List Frame :=
    match walk with
    | .unopened root => openRoot tree extension root
    | .within frames => (none, frames)
  match opened with
  | (some item, frames) => (some item, .within frames)
  | (none, frames) =>
    match searchFrames tree extension frames with
    | some (item, frames) => (some item, .within frames)
    | none => (none, .within [])

/-- The number of entries a walk has still to come to, and one for the root. In a tree from which
entries are only removed, no walk yields more items than that. -/
def budget (tree : FileTree) (extension : Text) : Walk → Nat
  | .unopened root =>
    1 + total ((openRoot tree extension root).2.map fun f => extent tree f.directory f.entries)
  | .within frames => total (frames.map fun f => extent tree f.directory f.entries)

/-- The items of a walk through a tree that stays as it is, at most `fuel` of them. -/
def takeItems (tree : FileTree) (extension : Text) : Nat → Walk → List Item
  | 0, _ => []
  | fuel + 1, walk =>
    match walk.next tree extension with
    | (none, _) => []
    | (some item, walk) => item :: takeItems tree extension fuel walk

/-- All items of a walk through a tree that stays as it is. -/
def items (tree : FileTree) (extension : Text) (walk : Walk) : List Item :=
  takeItems tree extension (walk.budget tree extension) walk

end Walk

end ScriptRunner
