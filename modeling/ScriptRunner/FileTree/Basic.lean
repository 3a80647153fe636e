import ScriptRunner.Text.Utf8

/-!
# Trees of files

A tree has regular files, symbolic links, directories, and special files such as pipes and devices.
Names and paths are byte strings: nothing makes them valid UTF-8. A directory lists its entries in
an order of its own. In a tree that is well formed (`Node.WellFormed`) no two of them have one name,
and each name can be a part of a path.

Any file can refuse to be read, and any directory to be listed or to have names looked up in it, be
it for want of a permission or because of a failing disk. The error is part of the tree.

A `FileTree` is such a tree together with the directory that relative paths start from. The errors
of this module are those of the operating system, with its wording.
-/

namespace ScriptRunner

open Text

/-- A name of a directory entry. -/
abbrev Name := Bytes

/-- A path as it is written: names separated by slashes. -/
abbrev Path := Bytes

/-- The byte that separates names. -/
def Path.slash : UInt8 := 0x2F

/-- A name that an entry can have. The dot and the two dots stand for directories on the way. -/
structure Name.IsValid (name : Name) : Prop where
  ne_nil : name ≠ []
  ne_dot : name ≠ [0x2E]
  ne_dots : name ≠ [0x2E, 0x2E]
  slash_notMem : Path.slash ∉ name
  nul_notMem : 0 ∉ name

instance (name : Name) : Decidable name.IsValid :=
  decidable_of_iff
    (name ≠ [] ∧ name ≠ [0x2E] ∧ name ≠ [0x2E, 0x2E] ∧ Path.slash ∉ name ∧ 0 ∉ name)
    ⟨fun ⟨hnil, hdot, hdots, hslash, hnul⟩ => ⟨hnil, hdot, hdots, hslash, hnul⟩,
      fun h => ⟨h.ne_nil, h.ne_dot, h.ne_dots, h.slash_notMem, h.nul_notMem⟩⟩

/-- A position in the tree: the names on the way from the top. -/
abbrev Location := List Name

/-- What the operating system reports. -/
inductive FileError where
  | notFound
  | permissionDenied
  | notADirectory
  | isADirectory
  | nameTooLong
  | tooManyLinks
  | alreadyExists
  | nulInPath
  | invalidText
  /-- Any other error, in the words of the system. -/
  | other (message : Text)
  deriving DecidableEq, Repr

/-- The wording of an error. -/
def FileError.message : FileError → Text
  | .notFound => "No such file or directory (os error 2)"
  | .permissionDenied => "Permission denied (os error 13)"
  | .notADirectory => "Not a directory (os error 20)"
  | .isADirectory => "Is a directory (os error 21)"
  | .nameTooLong => "File name too long (os error 36)"
  | .tooManyLinks => "Too many levels of symbolic links (os error 40)"
  | .alreadyExists => "File exists (os error 17)"
  | .nulInPath => "file name contained an unexpected NUL byte"
  | .invalidText => "stream did not contain valid UTF-8"
  | .other message => message

/-- What can be done with a directory: there is an error for what is refused. -/
structure Access where
  /-- Listing the entries. -/
  listing : Option FileError := none
  /-- Looking up a name. -/
  search : Option FileError := none
  deriving DecidableEq, Repr

/-- A file, a link or a directory with all that is below it. A file has its content, or what can be
read from it if it is special, and the error of reading it if that is refused. -/
inductive Node where
  | file (content : Bytes) (refusal : Option FileError := none)
  | link (target : Path)
  | directory (entries : List (Name × Node)) (access : Access := {})
  | special (content : Bytes) (refusal : Option FileError := none)
  deriving Repr

/-- What a directory listing says of an entry. -/
inductive Kind where
  | file
  | link
  | directory
  | special
  deriving DecidableEq, Repr

namespace Node

/-- The kind of a node. -/
def kind : Node → Kind
  | file _ _ => .file
  | link _ => .link
  | directory _ _ => .directory
  | special _ _ => .special

/-- The entries of a node. Only directories have any. -/
def entries : Node → List (Name × Node)
  | directory es _ => es
  | _ => []

/-- The error of looking up names in a node, if it is a directory that refuses it. -/
def searchError? : Node → Option FileError
  | directory _ access => access.search
  | _ => none

/-- The entry of the given name. -/
def child? (node : Node) (name : Name) : Option Node := node.entries.lookup name

/-- The node at a position below this one. -/
def get? (node : Node) : Location → Option Node
  | [] => some node
  | name :: rest => (node.child? name).bind fun child => child.get? rest

/-- The error of the first directory on the way to a position, or at it, in which no names can be
looked up. -/
def barrier? (node : Node) : Location → Option FileError
  | [] => node.searchError?
  | name :: rest =>
    node.searchError?.or ((node.child? name).bind fun child => child.barrier? rest)

/-- The entries of a directory have names that differ from each other, and so on below it. -/
inductive WellFormed : Node → Prop where
  | file (content : Bytes) {refusal : Option FileError} : WellFormed (file content refusal)
  | link (target : Path) : WellFormed (link target)
  | directory (es : List (Name × Node)) {access : Access} (valid : ∀ e ∈ es, Name.IsValid e.1)
      (distinct : (es.map Prod.fst).Nodup) (below : ∀ e ∈ es, WellFormed e.2) :
      WellFormed (directory es access)
  | special (content : Bytes) {refusal : Option FileError} : WellFormed (special content refusal)

end Node

/-- A tree with the directory that relative paths start from. -/
structure FileTree where
  top : Node := .directory []
  workingDirectory : Location := []
  deriving Repr

namespace Path

/-- The parts of a path between slashes. An empty part stands for nothing. -/
def parts : Path → List Name
  | [] => [[]]
  | b :: rest =>
    if b = slash then [] :: parts rest
    else
      match parts rest with
      | [] => [[b]]
      | part :: more => (b :: part) :: more

/-- Whether a path starts at the top. -/
def isAbsolute (path : Path) : Bool := path.head? == some slash

/-- The path of an entry of a directory. A slash is put between the two unless the path of the
directory ends with one, as that of the top does. -/
def child (directory : Path) (name : Name) : Path :=
  if directory.getLast? = some slash ∧ name ≠ [] then directory ++ name
  else directory ++ slash :: name

/-- The path of an entry is longer than that of its directory. -/
theorem length_lt_length_child (directory : Path) (name : Name) :
    directory.length < (child directory name).length := by
  unfold child
  split
  next h =>
    have := List.length_pos_iff.2 h.2
    rw [List.length_append]
    omega
  next =>
    rw [List.length_append, List.length_cons]
    omega

/-- A path as it is shown, with U+FFFD for what is no valid UTF-8. -/
def display (path : Path) : Text := decodeLossy path

/-- The path from the top to a position. -/
def ofLocation : Location → Path
  | [] => [slash]
  | names => names.flatMap (slash :: ·)

end Path

end ScriptRunner
