import ScriptRunner.Program
import Std.Time.Format

/-!
# The command line program

Takes a picture of the files that the program looks at, and prints what `Invocation.run` makes of
them.
-/

namespace ScriptRunner.Snapshot

open Text

/-- A path of the tree as a path of the system. -/
def systemPath (path : Path) : String := String.ofList path.display

/-- A path of the system as a path of the tree. -/
def treePath (path : String) : Path := path.toUTF8.toList

/-- The number of an error of the system. Some functions give it with the opposite sign. -/
def errorNumber (code : UInt32) : UInt32 := if code < 0x80000000 then code else 0 - code

/-- The error of a tree for an error of the system. -/
def fileError : IO.Error → FileError
  | .noFileOrDirectory _ _ _ => .notFound
  | .permissionDenied _ _ _ => .permissionDenied
  | .inappropriateType _ code _ => if errorNumber code = 20 then .notADirectory else .isADirectory
  | .hardwareFault _ _ => .other "Input/output error (os error 5)"
  | error => .other error.toString.toList

/-- What is read at a path, and the error if it cannot be read. -/
def contentAt (path : String) : IO (Bytes × Option FileError) := do
  match ← (IO.FS.readBinFile path).toBaseIO with
  | .ok content => return (content.toList, none)
  | .error error => return ([], some (fileError error))

/-- A regular file. -/
def fileAt (path : String) : IO Node := do
  let (content, refusal) ← contentAt path
  return .file content refusal

/-- What a directory entry is, with all that is below it. A link to a file is taken for the file. Of
what cannot be looked at only the error is kept. A special file is not read. -/
partial def nodeAt (entry : IO.FS.DirEntry) : IO Node := do
  match ← entry.path.symlinkMetadata.toBaseIO with
  | .error error => return .file [] (some (fileError error))
  | .ok found =>
    match found.type with
    | .file => fileAt entry.path.toString
    | .other => return .special []
    | .symlink =>
      match ← entry.path.metadata.toBaseIO with
      | .ok target => if target.type == .file then fileAt entry.path.toString else return .link []
      | .error _ => return .link []
    | .dir =>
      match ← entry.path.readDir.toBaseIO with
      | .error error => return .directory [] { listing := some (fileError error) }
      | .ok listed =>
        let mut entries : List (Name × Node) := []
        for below in listed do
          entries := entries ++ [(treePath below.fileName, ← nodeAt below)]
        return .directory entries

/-- What is at the path of the settings. A special file is read. -/
def settingsAt (entry : IO.FS.DirEntry) : IO Node := do
  match ← nodeAt entry with
  | .special _ _ =>
    let (content, refusal) ← contentAt entry.path.toString
    return .special content refusal
  | node => return node

/-- The beginnings of a path that end with one of its names, shortest first. -/
def beginnings (path : Path) : List Path :=
  let parts := Path.parts path
  ((List.range parts.length).map fun n =>
    ((parts.take (n + 1)).intersperse [Path.slash]).flatten).filter (· ≠ [])

/-- The tree in which the directory of a path refuses to look up names. -/
def bar (tree : FileTree) (path : Path) (error : FileError) : FileTree :=
  let above := (path.reverse.dropWhile (· ≠ Path.slash)).reverse
  match tree.find (if above = [] then [0x2E] else above) true with
  | .ok ⟨location, .directory entries access⟩ =>
    tree.setAt location (some (.directory entries { access with search := some error }))
  | _ => tree

/-- The tree with what the system has at a path, which is looked at with `look`. A directory is
entered without its contents unless `whole` holds. -/
def enter (look : IO.FS.DirEntry → IO Node) (whole : Bool) (tree : FileTree) (path : Path) :
    IO FileTree := do
  let asked : IO.FS.DirEntry := ⟨".", systemPath path⟩
  match ← asked.path.metadata.toBaseIO with
  | .error error =>
    match fileError error with
    | .notFound => return tree
    | .notADirectory => return tree
    | error => return bar tree path error
  | .ok _ =>
    let real ← IO.FS.realPath (systemPath path)
    let location := (Path.parts (treePath real.toString)).filter (· ≠ [])
    let entry : IO.FS.DirEntry := ⟨real.parent.getD real, real.fileName.getD ""⟩
    let below := tree.create (treePath real.toString) (.directory [])
    let tree ←
      if !whole && (← real.isDir) then pure below
      else pure (below.setAt location (some (← look entry)))
    if (tree.find path true).isOk then return tree
    else return tree.create path (.link (treePath real.toString))

/-- The tree with all that the system has at a path and on the way to it. -/
def load (look : IO.FS.DirEntry → IO Node) (tree : FileTree) (path : Path) : IO FileTree := do
  let mut tree := tree
  for beginning in beginnings path do
    tree ← enter look (beginning == path) tree beginning
  return tree

/-- The variables of the environment that count. -/
def environment : IO Environment := do
  let names := ["SQLAPPLY_LOG", "NO_COLOR", "CLICOLOR_FORCE", "XDG_CONFIG_HOME", "HOME"]
  let mut found : Environment := []
  for name in names do
    if let some value ← IO.getEnv name then
      found := found ++ [(name.toList, value.toList)]
  return found

/-- The time, as log lines show it. -/
def timeStamp : IO String := do
  let wall := Std.Time.WallTime.ofTimestamp (← Std.Time.Timestamp.now) .zero
  return (Std.Time.PlainDateTime.ofWallTime wall).format "uuuu-MM-dd'T'HH:mm:ss.SSSSSS'Z'"

end ScriptRunner.Snapshot

open ScriptRunner Snapshot in
/-- Run the program. -/
def main (words : List String) : IO UInt32 := do
  let invocation : Invocation :=
    { words := words.map String.toList
      environment := ← environment
      time := (← timeStamp).toList }
  let here ← IO.currentDir
  let mut tree : FileTree := { workingDirectory := (Path.parts (treePath here.toString)).drop 1 }
  tree := tree.create (treePath here.toString) (.directory [])
  if let some path := invocation.settingsPath? then
    tree ← load settingsAt tree path
  if let some path := invocation.scriptsPath? then
    tree ← load nodeAt tree path
  let transcript := invocation.run tree
  IO.print (String.ofList transcript.output)
  IO.eprint (String.ofList transcript.errors)
  return transcript.exitCode.toUInt32
