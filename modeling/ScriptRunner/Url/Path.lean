import ScriptRunner.Text.Search
import ScriptRunner.Url.Percent

/-!
# Paths of URLs

A path is a list of segments. A segment of one dot stands for nothing, and one of two dots takes
back the segment before it, unless that one is written like the letter of a drive. A dot may be
written in its encoded form.
-/

namespace ScriptRunner.Url

open Text

/-- A segment with encoded dots decoded. -/
def plainDots : Text → Text
  | '%' :: '2' :: 'e' :: rest => '.' :: plainDots rest
  | '%' :: '2' :: 'E' :: rest => '.' :: plainDots rest
  | [] => []
  | c :: rest => c :: plainDots rest

/-- Whether a segment is a letter and a colon or a bar. -/
def isDrive : Text → Bool
  | [c, d] => c.isAlpha && (d == ':' || d == '|')
  | _ => false

/-- Whether a segment is a drive, or begins with one and a backslash. -/
def beginsWithDrive (segment : Text) : Bool :=
  isDrive (segment.take 2) && (segment.drop 2).head?.all (· == '\\')

/-- The segments without the last one. One that begins with a drive stays. -/
def takeBack (segments : List Text) : List Text :=
  match segments.getLast? with
  | none => []
  | some last => if beginsWithDrive last then segments else segments.dropLast

/-- Put segments behind others. A dot segment at the end leaves an empty segment. -/
def addSegments (done : List Text) : List Text → List Text
  | [] => done
  | segment :: rest =>
    let dots := plainDots segment
    if dots = ['.', '.'] then
      if rest = [] then takeBack done ++ [[]] else addSegments (takeBack done) rest
    else if dots = ['.'] then
      if rest = [] then done ++ [[]] else addSegments done rest
    else addSegments (done ++ [segment]) rest

/-- The path of the given segments, each behind a slash. -/
def pathText (segments : List Text) : Text := segments.flatMap ('/' :: ·)

/-- The path that is written as `s` behind its first slash. Where `special` holds, a backslash is as
good as a slash. -/
def readPath (special : Bool) (s : Text) : Text :=
  let s := if special then s.map fun c => if c = '\\' then '/' else c else s
  pathText (addSegments [] ((splitOnChar '/' s).map (percentEncode pathMarks)))

end ScriptRunner.Url
