import ScriptRunner.Text.Blank

/-!
# Places in a pattern

Where something stands in a pattern: how many characters are before it, and its line and its column.
A `Cursor` is a place with the text behind it. In a pattern that is *spaced*, blanks and comments
between the parts do not count; a comment runs from a number sign to the end of its line.
-/

namespace ScriptRunner.Pattern

open Text

/-- A place in a pattern. Lines and columns are counted from one. -/
structure Place where
  offset : Nat := 0
  line : Nat := 1
  column : Nat := 1
  deriving DecidableEq, Repr

/-- The place behind a character. -/
def Place.behind (p : Place) (c : Char) : Place :=
  if c = '\n' then ⟨p.offset + 1, p.line + 1, 1⟩ else ⟨p.offset + 1, p.line, p.column + 1⟩

/-- What stands between two places. -/
structure Extent where
  start : Place
  stop : Place
  deriving DecidableEq, Repr

/-- Whether an extent stays in one line. -/
def Extent.isInLine (e : Extent) : Bool := e.start.line == e.stop.line

/-- A place in a pattern with the text behind it. -/
structure Cursor where
  rest : Text
  place : Place := {}
  spaced : Bool := false
  /-- The names that were given to groups so far. -/
  names : List (Text × Extent) := []
  deriving DecidableEq, Repr

/-- The number of blanks, and of characters in comments, that a text begins with. -/
def layout (inComment : Bool) : Text → Nat
  | [] => 0
  | c :: rest =>
    if inComment then layout (c ≠ '\n') rest + 1
    else if isBlankChar c then layout false rest + 1
    else if c = '#' then layout true rest + 1
    else 0

namespace Cursor

/-- The cursor behind some more characters. -/
def drop (c : Cursor) (n : Nat) : Cursor :=
  { c with rest := c.rest.drop n, place := (c.rest.take n).foldl Place.behind c.place }

/-- The cursor behind the next character. -/
def next (c : Cursor) : Cursor := c.drop 1

/-- The cursor at the next part. -/
def skip (c : Cursor) : Cursor := if c.spaced then c.drop (layout false c.rest) else c

/-- The cursor at the part behind the next character. -/
def nextPart (c : Cursor) : Cursor := c.next.skip

/-- The cursor behind all characters with a property, where layout may stand between them. -/
def pass (p : Char → Bool) : (fuel : Nat) → Cursor → Cursor
  | 0, c => c
  | fuel + 1, c => if c.rest.head?.any p then pass p fuel c.nextPart else c

/-- The cursor behind all characters with a property. -/
def passAll (p : Char → Bool) (c : Cursor) : Cursor := c.pass p c.rest.length

/-- The extent of nothing, at the cursor. -/
def here (c : Cursor) : Extent := ⟨c.place, c.place⟩

/-- The extent of the next character. -/
def char (c : Cursor) : Extent := ⟨c.place, c.next.place⟩

/-- The extent from a place to the cursor. -/
def since (c : Cursor) (start : Place) : Extent := ⟨start, c.place⟩

/-- The character behind the next one, or behind layout that follows that one. Of a comment only the
sign that begins it is passed over, and if nothing follows the layout, none of it is. -/
def peekPart (c : Cursor) : Option Char :=
  let rest := c.rest.drop 1
  if c.spaced then
    let found :=
      match rest.dropWhile isBlankChar with
      | '#' :: more => more.dropWhile isBlankChar
      | found => found
    found.head?.or rest.head?
  else rest.head?

end Cursor

end ScriptRunner.Pattern
