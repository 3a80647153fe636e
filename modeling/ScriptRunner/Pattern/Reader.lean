import ScriptRunner.Pattern.Expression
import ScriptRunner.Text.Alphanumeric

/-!
# Reading patterns

A pattern is read part by part. Groups are read to their closing parenthesis before what follows
them. Patterns stand in braces in a list with commas, so that they have no closing brace and no
comma: a count of repetitions is begun, but never closed.
-/

namespace ScriptRunner.Pattern

open Text

/-! ## Groups -/

/-- The letters of flags. -/
def flagLetters : List Char := ['i', 'm', 's', 'U', 'u', 'R', 'x']

/-- Read flags to the sign behind them. -/
def readFlags : (fuel : Nat) → Cursor → (read : List (Char × Extent)) → Result (Part Flags)
  | 0, c, _ => fail .flagsUnclosed c.here
  | fuel + 1, c, read =>
    match c.rest with
    | [] => fail .flagsUnclosed c.here
    | d :: _ =>
      if d = ':' ∨ d = ')' then
        match read.getLast? with
        | some ('-', extent) => fail .negationLast extent
        | _ => .ok (read.map Prod.fst, c)
      else if d ≠ '-' ∧ d ∉ flagLetters then fail .flagUnknown c.char
      else
        match read.lookup d with
        | some other =>
          .error
            { fault := if d = '-' then .negationRepeated else .flagRepeated
              extent := c.char
              other := some other }
        | none => readFlags fuel c.next (read ++ [(d, c.char)])

/-- A character that the name of a group may begin with. -/
def beginsGroupName (c : Char) : Bool := c == '_' || isAlphabetic c

/-- A character that the name of a group may go on with. -/
def continuesGroupName (c : Char) : Bool :=
  c == '_' || c == '.' || c == '[' || c == ']' || isAlphanumeric c

/-- The name of a group that a text begins with. -/
def groupName : Text → Text
  | [] => []
  | c :: rest => if beginsGroupName c then c :: rest.takeWhile continuesGroupName else []

/-- The cursor behind the name of a group and its closing sign. No two groups have the same
name. -/
def readName (c : Cursor) : Result Cursor :=
  let name := groupName c.rest
  let behind := c.drop name.length
  let extent := behind.since c.place
  match behind.rest with
  | [] => fail .nameUnclosed behind.here
  | '>' :: _ =>
    if name = [] then fail .nameEmpty extent
    else
      match c.names.lookup name with
      | some other => .error { fault := .nameRepeated, extent := extent, other := some other }
      | none => .ok { behind.next with names := c.names ++ [(name, extent)] }
  | _ => fail .nameCharacter behind.char

/-- What a parenthesis begins. -/
inductive Opening where
  | setting (extent : Extent) (flags : Flags)
  | group (flags : Flags)

/-- What begins a look at what is before or behind a place. -/
def lookAroundMarks : List Text := ["?=", "?!", "?<=", "?<!"].map String.toList

/-- What begins the name of a group. -/
def nameMarks : List Text := ["?P<", "?<"].map String.toList

/-- Read what begins with the parenthesis at the cursor. -/
def readOpening (c : Cursor) : Result (Part Opening) := do
  let parenthesis := c.char
  let inner := c.next.skip
  if let some mark := lookAroundMarks.find? (·.isPrefixOf inner.rest) then
    fail .lookAround ((inner.drop mark.length).since c.place)
  match nameMarks.find? (·.isPrefixOf inner.rest), inner.rest with
  | some mark, _ => .ok (.group [], ← readName (inner.drop mark.length))
  | none, '?' :: more =>
    if more = [] then fail .groupUnclosed parenthesis
    let (flags, behind) ← readFlags (more.length + 1) inner.next []
    if behind.rest.head? = some ':' then .ok (.group flags, behind.next)
    else if flags = [] then fail .nothingToRepeat inner.here
    else .ok (.setting (behind.next.since c.place) flags, behind.next)
  | none, _ => .ok (.group [], inner)

/-- The cursor where a flag of layout holds, if it is among some flags. -/
def Cursor.withFlags (c : Cursor) (flags : Flags) : Cursor :=
  { c with spaced := (setting? flags 'x').getD c.spaced }

/-! ## Repetitions -/

/-- Read decimal digits, with layout between them: the number that they write, if there are any. -/
def readCount : (fuel : Nat) → Cursor → Option Nat → Option Nat × Cursor
  | 0, c, count => (count, c)
  | fuel + 1, c, count =>
    match c.rest with
    | d :: _ =>
      if d.isDigit then readCount fuel c.nextPart (some (count.getD 0 * 10 + (d.toNat - 0x30)))
      else (count, c)
    | [] => (count, c)

/-- What is wrong with the count that the brace at the cursor begins. -/
def countError (c : Cursor) : PatternError :=
  let inner := c.nextPart
  let first := inner.drop (inner.rest.takeWhile isBlankChar).length
  let (count, behind) := readCount first.rest.length first none
  let last := behind.passAll isBlankChar
  let unclosed : PatternError := { fault := .countUnclosed, extent := last.since c.place }
  if last.rest = [] then unclosed
  else
    match count with
    | none => { fault := .countEmpty, extent := behind.since first.place }
    | some n =>
      if Nat.pow 2 32 ≤ n then { fault := .countTooLarge, extent := behind.since first.place }
      else unclosed

/-! ## Sequences -/

/-- What was read of a group: the alternatives that are complete, and the parts of the next one. -/
structure Draft where
  /-- Where the group begins. -/
  start : Place
  branches : List Expression := []
  /-- Where the next alternative begins. -/
  first : Place
  parts : List Expression := []

namespace Draft

/-- The parts of the next alternative as one expression, up to the cursor. -/
def branch (d : Draft) (c : Cursor) : Expression := .ofParts (c.since d.first) d.parts

/-- The draft with one more part. -/
def push (d : Draft) (part : Expression) : Draft := { d with parts := d.parts ++ [part] }

/-- The draft at the sign behind an alternative. -/
def alternative (d : Draft) (c : Cursor) : Draft :=
  { d with branches := d.branches ++ [d.branch c], first := c.next.place, parts := [] }

/-- All that was read, as one expression. -/
def whole (d : Draft) (c : Cursor) : Expression :=
  if d.branches = [] then d.branch c
  else .alternatives (c.since d.start) (d.branches ++ [d.branch c])

/-- Repeat the last part as the sign at the cursor says. -/
def repeatLast (d : Draft) (c : Cursor) : Result (Part Draft) :=
  match d.parts.getLast? with
  | none => fail .nothingToRepeat c.here
  | some last =>
    if !last.isRepeatable then fail .nothingToRepeat c.here
    else if c.rest.head? = some '{' then .error (countError c)
    else
      let behind := if c.next.rest.head? = some '?' then c.next.next else c.next
      let repeated := Expression.repetition (behind.since last.extent.start) last
      .ok ({ d with parts := d.parts.dropLast ++ [repeated] }, behind)

end Draft

/-- The atom at the cursor. -/
def readAtom (c : Cursor) : Result (Part PlacedAtom) :=
  match c.rest with
  | '\\' :: _ => readEscape c
  | '.' :: _ => .ok (⟨c.char, .anyChar⟩, c.next)
  | '^' :: _ | '$' :: _ => .ok (⟨c.char, .condition false⟩, c.next)
  | _ => .ok (verbatim c, c.next)

/-- Read parts of a group up to its closing parenthesis, or to the end of the pattern. -/
def readParts : (fuel : Nat) → Cursor → Draft → Result (Part Expression)
  | 0, c, d => .ok (d.whole c, c)
  | fuel + 1, c, d =>
    let c := c.skip
    match c.rest with
    | [] | ')' :: _ => .ok (d.whole c, c)
    | '|' :: _ => readParts fuel c.next (d.alternative c)
    | '[' :: _ => do
      let (part, behind) ← readSet c
      readParts fuel behind (d.push (.set part))
    | '?' :: _ | '*' :: _ | '+' :: _ | '{' :: _ => do
      let (d, behind) ← d.repeatLast c
      readParts fuel behind d
    | '(' :: _ => do
      match ← readOpening c with
      | (.setting extent flags, behind) =>
        readParts fuel (behind.withFlags flags) (d.push (.setting extent flags))
      | (.group flags, inner) =>
        let draft : Draft := { start := inner.place, first := inner.place }
        let (body, behind) ← readParts fuel (inner.withFlags flags) draft
        if behind.rest = [] then fail .groupUnclosed c.char
        let behind := { behind.next with spaced := c.spaced }
        readParts fuel behind (d.push (.group (behind.since c.place) flags body))
    | _ => do
      let (atom, behind) ← readAtom c
      readParts fuel behind (d.push (.atom atom))

/-- Read a pattern. -/
def read (pattern : Text) : Result Expression := do
  let start : Cursor := { rest := pattern }
  let (e, behind) ←
    readParts (pattern.length + 1) start { start := start.place, first := start.place }
  if behind.rest ≠ [] then fail .groupUnopened behind.char
  e.checkDepth 0
  .ok e

end ScriptRunner.Pattern
