import ScriptRunner.Pattern.Escape

/-!
# Sets of characters in patterns

A set stands in square brackets. It has characters, ranges, short forms, named sets and other sets,
one behind another, and may be combined with what follows by a doubled sign. Combinations group from
the left.
-/

namespace ScriptRunner.Pattern

open Text

/-- How two sets are combined. -/
inductive Combination where
  | intersection
  | difference
  | symmetricDifference
  deriving DecidableEq, Repr

/-- A part of a set. -/
inductive SetPart where
  | empty (extent : Extent)
  | atom (atom : PlacedAtom)
  | range (extent : Extent) (first last : PlacedAtom)
  /-- A set with a name, or the opposite of it. -/
  | named (extent : Extent) (negated : Bool)
  /-- A set in brackets, or the opposite of it. -/
  | bracket (extent : Extent) (negated : Bool) (inner : SetPart)
  | union (extent : Extent) (parts : List SetPart)
  | combined (extent : Extent) (combination : Combination) (left right : SetPart)
  deriving Repr

/-- Where a part of a set stands. -/
def SetPart.extent : SetPart → Extent
  | empty e => e
  | atom a => a.extent
  | range e _ _ => e
  | named e _ => e
  | bracket e _ _ => e
  | union e _ => e
  | combined e _ _ _ => e

/-- The names that sets can have. -/
def setNames : List Text :=
  ["alnum", "alpha", "ascii", "blank", "cntrl", "digit", "graph", "lower", "print", "punct", "space",
    "upper", "word", "xdigit"].map String.toList

/-- Read the name of a set, if one stands between the bracket at the cursor and the next one. -/
def namedSet? (c : Cursor) : Option (SetPart × Cursor) :=
  match c.rest with
  | '[' :: ':' :: more =>
    let negated := more.head? = some '^'
    let name := (if negated then more.tail else more).takeWhile (· ≠ ':')
    let length := 2 + (if negated then 1 else 0) + name.length
    if name ∈ setNames ∧ [':', ']'].isPrefixOf (c.rest.drop length) then
      let behind := c.drop (length + 2)
      some (.named (behind.since c.place) negated, behind)
    else none
  | _ => none

/-- A set whose closing bracket was not met yet. -/
structure OpenSet where
  /-- What stands before the first part that needs no special care. -/
  opening : Extent
  negated : Bool
  /-- What is to be combined with the parts. -/
  left : Option (SetPart × Combination) := none
  /-- Where the parts begin. -/
  first : Extent
  parts : List SetPart := []

namespace OpenSet

/-- The set with one more part. -/
def push (s : OpenSet) (part : SetPart) : OpenSet := { s with parts := s.parts ++ [part] }

/-- The parts as one. -/
def union (s : OpenSet) : SetPart :=
  match s.parts, s.parts.getLast? with
  | [part], _ => part
  | first :: _, some last => .union ⟨first.extent.start, last.extent.stop⟩ s.parts
  | _, _ => .empty s.first

/-- All that was read, as one. -/
def whole (s : OpenSet) : SetPart :=
  match s.left with
  | none => s.union
  | some (left, combination) =>
    .combined ⟨left.extent.start, s.union.extent.stop⟩ combination left s.union

/-- The set with all that was read to the left of a combination. -/
def combine (s : OpenSet) (combination : Combination) (c : Cursor) : OpenSet :=
  { s with left := some (s.whole, combination), first := c.here, parts := [] }

/-- The set when its closing bracket is behind it. -/
def close (s : OpenSet) (c : Cursor) : SetPart :=
  .bracket (c.since s.opening.start) s.negated s.whole

end OpenSet

/-- The character at the cursor, as an atom. -/
def verbatim (c : Cursor) : PlacedAtom := ⟨c.char, .literal (c.rest.headD ' ') false⟩

/-- Read the hyphens that a set begins with, which stand for themselves. -/
def readHyphens (start : Place) : (fuel : Nat) → Cursor → OpenSet → Result (Part OpenSet)
  | 0, c, s => .ok (s, c)
  | fuel + 1, c, s =>
    if c.rest.head? = some '-' then
      if c.nextPart.rest = [] then fail .setUnclosed ⟨start, start⟩
      else readHyphens start fuel c.nextPart (s.push (.atom (verbatim c)))
    else .ok (s, c)

/-- Read the beginning of a set: its bracket, the sign for the opposite, and hyphens. A closing
bracket that comes first stands for itself. -/
def openSet (c : Cursor) : Result (Part OpenSet) := do
  let start := c.place
  let c := c.nextPart
  if c.rest = [] then fail .setUnclosed (c.since start)
  let negated : Bool := c.rest.head? = some '^'
  let c := if negated then c.nextPart else c
  if c.rest = [] then fail .setUnclosed (c.since start)
  let s : OpenSet := { opening := c.here, negated := negated, first := c.here }
  let (s, c) ← readHyphens start c.rest.length c s
  let closing : Bool := s.parts.isEmpty && c.rest.head? = some ']'
  let s := if closing then s.push (.atom (verbatim c)) else s
  let c := if closing then c.nextPart else c
  if c.rest = [] then fail .setUnclosed (c.since start)
  .ok ({ s with opening := c.since start }, c)

/-- Read a character or an escape. -/
def readSetAtom (c : Cursor) : Result (Part PlacedAtom) :=
  if c.rest.head? = some '\\' then readEscape c else .ok (verbatim c, c.next)

/-- An atom as a part of a set. -/
def setPart (a : PlacedAtom) : Result SetPart :=
  match a.atom with
  | .condition _ | .anyChar => fail .setEscape a.extent
  | _ => .ok (.atom a)

/-- The character that an atom stands for as a bound of a range. -/
def bound (a : PlacedAtom) : Result Char :=
  match a.atom with
  | .literal c _ => .ok c
  | _ => fail .rangeBound a.extent

/-- Read an atom, or a range of which it is the first character. -/
def readSetPart (opening : Extent) (c : Cursor) : Result (Part SetPart) := do
  let (first, c) ← readSetAtom c
  let c := c.skip
  if c.rest = [] then fail .setUnclosed opening
  if c.rest.head? ≠ some '-' ∨ c.peekPart ∈ [some ']', some '-'] then
    .ok (← setPart first, c)
  else
    let c := c.nextPart
    if c.rest = [] then fail .setUnclosed opening
    let (last, c) ← readSetAtom c
    let extent : Extent := ⟨first.extent.start, last.extent.stop⟩
    let lower ← bound first
    let upper ← bound last
    if upper < lower then fail .rangeReversed extent
    .ok (.range extent first last, c)

/-- The combination that a text begins with. -/
def combination? : Text → Option Combination
  | '&' :: '&' :: _ => some .intersection
  | '-' :: '-' :: _ => some .difference
  | '~' :: '~' :: _ => some .symmetricDifference
  | _ => none

/-- Read a set to its closing bracket. -/
def readSetParts : (fuel : Nat) → Cursor → OpenSet → Result (Part SetPart)
  | 0, _, s => fail .setUnclosed s.opening
  | fuel + 1, c, s =>
    let c := c.skip
    match c.rest, combination? c.rest with
    | [], _ => fail .setUnclosed s.opening
    | '[' :: _, _ =>
      match namedSet? c with
      | some (part, c) => readSetParts fuel c (s.push part)
      | none => do
        let (inner, c) ← openSet c
        let (part, c) ← readSetParts fuel c inner
        readSetParts fuel c (s.push part)
    | ']' :: _, _ => .ok (s.close c.next, c.next)
    | _, some combination =>
      let c := c.drop 2
      readSetParts fuel c (s.combine combination c)
    | _, none => do
      let (part, c) ← readSetPart s.opening c
      readSetParts fuel c (s.push part)

/-- Read the set whose bracket is at the cursor. -/
def readSet (c : Cursor) : Result (Part SetPart) := do
  let fuel := c.rest.length + 1
  let (s, c) ← openSet c
  readSetParts fuel c s

end ScriptRunner.Pattern
