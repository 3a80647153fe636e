import ScriptRunner.Pattern.Error
import ScriptRunner.Text.Digit

/-!
# Escapes in patterns

A backslash takes the special meaning from a sign, gives one to a letter, or begins the number of a
character. Patterns stand in braces, so that they have no closing brace: whatever a brace opens in
them is never closed.
-/

namespace ScriptRunner.Pattern

open Text

/-- The smallest parts of a pattern. -/
inductive Atom where
  /-- A character. It may be written as the number of a byte. -/
  | literal (char : Char) (asByte : Bool)
  /-- Any character. -/
  | anyChar
  /-- A condition on the place, which may be about the words around it. -/
  | condition (onWords : Bool)
  /-- One of the short forms for digits, blanks and words, or the opposite of it. -/
  | shorthand (negated : Bool)
  /-- The characters with a property. -/
  | property
  deriving DecidableEq, Repr

/-- An atom and where it stands. -/
structure PlacedAtom where
  extent : Extent
  atom : Atom
  deriving DecidableEq, Repr

/-- What comes of a pattern: a value, or an error in the pattern. -/
abbrev Result := Except PatternError

/-- A part of a pattern that was read, and the cursor behind it. -/
abbrev Part (α : Type) := α × Cursor

/-- An error at an extent. -/
def fail {α : Type} (fault : Fault) (extent : Extent) : Result α :=
  .error { fault := fault, extent := extent }

/-- The number that so many hexadecimal digits write, behind the digits of `value`. -/
def readDigits : (count : Nat) → Cursor → (value : Nat) → Result (Part Nat)
  | 0, c, value => .ok (value, c)
  | count + 1, c, value =>
    match c.rest with
    | [] => fail .escapeUnfinished c.here
    | d :: _ =>
      match hexValue? d with
      | none => fail .hexDigit c.char
      | some digit => readDigits count c.nextPart (value * 16 + digit)

/-- The character whose number is written in so many digits behind the letter at the cursor. The
escape starts at `start`. -/
def readNumber (start : Place) (count : Nat) (c : Cursor) : Result (Part PlacedAtom) := do
  let c := c.nextPart
  match c.rest with
  | [] => fail .escapeUnfinished c.here
  | '{' :: _ =>
    let behind := c.nextPart.passAll fun d => (hexValue? d).isSome
    if behind.rest = [] then fail .escapeUnfinished (behind.since c.place)
    else fail .hexDigit behind.char
  | _ =>
    let (value, behind) ← readDigits count c 0
    if value.isValidChar then
      .ok (⟨behind.since start, .literal (Char.ofNat value) (count == 2)⟩, behind)
    else fail .hexNumber (behind.since c.place)

/-- The property whose name is behind the letter at the cursor. -/
def readProperty (start : Place) (c : Cursor) : Result (Part PlacedAtom) :=
  let c := c.nextPart
  match c.rest with
  | [] => fail .escapeUnfinished c.here
  | '{' :: _ => fail .escapeUnfinished (c.drop c.rest.length).here
  | '\\' :: _ => fail .propertyName c.char
  | _ => .ok (⟨c.nextPart.since start, .property⟩, c.nextPart)

/-- A character of the name of a condition. -/
def isConditionName (c : Char) : Bool := c.isAlpha || c == '-'

/-- The boundary of a word, with the cursor behind its letter. What a brace opens there is the name
of a condition if it begins like one, or else a count. -/
def readBoundary (start : Place) (c : Cursor) : Result (Part PlacedAtom) :=
  let boundary : PlacedAtom := ⟨c.since start, .condition true⟩
  if c.rest.head? = some '{' then
    let inner := c.nextPart
    match inner.rest with
    | [] => fail .boundaryOrCountUnclosed (inner.since start)
    | d :: _ =>
      if isConditionName d then
        fail .boundaryUnclosed ((inner.passAll isConditionName).since c.place)
      else .ok (boundary, c)
  else .ok (boundary, c)

/-- What a letter stands for that a backslash makes a character. -/
def letterEscape? (c : Char) : Option Char :=
  [('a', '\x07'), ('f', '\x0c'), ('t', '\t'), ('n', '\n'), ('r', '\r'), ('v', '\x0b')].lookup c

/-- A sign that stands for itself behind a backslash. -/
def isPlainEscape (c : Char) : Bool :=
  decide (c.toNat < 0x80) && !c.isAlphanum && c != '<' && c != '>'

/-- The number of digits behind a letter that begins the number of a character. -/
def numberLength? (c : Char) : Option Nat := [('x', 2), ('u', 4), ('U', 8)].lookup c

/-- Read what begins with the backslash at the cursor. -/
def readEscape (c : Cursor) : Result (Part PlacedAtom) :=
  let start := c.place
  let c := c.next
  match c.rest with
  | [] => fail .escapeUnfinished (c.since start)
  | d :: _ =>
    let extent := c.next.since start
    let placed (atom : Atom) : Result (Part PlacedAtom) := .ok (⟨extent, atom⟩, c.next)
    match numberLength? d, letterEscape? d with
    | some count, _ => readNumber start count c
    | none, some char => placed (.literal char false)
    | none, none =>
      if d.isDigit then fail .backreference extent
      else if d = 'p' ∨ d = 'P' then readProperty start c
      else if d ∈ ['d', 's', 'w'] then placed (.shorthand false)
      else if d ∈ ['D', 'S', 'W'] then placed (.shorthand true)
      else if d ∈ ['A', 'z'] then placed (.condition false)
      else if d ∈ ['B', '<', '>'] then placed (.condition true)
      else if d = 'b' then readBoundary start c.next
      else if isPlainEscape d then placed (.literal d false)
      else fail .escapeUnknown extent

end ScriptRunner.Pattern
