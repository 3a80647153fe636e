import ScriptRunner.Decimal.Written
import ScriptRunner.Log.Directive
import ScriptRunner.Pattern.Meaning
import ScriptRunner.Text.Alphanumeric
import ScriptRunner.Text.Blank
import ScriptRunner.Text.Search
import ScriptRunner.Text.Utf8

/-!
# Reading filter directives

A directive has one of the forms

    level
    target                      everything from this target
    target=level
    target[span]=level
    target[span{field=value}]=level

in which the target, the span, the field, its value and the level may be left out in turn. Reading
goes from character to character, over the text without white space at its ends. Positions are
byte positions, and the parts are taken from the text with that white space.
-/

namespace ScriptRunner.Log

open Text Decimal

/-- Why a text is no directive. -/
inductive DirectiveError where
  | malformed
  | unknownLevel
  /-- The pattern for the value of a field cannot be matched. -/
  | pattern (refusal : Pattern.Refusal)
  deriving DecidableEq, Repr

/-- The wording of an error. -/
def DirectiveError.message : DirectiveError → Text
  | malformed => "invalid filter directive"
  | unknownLevel =>
    "error parsing level filter: expected one of \"off\", \"error\", \"warn\", \"info\", "
      ++ "\"debug\", \"trace\", or a number 0-5"
  | pattern refusal => "invalid field filter: " ++ refusal.message

/-- The wording of the error and of what lies behind it. -/
def DirectiveError.causes : DirectiveError → List Text
  | malformed => [malformed.message]
  | unknownLevel => [unknownLevel.message, unknownLevel.message]
  | pattern refusal => (pattern refusal).message :: refusal.message :: refusal.causes

/-- The number that is written in digits, perhaps with a plus sign. -/
def readNatural? (s : Text) : Option Nat :=
  let digits := if s.head? = some '+' then s.tail else s
  if digits ≠ [] ∧ digits.all Char.isDigit then
    some (digits.foldl (fun n c => n * 10 + (c.toNat - '0'.toNat)) 0)
  else none

/-- The threshold that is written as a number or a name. An empty text names the first level. -/
def Threshold.ofText? (s : Text) : Option Threshold :=
  match (readNatural? s).bind fun n => Threshold.all[n]? with
  | some t => some t
  | none =>
    if s = [] then some (.upTo .error)
    else Threshold.all.find? fun t => t.name == s.map Char.toLower

/-- The integer below zero that is written as a minus sign and digits, if it fits 64 bits. -/
def readNegative? : Text → Option Int
  | '-' :: digits =>
    if digits.head? = some '+' then none
    else (readNatural? digits).bind fun n => if n ≤ Nat.pow 2 63 then some (-n) else none
  | _ => none

/-- The number in double precision that is written as a decimal number or as a name. Either the
whole digits or the fraction may be left out, but not both. -/
def readDecimal? (s : Text) : Option FieldValue :=
  let body := dropSign s
  let name := body.map Char.toLower
  let w := Written.ofText body
  let digits (s : Text) : Bool := s.all Char.isDigit
  if name = "nan".toList then some .notANumber
  else if name = "inf".toList ∨ name = "infinity".toList then
    some (.decimal (isNegative s) .infinite)
  else if digits w.whole ∧ w.fraction.all digits ∧ w.whole ++ w.fraction.getD [] ≠ []
      ∧ w.exponent.all (fun e => digits (dropSign e) && dropSign e ≠ []) then
    some (.decimal (isNegative s) (Double.ofScientific w.number))
  else none

/-- The value that a text stands for: the first kind whose form it has. Any text has the form of a
pattern, but not every pattern can be matched. -/
def FieldValue.ofText (s : Text) : Except DirectiveError FieldValue :=
  if s = "true".toList then .ok (.boolean true)
  else if s = "false".toList then .ok (.boolean false)
  else
    let natural := ((readNatural? s).filter (· < Nat.pow 2 64)).map FieldValue.natural
    let integer := (readNegative? s).map FieldValue.integer
    match (natural.or integer).or (readDecimal? s) with
    | some value => .ok value
    | none =>
      match Pattern.refusal? s with
      | none => .ok (.pattern s)
      | some refusal => .error (.pattern refusal)

/-- The field that a text stands for. -/
def FieldMatch.ofText (s : Text) : Except DirectiveError FieldMatch :=
  match splitOnChar '=' s with
  | name :: value :: _ => (FieldValue.ofText value).map fun v => ⟨name, some v⟩
  | name :: [] => .ok ⟨name, none⟩
  | [] => .ok ⟨[], none⟩

namespace Directive

/-- The part that is being read, with the position it starts at. -/
inductive Part where
  | start
  | levelOrTarget (start : Nat)
  | span (start : Nat)
  | field (start : Nat)
  | afterFields
  | afterSpan
  | level (start : Nat)

/-- What was read of a directive. -/
structure Draft where
  directive : Directive := { threshold := .upTo .trace }
  part : Part := .start

/-- The part of a text between two byte positions. -/
def slice (whole : Bytes) (start stop : Nat) : Except DirectiveError Text :=
  match decode? ((whole.take stop).drop start) with
  | some text => .ok text
  | none => .error .malformed

/-- The threshold at the end of a directive. -/
def readLevel (s : Text) : Except DirectiveError Threshold :=
  if s = [] then .ok (.upTo .trace)
  else
    match Threshold.ofText? s with
    | some t => .ok t
    | none => .error .unknownLevel

/-- A character that a level or a target may begin with. -/
def beginsName (c : Char) : Bool := c == '-' || c == ':' || c == '_' || isAlphanumeric c

/-- Read the character `c` at byte position `i`. -/
def step (whole : Bytes) (draft : Draft) (i : Nat) (c : Char) : Except DirectiveError Draft := do
  let d := draft.directive
  match draft.part with
  | .start =>
    if c = '[' then .ok { draft with part := .span (i + 1) }
    else if beginsName c then .ok { draft with part := .levelOrTarget i }
    else .error .malformed
  | .levelOrTarget start =>
    if c = '=' then
      .ok ⟨{ d with target := some (← slice whole start i) }, .level (i + 1)⟩
    else if c = '[' then
      .ok ⟨{ d with target := some (← slice whole start i) }, .span (i + 1)⟩
    else .ok draft
  | .span start =>
    if c = ']' then .ok ⟨{ d with span := some (← slice whole start i) }, .afterSpan⟩
    else if c = '{' then
      let name ← slice whole start i
      .ok ⟨{ d with span := if name = [] then none else some name }, .field (i + 1)⟩
    else .ok draft
  | .field start =>
    if c = '}' then
      let name ← slice whole start i
      if name = [] then .error .malformed
      else
        let field ← FieldMatch.ofText name
        .ok ⟨{ d with fields := d.fields ++ [field] }, .afterFields⟩
    else .ok draft
  | .afterFields => if c = ']' then .ok { draft with part := .afterSpan } else .error .malformed
  | .afterSpan => if c = '=' then .ok { draft with part := .level (i + 1) } else .error .malformed
  | .level _ => .ok draft

/-- Read characters from byte position `i` on. -/
def steps (whole : Bytes) (draft : Draft) (i : Nat) : Text → Except DirectiveError Draft
  | [] => .ok draft
  | c :: rest => do
    let draft ← step whole draft i c
    steps whole draft (i + (String.utf8EncodeChar c).length) rest

/-- The directive that a draft stands for at the end of the text. -/
def conclude (whole : Bytes) (draft : Draft) : Except DirectiveError Directive := do
  let d := draft.directive
  match draft.part with
  | .levelOrTarget start =>
    let name ← slice whole start whole.length
    match Threshold.ofText? name with
    | some t => .ok { d with threshold := t }
    | none => .ok { d with target := some name }
  | .level start => .ok { d with threshold := ← readLevel (← slice whole start whole.length) }
  | .afterSpan => .ok d
  | _ => .error .malformed

/-- Read a directive. -/
def read (s : Text) : Except DirectiveError Directive := do
  let whole := encode s
  conclude whole (← steps whole {} 0 (trim s))

end Directive

end ScriptRunner.Log
