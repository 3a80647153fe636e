import ScriptRunner.Pattern.CharacterSet

/-!
# Patterns

A pattern is built of atoms and sets, which are repeated, put one behind another and given as
alternatives. Groups and single settings change the flags of what they hold or of what follows.
-/

namespace ScriptRunner.Pattern

open Text

/-- The letters of flags as they are written, with a hyphen in front of those that are turned
off. -/
abbrev Flags := List Char

/-- Whether a flag is turned on or off. -/
def setting? (flags : Flags) (flag : Char) : Option Bool :=
  if flag ∈ flags.takeWhile (· ≠ '-') then some true
  else if flag ∈ flags then some false
  else none

/-- What a pattern says. -/
inductive Expression where
  | empty (extent : Extent)
  /-- A change of flags for what follows in the same group. -/
  | setting (extent : Extent) (flags : Flags)
  | atom (atom : PlacedAtom)
  | set (part : SetPart)
  | repetition (extent : Extent) (body : Expression)
  /-- A group, in which other flags may hold. -/
  | group (extent : Extent) (flags : Flags) (body : Expression)
  | alternatives (extent : Extent) (branches : List Expression)
  | sequence (extent : Extent) (parts : List Expression)
  deriving Repr

namespace Expression

/-- Where an expression stands. -/
def extent : Expression → Extent
  | empty e => e
  | setting e _ => e
  | atom a => a.extent
  | set p => p.extent
  | repetition e _ => e
  | group e _ _ => e
  | alternatives e _ => e
  | sequence e _ => e

/-- The parts of an extent as one expression. -/
def ofParts (extent : Extent) : List Expression → Expression
  | [] => empty extent
  | [part] => part
  | parts => sequence extent parts

/-- Whether an expression can be repeated. -/
def isRepeatable : Expression → Bool
  | empty _ | setting _ _ => false
  | _ => true

end Expression

/-! ## Depth -/

/-- The depth inside an expression at an extent that stands at a depth. -/
def deeper (depth : Nat) (extent : Extent) : Result Nat :=
  if maxDepth < depth + 1 then fail .tooDeep extent else .ok (depth + 1)

mutual

/-- Check that a part of a set is not nested too deeply. -/
def SetPart.checkDepth (depth : Nat) : SetPart → Result Unit
  | .bracket e _ inner => do inner.checkDepth (← deeper depth e)
  | .union e parts => do checkDepths (← deeper depth e) parts
  | .combined e _ left right => do
    let depth ← deeper depth e
    left.checkDepth depth
    right.checkDepth depth
  | _ => .ok ()

/-- Check the same for several parts. -/
def checkDepths (depth : Nat) : List SetPart → Result Unit
  | [] => .ok ()
  | part :: rest => do
    part.checkDepth depth
    checkDepths depth rest

end

mutual

/-- Check that an expression is not nested too deeply. -/
def Expression.checkDepth (depth : Nat) : Expression → Result Unit
  | .empty _ | .setting _ _ | .atom _ => .ok ()
  | .set part => part.checkDepth depth
  | .repetition e body => do body.checkDepth (← deeper depth e)
  | .group e _ body => do body.checkDepth (← deeper depth e)
  | .alternatives e branches => do checkAllDepths (← deeper depth e) branches
  | .sequence e parts => do checkAllDepths (← deeper depth e) parts

/-- Check the same for several expressions. -/
def checkAllDepths (depth : Nat) : List Expression → Result Unit
  | [] => .ok ()
  | e :: rest => do
    e.checkDepth depth
    checkAllDepths depth rest

end

end ScriptRunner.Pattern
