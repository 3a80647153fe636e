import ScriptRunner.Pattern.Reader

/-!
# What patterns mean

A pattern is read with the tables of Unicode left out. So it has no meaning where it needs them: for
properties, for the short forms of digits, blanks and words, and for letters in either case, unless
they are restricted to ASCII. And it has none where it would match a part of a character. A boundary
of a word that is not restricted to ASCII has a meaning, but not one that can be matched in a single
pass.
-/

namespace ScriptRunner.Pattern

open Text

/-- The flags that the meaning of a pattern depends on. -/
structure Modes where
  /-- Whether letters stand for both cases. -/
  caseless : Bool := false
  /-- Whether characters are meant, and not only those of ASCII. -/
  unicode : Bool := true
  deriving DecidableEq, Repr

/-- The modes with some flags set. -/
def Modes.set (m : Modes) (flags : Flags) : Modes where
  caseless := (setting? flags 'i').getD m.caseless
  unicode := (setting? flags 'u').getD m.unicode

/-- Whether the case of letters would have to be looked up. -/
def Modes.needsCases (m : Modes) : Bool := m.caseless && m.unicode

/-- Check that an atom has a meaning. -/
def PlacedAtom.check (m : Modes) (a : PlacedAtom) : Result Unit :=
  match a.atom, m.unicode with
  | .literal _ _, true => if m.caseless then fail .caseUnknown a.extent else .ok ()
  | .literal c asByte, false =>
    if asByte ∧ 0x80 ≤ c.toNat then fail .invalidText a.extent else .ok ()
  | .anyChar, unicode => if unicode then .ok () else fail .invalidText a.extent
  | .condition _, _ => .ok ()
  | .shorthand _, true => fail .unknownShorthand a.extent
  | .shorthand negated, false => if negated then fail .invalidText a.extent else .ok ()
  | .property, unicode => fail (if unicode then .unknownProperty else .unicodeForbidden) a.extent

/-! ## Sets -/

/-- What is known of the characters of a set. -/
inductive Content where
  | nothing
  | everything
  | something
  deriving DecidableEq, Repr

namespace Content

/-- The characters of two sets together. -/
def union : Content → Content → Content
  | nothing, c | c, nothing => c
  | everything, everything => everything
  | _, _ => something

/-- The characters that a set does not have. -/
def complement : Content → Content
  | nothing => everything
  | everything => nothing
  | something => something

/-- The characters of a combination of two sets. -/
def combine : Combination → Content → Content → Content
  | .intersection, everything, c | .intersection, c, everything => c
  | .intersection, nothing, _ | .intersection, _, nothing => nothing
  | .difference, c, nothing => c
  | .difference, nothing, _ | .difference, _, everything => nothing
  | .difference, everything, c => c.complement
  | .symmetricDifference, nothing, c | .symmetricDifference, c, nothing => c
  | .symmetricDifference, everything, c | .symmetricDifference, c, everything => c.complement
  | _, something, something => something

/-- Check that the characters of a set are known in both cases. -/
def checkCases (m : Modes) (extent : Extent) (c : Content) : Result Unit :=
  if m.needsCases ∧ c = something then fail .caseUnknown extent else .ok ()

/-- The characters of a set or of its opposite. Outside ASCII the opposite of a set would have parts
of characters. -/
def signed (m : Modes) (extent : Extent) (negated : Bool) (c : Content) :
    Result Content := do
  c.checkCases m extent
  if negated then
    if m.unicode then .ok c.complement else fail .invalidText extent
  else .ok c

end Content

/-- Check that a character in a set has a meaning there. Without Unicode it must be in ASCII. -/
def PlacedAtom.checkInSet (m : Modes) (a : PlacedAtom) : Result Unit :=
  match a.atom, m.unicode with
  | .literal _ _, true => .ok ()
  | .literal c asByte, false =>
    if c.toNat < 0x80 then .ok ()
    else fail (if asByte then .invalidText else .unicodeForbidden) a.extent
  | _, _ => a.check m

mutual

/-- What the characters of a part of a set are. -/
def SetPart.content (m : Modes) : SetPart → Result Content
  | .empty _ => .ok .nothing
  | .atom a => do
    a.checkInSet m
    .ok .something
  | .range _ first last => do
    first.checkInSet m
    last.checkInSet m
    .ok .something
  | .named e negated => Content.something.signed m e negated
  | .bracket e negated inner => do (← inner.content m).signed m e negated
  | .union _ parts => contents m .nothing parts
  | .combined _ combination left right => do
    let l ← left.content m
    let r ← right.content m
    r.checkCases m right.extent
    l.checkCases m left.extent
    .ok (l.combine combination r)

/-- What the characters of several parts are, together with others. -/
def contents (m : Modes) (others : Content) : List SetPart → Result Content
  | [] => .ok others
  | part :: rest => do contents m (others.union (← part.content m)) rest

end

/-! ## Expressions -/

/-- What was found out in a pattern up to a place. -/
structure Findings where
  modes : Modes := {}
  /-- Whether a boundary of a word was met that is not restricted to ASCII. -/
  hasWordBoundary : Bool := false
  deriving DecidableEq, Repr

mutual

/-- Check that an expression has a meaning, with what was found out before it. -/
def Expression.check (f : Findings) : Expression → Result Findings
  | .empty _ => .ok f
  | .setting _ flags => .ok { f with modes := f.modes.set flags }
  | .atom a => do
    a.check f.modes
    .ok { f with
      hasWordBoundary := f.hasWordBoundary || (a.atom == .condition true && f.modes.unicode) }
  | .set part => do
    let _ ← part.content f.modes
    .ok f
  | .repetition _ body => body.check f
  | .group _ flags body => do
    let inner ← body.check { f with modes := f.modes.set flags }
    .ok { inner with modes := f.modes }
  | .alternatives _ branches => checkAll f branches
  | .sequence _ parts => checkAll f parts

/-- Check that several expressions have a meaning. -/
def checkAll (f : Findings) : List Expression → Result Findings
  | [] => .ok f
  | e :: rest => do checkAll (← e.check f) rest

end

/-- Why a pattern cannot be matched. -/
inductive Refusal where
  | faulty (pattern : Text) (error : PatternError)
  | wordBoundary
  deriving DecidableEq, Repr

namespace Refusal

/-- The wording of a refusal. -/
def message : Refusal → Text
  | faulty _ _ => "error building NFA"
  | wordBoundary =>
    "unsupported regex feature for DFAs: cannot build DFAs for regexes with Unicode word "
      ++ "boundaries; switch to ASCII word boundaries, or heuristically enable Unicode word "
      ++ "boundaries or use a different regex engine"

/-- The wording of what lies behind a refusal. -/
def causes : Refusal → List Text
  | faulty pattern error => ["error parsing regex", error.report pattern]
  | wordBoundary => []

end Refusal

/-- Why a text cannot be matched as a pattern, if it cannot. -/
def refusal? (pattern : Text) : Option Refusal :=
  match (do (← read pattern).check {}) with
  | .error error => some (.faulty pattern error)
  | .ok findings => if findings.hasWordBoundary then some .wordBoundary else none

end ScriptRunner.Pattern
