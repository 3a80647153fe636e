import ScriptRunner.Decimal.Shortest
import ScriptRunner.Log.Entry
import ScriptRunner.Text.Utf8

/-!
# Filter directives

A directive says how important entries must be to be logged. It may apply to some targets only, to
entries with certain fields, or to what happens inside certain spans. More specific directives come
first; two that apply to the same are equally specific, and only one of them can be in force.
-/

namespace ScriptRunner.Log

open Text

/-- How important an entry must be. -/
inductive Threshold where
  /-- Nothing is logged. -/
  | off
  /-- Entries of this level and of more important ones are logged. -/
  | upTo (level : Level)
  deriving DecidableEq, Repr

namespace Threshold

/-- The name of a threshold. -/
def name : Threshold → Text
  | off => "off"
  | upTo .error => "error"
  | upTo .warn => "warn"
  | upTo .info => "info"
  | upTo .debug => "debug"
  | upTo .trace => "trace"

/-- All thresholds, in the order of their numbers. -/
def all : List Threshold :=
  [off, upTo .error, upTo .warn, upTo .info, upTo .debug, upTo .trace]

/-- Whether entries of a level are logged. -/
def admits : Threshold → Level → Bool
  | off, _ => false
  | upTo limit, level => decide (level.rank ≤ limit.rank)

end Threshold

/-- The value that a field must have. -/
inductive FieldValue where
  | boolean (value : Bool)
  /-- A number in double precision. -/
  | decimal (negative : Bool) (magnitude : Decimal.Double)
  | notANumber
  | natural (value : Nat)
  | integer (value : Int)
  /-- A pattern for the text of the value. -/
  | pattern (text : Text)
  deriving DecidableEq, Repr

/-- A field that an entry must have, and perhaps its value. -/
structure FieldMatch where
  name : Text
  value : Option FieldValue := none
  deriving DecidableEq, Repr

/-- A filter directive. -/
structure Directive where
  target : Option Text := none
  span : Option Text := none
  fields : List FieldMatch := []
  threshold : Threshold
  deriving DecidableEq, Repr

/-! ## Written form -/

/-- The written form of an integer. -/
def integerText (n : Int) : Text :=
  if n < 0 then '-' :: Text.ofNat n.natAbs else Text.ofNat n.natAbs

/-- The written form of a value. -/
def FieldValue.toText : FieldValue → Text
  | boolean true => "true"
  | boolean false => "false"
  | decimal negative magnitude => (if negative then ['-'] else []) ++ magnitude.toText
  | notANumber => "NaN"
  | natural n => Text.ofNat n
  | integer n => integerText n
  | pattern text => text

/-- The written form of a field. -/
def FieldMatch.toText (field : FieldMatch) : Text :=
  field.name ++ (field.value.map fun v => '=' :: v.toText).getD []

namespace Directive

/-- The written form of the span and the fields, in brackets. -/
def scopeText (d : Directive) : Text :=
  if d.span = none ∧ d.fields = [] then []
  else
    let fields : Text :=
      if d.fields = [] then [] else ['{'] ++ join [','] (d.fields.map FieldMatch.toText) ++ ['}']
    ['['] ++ d.span.getD [] ++ fields ++ [']']

/-- The written form of a directive. -/
def toText (d : Directive) : Text :=
  let subject := d.target.getD [] ++ d.scopeText
  if d.target = none ∧ d.scopeText = [] then d.threshold.name
  else subject ++ ['='] ++ d.threshold.name

/-! ## Order -/

/-- The order of texts by their characters. -/
def orderText : Text → Text → Ordering
  | [], [] => .eq
  | [], _ :: _ => .lt
  | _ :: _, [] => .gt
  | a :: as, b :: bs => (compare a.toNat b.toNat).then (orderText as bs)

/-- The order of values that may be missing: a missing one comes first. -/
def orderOption {α : Type} (order : α → α → Ordering) : Option α → Option α → Ordering
  | none, none => .eq
  | none, some _ => .lt
  | some _, none => .gt
  | some a, some b => order a b

/-- The place of a kind of value among the others. -/
def valueRank : FieldValue → Nat
  | .boolean _ => 0
  | .decimal _ _ => 1
  | .notANumber => 2
  | .natural _ => 3
  | .integer _ => 4
  | .pattern _ => 5

/-- The order of numbers in double precision. The two zeros are equal. -/
def orderDecimal (negative : Bool) (a : Decimal.Double) (negative' : Bool) (b : Decimal.Double) :
    Ordering :=
  let order (a b : Decimal.Double) : Ordering :=
    if a.le b then (if b.le a then .eq else .lt) else .gt
  match a.isZero && b.isZero, negative, negative' with
  | true, _, _ => .eq
  | false, false, false => order a b
  | false, true, true => order b a
  | false, true, false => .lt
  | false, false, true => .gt

/-- The order of values. -/
def orderValue : FieldValue → FieldValue → Ordering
  | .boolean a, .boolean b => compare a b
  | .decimal n a, .decimal m b => orderDecimal n a m b
  | .natural a, .natural b => compare a b
  | .integer a, .integer b => compare a b
  | .pattern a, .pattern b => orderText a b
  | a, b => compare (valueRank a) (valueRank b)

/-- The order of fields: one without a value comes first. -/
def orderField (a b : FieldMatch) : Ordering :=
  (compare a.value.isSome b.value.isSome).then
    ((orderText a.name b.name).then (orderOption orderValue a.value b.value))

/-- The order of lists of fields. -/
def orderFields : List FieldMatch → List FieldMatch → Ordering
  | [], [] => .eq
  | [], _ :: _ => .lt
  | _ :: _, [] => .gt
  | a :: as, b :: bs => (orderField a b).then (orderFields as bs)

/-- How specific one directive is compared with another. The length of the target counts first,
then whether there is a span and how many fields there are. What remains only makes the order
total. -/
def specificity (a b : Directive) : Ordering :=
  (orderOption compare (a.target.map fun t => (encode t).length)
      (b.target.map fun t => (encode t).length)).then
    ((compare a.span.isSome b.span.isSome).then
      ((compare a.fields.length b.fields.length).then
        ((orderOption orderText a.target b.target).then
          ((orderOption orderText a.span b.span).then (orderFields a.fields b.fields)))))

/-- Put a directive in its place among others, most specific first. It replaces one that is equally
specific. -/
def insert (d : Directive) : List Directive → List Directive
  | [] => [d]
  | e :: rest =>
    match specificity d e with
    | .eq => d :: rest
    | .gt => d :: e :: rest
    | .lt => e :: insert d rest

/-! ## Kinds of directives -/

/-- Whether a directive is about spans or fields. -/
def hasScope (d : Directive) : Bool := d.span.isSome || !d.fields.isEmpty

/-- The directive as far as it can be decided for an entry alone: without a span, and with fields
that are only to be there. -/
def static? (d : Directive) : Option Directive :=
  if d.span.isNone && d.fields.all fun f => f.value.isNone then some d else none

/-- Whether a directive without a span applies to an entry. Every entry has a field named
`message`. -/
def applies (d : Directive) (entry : Entry) : Bool :=
  (d.target.map fun t => t.isPrefixOf entry.target).getD true &&
    d.fields.all fun f =>
      f.name == "message".toList || entry.fields.any fun field => field.1 == f.name

end Directive

end ScriptRunner.Log
