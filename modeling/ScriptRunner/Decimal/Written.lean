import ScriptRunner.Decimal.Double

/-!
# Written decimal numbers

A decimal number is written as whole digits, perhaps with a point and a fraction, and perhaps with
an exponent behind the letter `e`. This module cuts a text into these parts and computes the number.
Which digits may stand in a part is for the reader of a format to say.
-/

namespace ScriptRunner.Decimal

/-- The parts of a written decimal number, without its sign. -/
structure Written where
  whole : Text
  fraction : Option Text
  exponent : Option Text
  deriving DecidableEq, Repr

/-- The number that decimal digits write. Characters of other kinds do not count. -/
def numberOf (s : Text) : Nat :=
  (s.filter Char.isDigit).foldl (fun n c => 10 * n + (c.toNat - '0'.toNat)) 0

/-- The text without the sign at its front. -/
def dropSign : Text → Text
  | '+' :: rest => rest
  | '-' :: rest => rest
  | s => s

/-- Whether a text begins with a minus sign. -/
def isNegative (s : Text) : Bool := s.head? == some '-'

namespace Written

/-- A character that stands in front of an exponent. -/
def isMark (c : Char) : Bool := c == 'e' || c == 'E'

/-- The text of a number cut into its parts. -/
def ofText (s : Text) : Written :=
  let mantissa := s.takeWhile (!isMark ·)
  let exponent := s.dropWhile (!isMark ·)
  let fraction := mantissa.dropWhile (· != '.')
  { whole := mantissa.takeWhile (· != '.')
    fraction := if fraction = [] then none else some (fraction.drop 1)
    exponent := if exponent = [] then none else some (exponent.drop 1) }

/-- The number that the parts write. -/
def number (w : Written) : Scientific :=
  let fraction := (w.fraction.getD []).filter Char.isDigit
  let exponent := w.exponent.getD []
  let size : Int := numberOf exponent
  { digits := numberOf (w.whole ++ fraction)
    exponent := (if isNegative exponent then -size else size) - fraction.length }

end Written

end ScriptRunner.Decimal
