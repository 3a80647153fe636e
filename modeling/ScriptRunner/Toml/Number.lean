import ScriptRunner.Decimal.Written
import ScriptRunner.Text.Search
import ScriptRunner.Toml.Quotation

/-!
# TOML numbers

A number is a word of its own. Integers must fit 64 bits with a sign, and a float that is too large
for double precision is refused. Underscores may stand between digits.
-/

namespace ScriptRunner.Toml

open Text Decimal

/-- Whether a text is made of digits of the given kind, with single underscores between them. -/
def isDigits (isDigit : Char → Bool) (s : Text) : Bool :=
  (splitOnChar '_' s).all fun piece => !piece.isEmpty && piece.all isDigit

/-- The number that digits write in a base of at most sixteen. -/
def numberIn (base : Nat) (digits : Text) : Nat :=
  (digits.filterMap hexValue?).foldl (fun n digit => base * n + digit) 0

/-- Whether a text is a decimal integer without a sign. A zero in front is allowed alone only. -/
def isWhole (s : Text) : Bool :=
  isDigits Char.isDigit s && (s.length == 1 || s.head? != some '0')

/-- One more than the largest integer. -/
def integerBound : Nat := Nat.pow 2 63

/-- Whether a text is an integer in the given base, behind the letter that announces the base. -/
def isIntegerIn (base : Nat) (s : Text) : Bool :=
  isDigits (fun c => (hexValue? c).any (· < base)) s && numberIn base s < integerBound

/-- Whether a text is an integer. -/
def isInteger : Text → Bool
  | '0' :: 'x' :: digits => isIntegerIn 16 digits
  | '0' :: 'o' :: digits => isIntegerIn 8 digits
  | '0' :: 'b' :: digits => isIntegerIn 2 digits
  | s =>
    let n := Decimal.numberOf (dropSign s)
    isWhole (dropSign s) && (n < integerBound || (isNegative s && n == integerBound))

/-- Whether the parts of a decimal number are those of a float. -/
def isFloatParts (w : Written) : Bool :=
  isWhole w.whole && w.fraction.all (isDigits Char.isDigit)
    && w.exponent.all (fun e => isDigits Char.isDigit (dropSign e))
    && (w.fraction.isSome || w.exponent.isSome)

/-- Whether a text is a float. A negative number may be too large. -/
def isFloat (s : Text) : Bool :=
  let body := dropSign s
  let w := Written.ofText body
  body = "inf".toList || body = "nan".toList
    || (isFloatParts w && (isNegative s || Double.ofScientific w.number ≠ .infinite))

/-- Whether a text is a number. -/
def isNumber (s : Text) : Bool := isInteger s || isFloat s

end ScriptRunner.Toml
