import ScriptRunner.Decimal.Double
import ScriptRunner.Text.Blank

/-!
# The shortest decimal number

A magnitude in double precision is written with the fewest digits that lead back to it. For one
digit, two digits and so on, the two neighbours of the magnitude with so many digits are tried; of
two that lead back the nearer is taken, and the larger one if both are equally near.
-/

namespace ScriptRunner.Decimal

open Text

/-- The number of digits before the point of `n / d`, counted negatively for the zeros that follow
the point of a number below one tenth. -/
def size (n d : Nat) : Int :=
  if d ≤ n then digitCount (n / d) else 1 - (digitCount ((d - 1) / n) : Int)

/-- The neighbours of `n / d` among the decimal numbers with the given exponent, nearer one first. -/
def neighbours (n d : Nat) (exponent : Int) : List Scientific :=
  let n := n * Nat.pow 10 (-exponent).toNat
  let d := d * Nat.pow 10 exponent.toNat
  let below : Scientific := ⟨n / d, exponent⟩
  let above : Scientific := ⟨n / d + 1, exponent⟩
  if 2 * (n % d) < d then [below, above] else [above, below]

/-- The largest number of digits that is ever needed. -/
def maxDigits : Nat := 17

namespace Double

/-- The shortest decimal number for the factor times a power of two. -/
def shortest (factor : Nat) (exponent : Int) : Option Scientific :=
  let n := factor * Nat.pow 2 exponent.toNat
  let d := Nat.pow 2 (-exponent).toNat
  (List.range maxDigits).findSome? fun count =>
    (neighbours n d (size n d - (count + 1 : Nat))).find? fun s =>
      ofScientific s = finite factor exponent

end Double

/-- A decimal number in digits, with a point if it is no whole number. -/
def Scientific.toText (s : Scientific) : Text :=
  let digits := Text.ofNat s.digits ++ List.replicate s.exponent.toNat '0'
  let places := (-s.exponent).toNat
  let digits := List.replicate (places + 1 - digits.length) '0' ++ digits
  let fraction := dropEnd '0' (digits.drop (digits.length - places))
  let whole := digits.take (digits.length - places)
  if fraction = [] then whole else whole ++ ['.'] ++ fraction

/-- The written form of a magnitude. -/
def Double.toText : Double → Text
  | infinite => "inf"
  | finite factor exponent =>
    if factor = 0 then ['0']
    else
      ((shortest factor exponent).map Scientific.toText).getD []

end ScriptRunner.Decimal
