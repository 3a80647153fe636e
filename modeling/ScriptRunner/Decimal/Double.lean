import ScriptRunner.Text.Basic

/-!
# Double precision

The magnitude of a number in double precision is a multiple of a power of two, with a factor below
`2 ^ 53`, or infinite. A decimal number has the nearest one, and of two that are equally near the
one with the even factor.
-/

namespace ScriptRunner.Decimal

/-- A decimal number: a whole number times a power of ten. -/
structure Scientific where
  digits : Nat
  exponent : Int
  deriving DecidableEq, Repr

/-- A magnitude in double precision. -/
inductive Double where
  /-- The factor times a power of two. -/
  | finite (factor : Nat) (exponent : Int)
  | infinite
  deriving DecidableEq, Repr

/-- The quotient rounded to the nearest whole number, and to the even one of two. -/
def roundDiv (n d : Nat) : Nat :=
  let remainder := n % d
  if 2 * remainder < d ∨ (2 * remainder = d ∧ n / d % 2 = 0) then n / d else n / d + 1

/-- The exponent of the least magnitude above zero. -/
def minExponent : Int := -1074

/-- The largest exponent. -/
def maxExponent : Int := 971

/-- The number of decimal digits of a number. -/
def digitCount (n : Nat) : Nat := (Text.ofNat n).length

namespace Double

/-- The magnitude nearest to the quotient of two numbers. The exponent is chosen so that the factor
has 53 binary digits, unless that would take it below the least one. -/
def ofRatio (n d : Nat) : Double :=
  if n = 0 then finite 0 minExponent
  else
    let guess : Int := (Nat.log2 n : Int) - Nat.log2 d - 52
    let isBelow : Bool :=
      n * Nat.pow 2 (-guess).toNat < d * Nat.pow 2 guess.toNat * Nat.pow 2 52
    let exponent := max (if isBelow then guess - 1 else guess) minExponent
    let factor :=
      roundDiv (n * Nat.pow 2 (-exponent).toNat) (d * Nat.pow 2 exponent.toNat)
    let (factor, exponent) :=
      if factor = Nat.pow 2 53 then (Nat.pow 2 52, exponent + 1) else (factor, exponent)
    if maxExponent < exponent then infinite else finite factor exponent

/-- The magnitude nearest to a decimal number. Numbers of 311 digits before the point are infinite,
and numbers with 330 zeros behind it are nothing, so that no larger power has to be computed. -/
def ofScientific (s : Scientific) : Double :=
  let size := digitCount s.digits + s.exponent
  if s.digits = 0 ∨ size < -330 then finite 0 minExponent
  else if 310 < size then infinite
  else ofRatio (s.digits * Nat.pow 10 s.exponent.toNat) (Nat.pow 10 (-s.exponent).toNat)

/-- A finite magnitude as a quotient. -/
def ratio? : Double → Option (Nat × Nat)
  | finite factor exponent =>
    some (factor * Nat.pow 2 exponent.toNat, Nat.pow 2 (-exponent).toNat)
  | infinite => none

/-- The magnitude nearest to the sum of two. -/
def add (x y : Double) : Double :=
  match x.ratio?, y.ratio? with
  | some (n, d), some (m, e) => ofRatio (n * e + m * d) (d * e)
  | _, _ => infinite

/-- The magnitude nearest to the quotient by a number above zero. -/
def divide (x : Double) (k : Nat) : Double :=
  match x.ratio? with
  | some (n, d) => ofRatio n (d * k)
  | none => infinite

/-- Whether a magnitude is zero. -/
def isZero : Double → Bool
  | finite factor _ => factor == 0
  | infinite => false

/-- Whether one magnitude is at most another. -/
def le : Double → Double → Bool
  | _, infinite => true
  | infinite, finite _ _ => false
  | finite m e, finite n f =>
    m * Nat.pow 2 (e - minExponent).toNat ≤ n * Nat.pow 2 (f - minExponent).toNat

end Double

end ScriptRunner.Decimal
