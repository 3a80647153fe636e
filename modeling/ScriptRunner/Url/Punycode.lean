import ScriptRunner.Text.Basic

/-!
# Punycode

A label of a domain name in ASCII letters, digits and hyphens. The ASCII characters of the label
come first. Then each other character, in the order of code points, is told by the number of steps
to its place: one step leads from a place to the next, and behind the last place to the first one
for the next code point. Step numbers are written with digits of base 36, lowest first, where a
digit below a threshold ends the number. The thresholds follow the size of the numbers so far.
-/

namespace ScriptRunner.Url.Punycode

/-- The base of the digits. -/
def base : Nat := 36

/-- The character of a digit. -/
def digitChar (d : Nat) : Char := Char.ofNat (if d < 26 then 0x61 + d else 0x30 + (d - 26))

/-- The value of a digit. -/
def digitValue? (c : Char) : Option Nat :=
  if 'a' ≤ c ∧ c ≤ 'z' then some (c.toNat - 0x61)
  else if '0' ≤ c ∧ c ≤ '9' then some (c.toNat - 0x30 + 26)
  else none

/-- The threshold for the digit with weight number `k`. -/
def threshold (k bias : Nat) : Nat := max 1 (min 26 (base * (k + 1) - bias))

theorem one_le_threshold (k bias : Nat) : 1 ≤ threshold k bias := Nat.le_max_left _ _

theorem threshold_le (k bias : Nat) : threshold k bias ≤ 26 := by
  unfold threshold
  omega

/-- The digits of a number, from weight number `k` on. -/
def digits (bias k n : Nat) : Text :=
  let t := threshold k bias
  if h : n < t then [digitChar n]
  else
    have : (n - t) / (base - t) < n := by
      have h1 := one_le_threshold k bias
      have h2 := threshold_le k bias
      have hb : 1 ≤ base - t := by
        simp only [base]
        omega
      exact Nat.lt_of_le_of_lt (Nat.div_le_self _ _) (by omega)
    digitChar (t + (n - t) % (base - t)) :: digits bias (k + 1) ((n - t) / (base - t))
termination_by n

/-- Divide a number of steps until it is small, and count the divisions. -/
def reduce (count delta : Nat) : Nat × Nat :=
  if h : 455 < delta then
    have : delta / 35 < delta := Nat.div_lt_self (by omega) (by decide)
    reduce (count + 1) (delta / 35)
  else (count, delta)
termination_by delta

/-- The bias after a number of steps, when `length` characters are in place. -/
def adapt (isFirst : Bool) (delta length : Nat) : Nat :=
  let delta := if isFirst then delta / 700 else delta / 2
  let (count, delta) := reduce 0 (delta + delta / length)
  base * count + 36 * delta / (delta + 38)

/-- The state of writing: the steps since the last character that was told, the bias, and how many
characters are told. -/
structure Progress where
  delta : Nat := 0
  bias : Nat := 72
  told : Nat
  output : Text := []

/-- Go past a character while those with code point `n` are told. `basic` is the number of ASCII
characters. -/
def Progress.pass (basic n : Nat) (p : Progress) (c : Char) : Progress :=
  if c.toNat < n then { p with delta := p.delta + 1 }
  else if c.toNat = n then
    { delta := 0
      bias := adapt (p.told == basic) p.delta (p.told + 1)
      told := p.told + 1
      output := p.output ++ digits p.bias 0 p.delta }
  else p

/-- The code points outside ASCII, in order and each once. -/
def otherPoints (s : Text) : List Nat :=
  ((s.map Char.toNat).filter (0x80 ≤ ·)).mergeSort.eraseDups

/-- Write a label. -/
def encode (s : Text) : Text :=
  let basic := s.filter fun c => c.toNat < 0x80
  let tell (state : Nat × Progress) (n : Nat) : Nat × Progress :=
    let p := { state.2 with delta := state.2.delta + (n - state.1) * (state.2.told + 1) }
    let p := s.foldl (Progress.pass basic.length n) p
    (n + 1, { p with delta := p.delta + 1 })
  let p := ((otherPoints s).foldl tell (0x80, { told := basic.length })).2
  basic ++ (if basic = [] then [] else ['-']) ++ p.output

/-- Read a number from weight number `k` on: its value and what follows. -/
def number? (bias k weight : Nat) : Text → Option (Nat × Text)
  | [] => none
  | c :: rest =>
    match digitValue? c with
    | none => none
    | some d =>
      let t := threshold k bias
      if d < t then some (d * weight, rest)
      else
        (number? bias (k + 1) (weight * (base - t)) rest).map fun r => (d * weight + r.1, r.2)

theorem length_lt_of_number? {bias k weight n : Nat} {s rest : Text}
    (h : number? bias k weight s = some (n, rest)) : rest.length < s.length := by
  induction s generalizing k weight n with
  | nil => simp [number?] at h
  | cons c r ih =>
    rw [number?] at h
    split at h
    · simp at h
    · simp only at h
      split at h
      · simp only [Option.some.injEq, Prod.mk.injEq] at h
        simp [← h.2]
      · obtain ⟨⟨m, t⟩, hr, he⟩ := Option.map_eq_some_iff.1 h
        simp only [Prod.mk.injEq] at he
        exact Nat.lt_succ_of_lt (ih (he.2 ▸ hr))

/-- Read the characters outside ASCII. `point` and `place` are those that the next step starts
from. -/
def readOthers (isFirst : Bool) (point place bias : Nat) (done : Text) (s : Text) : Option Text :=
  if s = [] then some done
  else
    match h : number? bias 0 1 s with
    | none => none
    | some (steps, rest) =>
      have := length_lt_of_number? h
      let length := done.length + 1
      let point := point + (place + steps) / length
      let place := (place + steps) % length
      if point.isValidChar then
        readOthers false point (place + 1) (adapt isFirst steps length)
          (done.take place ++ Char.ofNat point :: done.drop place) rest
      else none
termination_by s.length

/-- Read a label. The last hyphen ends its ASCII characters, if there are any. -/
def decode? (s : Text) : Option Text :=
  let others := (s.reverse.takeWhile (· != '-')).reverse
  let basic := s.take (s.length - (others.length + 1))
  readOthers true 0x80 0 72 basic (if basic = [] then s else others)

end ScriptRunner.Url.Punycode
