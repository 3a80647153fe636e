import ScriptRunner.Text.Search
import ScriptRunner.Url.Percent

/-!
# Numeric addresses

IPv4 addresses are read in the lenient form in which one to four numbers, decimal, octal with a
leading zero or hexadecimal with a leading `0x`, stand between dots and the last number fills all
places that are left. IPv6 addresses are read with one gap of zeros and with a dotted IPv4 address
at the end, and are written with their longest run of at least two zero pieces left out.
-/

namespace ScriptRunner.Url

open Text

/-! ## IPv4 -/

/-- The number that digits write in a base. -/
def digitsValue? (base : Nat) (s : Text) : Option Nat :=
  s.foldl
    (fun value c =>
      match value, hexValue? c with
      | some n, some d => if d < base then some (n * base + d) else none
      | _, _ => none)
    (some 0)

/-- The number that a part of an IPv4 address writes. -/
def ipv4Number? (part : Text) : Option Nat :=
  match part with
  | [] => none
  | ['0'] => some 0
  | '0' :: 'x' :: digits => digitsValue? 16 digits
  | '0' :: 'X' :: digits => digitsValue? 16 digits
  | '0' :: digits => digitsValue? 8 digits
  | digits => digitsValue? 10 digits

/-- The parts of a dotted name. A dot at the end adds none. -/
def dottedParts (s : Text) : List Text :=
  let parts := splitOnChar '.' s
  if 1 < parts.length ∧ parts.getLast? = some [] then parts.dropLast else parts

/-- Whether a host is to be read as an IPv4 address: its last part is all digits or a number. -/
def endsInNumber (s : Text) : Bool :=
  match (dottedParts s).getLast? with
  | none => false
  | some last => (!last.isEmpty && last.all Char.isDigit) || (ipv4Number? last).isSome

/-- Combine the numbers of an IPv4 address, of which the last fills the places that are left. -/
def combineIpv4 (numbers : List Nat) : Option Nat :=
  match numbers.reverse with
  | [] => none
  | last :: higher =>
    let higher := higher.reverse
    if 3 < higher.length ∨ Nat.pow 256 (4 - higher.length) ≤ last ∨ higher.any (255 < ·) then none
    else some (higher.zipIdx.foldl (fun sum p => sum + p.1 * Nat.pow 256 (3 - p.2)) last)

/-- Read an IPv4 address. -/
def ipv4? (s : Text) : Option Nat :=
  ((dottedParts s).mapM ipv4Number?).bind combineIpv4

/-- Write an IPv4 address. -/
def ipv4Text (n : Nat) : Text :=
  join ['.'] ([3, 2, 1, 0].map fun i => Text.ofNat (n / Nat.pow 256 i % 256))

/-! ## IPv6 -/

/-- A number of one to three decimal digits below 256, written without a leading zero, and the text
behind it. -/
def octet? (s : Text) : Option (Nat × Text) :=
  let digits := s.takeWhile Char.isDigit
  if digits = [] ∨ (digits.head? = some '0' ∧ 1 < digits.length) then none
  else
    (digitsValue? 10 digits).bind fun n =>
      if 255 < n then none else some (n, s.drop digits.length)

/-- The dotted IPv4 address at the end of an IPv6 address, as two pieces. -/
def dottedPieces? (s : Text) : Option (List Nat) := do
  let (a, s) ← octet? s
  let s ← if s.head? = some '.' then some s.tail else none
  let (b, s) ← octet? s
  let s ← if s.head? = some '.' then some s.tail else none
  let (c, s) ← octet? s
  let s ← if s.head? = some '.' then some s.tail else none
  let (d, s) ← octet? s
  if s = [] then some [a * 256 + b, c * 256 + d] else none

/-- The pieces of an IPv6 address that were read, and the place of the gap among them. -/
structure Ipv6Pieces where
  pieces : List Nat := []
  gap : Option Nat := none

/-- Read the pieces of an IPv6 address behind those that were read. `fuel` bounds the number of
pieces and of the gap. -/
def ipv6Pieces? (fuel : Nat) (read : Ipv6Pieces) (s : Text) : Option Ipv6Pieces :=
  let places := read.pieces.length + (if read.gap.isSome then 1 else 0)
  match fuel, s with
  | _, [] => some read
  | 0, _ => none
  | fuel + 1, c :: rest =>
    if 8 ≤ places then none
    else if c = ':' then
      if read.gap.isSome then none
      else ipv6Pieces? fuel { read with gap := some read.pieces.length } rest
    else
      let digits := (s.take 4).takeWhile fun c => (hexValue? c).isSome
      let behind := s.drop digits.length
      let piece := (digitsValue? 16 digits).getD 0
      match behind with
      | [] => some { read with pieces := read.pieces ++ [piece] }
      | '.' :: _ =>
        if digits = [] ∨ 6 < places then none
        else (dottedPieces? s).map fun last => { read with pieces := read.pieces ++ last }
      | ':' :: more =>
        if more = [] then none
        else ipv6Pieces? fuel { read with pieces := read.pieces ++ [piece] } more
      | _ => none

/-- Read an IPv6 address, without brackets, as its eight pieces. -/
def ipv6? (s : Text) : Option (List Nat) := do
  let read ←
    match s with
    | [] => none
    | [_] => none
    | ':' :: ':' :: rest => ipv6Pieces? 9 { gap := some 0 } rest
    | ':' :: _ => none
    | _ => ipv6Pieces? 9 {} s
  match read.gap with
  | none => if read.pieces.length = 8 then some read.pieces else none
  | some place =>
    some (read.pieces.take place ++ List.replicate (8 - read.pieces.length) 0
      ++ read.pieces.drop place)

/-- A number in lower case hexadecimal digits. -/
def hexText (n : Nat) : Text := Nat.toDigits 16 n

/-- The lengths of the runs of zeros that start at each piece. -/
def zeroRuns : List Nat → List Nat
  | [] => []
  | n :: rest =>
    let runs := zeroRuns rest
    (if n = 0 then runs.headD 0 + 1 else 0) :: runs

/-- Where the first of the longest runs of zeros starts, and its length, if it has at least two. -/
def longestZeros? (pieces : List Nat) : Option (Nat × Nat) :=
  let best :=
    (zeroRuns pieces).zipIdx.foldl (fun (best : Nat × Nat) run =>
      if best.2 < run.1 then (run.2, run.1) else best) (0, 0)
  if 2 ≤ best.2 then some best else none

/-- Write an IPv6 address, without brackets. -/
def ipv6Text (pieces : List Nat) : Text :=
  let group (ps : List Nat) : Text := join [':'] (ps.map hexText)
  match longestZeros? pieces with
  | none => group pieces
  | some (start, length) =>
    group (pieces.take start) ++ [':', ':'] ++ group (pieces.drop (start + length))

end ScriptRunner.Url
