import ScriptRunner.Text.Digit
import ScriptRunner.Text.Search

/-!
# Tables of characters

A table tells a property of each code point. It lists runs of code points with one property, one run
behind another from a first code point on. In writing a run is a word: how long it is in hexadecimal
digits, which are left out for a run of one, then a capital letter for the property, then the numbers
that belong to it, in hexadecimal digits with dots between them.
-/

namespace ScriptRunner.Text

/-- A run of code points with one property. -/
structure Run where
  length : Nat
  property : Char
  numbers : List Nat := []
  deriving DecidableEq, Repr

/-- The number that hexadecimal digits write. -/
def hexNumber (s : Text) : Nat := s.foldl (fun n c => n * 16 + (hexValue? c).getD 0) 0

/-- The run that a word writes. -/
def Run.ofWord (word : Text) : Run :=
  let digits := word.takeWhile fun c => c.isDigit || ('a' ≤ c && c ≤ 'f')
  let behind := word.drop digits.length
  { length := if digits = [] then 1 else hexNumber digits
    property := behind.headD 'N'
    numbers := if behind.tail = [] then [] else (splitOnChar '.' behind.tail).map hexNumber }

/-- A property of code points, told by runs. -/
structure Table where
  /-- The code point of the first run. -/
  first : Nat
  runs : List Run
  deriving Repr

namespace Table

/-- The table that words write, with blanks or line ends between them. -/
def ofWords (first : Nat) (words : String) : Table where
  first := first
  runs :=
    ((splitOnChar ' ' (words.toList.map fun c => if c = '\n' then ' ' else c)).filter (· ≠ [])).map
      Run.ofWord

/-- The run with the code point that is `n` places behind the first one, and its place in the run. -/
def findIn (n : Nat) : List Run → Option (Run × Nat)
  | [] => none
  | run :: rest => if n < run.length then some (run, n) else findIn (n - run.length) rest

/-- The run that a character belongs to, and its place in it. Before the first run and behind the
last one there is none. -/
def find? (t : Table) (c : Char) : Option (Run × Nat) :=
  if c.toNat < t.first then none else findIn (c.toNat - t.first) t.runs

/-- The letter for the property of a character. -/
def property (t : Table) (c : Char) (otherwise : Char) : Char :=
  ((t.find? c).map fun found => found.1.property).getD otherwise

end Table

example : Run.ofWord "2M32".toList = ⟨2, 'M', [0x32]⟩ := by decide

example : ((Table.ofWords 0x61 "2X S31.2044.32").find? 'c').map Prod.fst
    = some ⟨1, 'S', [0x31, 0x2044, 0x32]⟩ := by decide +kernel

end ScriptRunner.Text
