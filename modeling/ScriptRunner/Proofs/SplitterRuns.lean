import Mathlib
import ScriptRunner.Script.Source

/-!
# Reading many lines

A splitter reads one line at a time. Here are the splitter behind a list of lines (`after`) and the
statements and notices that the lines give on the way, each by recursion on the lines, with the rule
for lists that are read one after the other. A whole script is read in this way (`split_eq`).

The quotes in a text flip the parity as often as there are quotes (`Parity.after_eq_even_iff`).
-/

namespace ScriptRunner.Script

open Text

/-! ## Quotes -/

/-- The parity after two texts is the one after the second, reached from the first. -/
lemma Parity.after_append (p : Parity) (a b : Text) : p.after (a ++ b) = (p.after a).after b :=
  List.foldl_append

/-- One more character flips the parity if it is a quote. -/
lemma Parity.after_cons (p : Parity) (c : Char) (s : Text) :
    p.after (c :: s) = (if c = '\'' then p.flip else p).after s := rfl

/-- The parity is even behind an even number of quotes that begin where it is even, and behind an
odd number that begin where it is odd. -/
lemma Parity.after_eq_even_iff (p : Parity) (s : Text) :
    p.after s = .even ↔ s.count '\'' % 2 = if p = .even then 0 else 1 := by
  induction s generalizing p with
  | nil => cases p <;> simp [Parity.after]
  | cons c s ih =>
    rw [Parity.after_cons, ih]
    by_cases hc : c = '\''
    · rw [if_pos hc, hc, List.count_cons_self]
      cases p <;> simp [Parity.flip] <;> omega
    · rw [if_neg hc, List.count_cons_of_ne hc]

/-! ## Lists of lines -/

namespace Splitter

variable {s : Splitter} {lines more : List Text}

/-- The splitter behind some lines. -/
def after (s : Splitter) : List Text → Splitter
  | [] => s
  | line :: rest => after (s.push line).splitter rest

/-- The statements that some lines give. -/
def statements (s : Splitter) : List Text → List Statement
  | [] => []
  | line :: rest => (s.push line).statement.toList ++ statements (s.push line).splitter rest

/-- What is noticed on some lines. -/
def notices (s : Splitter) : List Text → List Notice
  | [] => []
  | line :: rest => (s.push line).notice.toList ++ notices (s.push line).splitter rest

/-- A line that closes no statement adds none. -/
lemma statements_cons_of_none {line : Text} (h : (s.push line).statement = none)
    (rest : List Text) : s.statements (line :: rest) = (s.push line).splitter.statements rest := by
  rw [statements, h]
  rfl

/-- A line that closes a statement adds it in front of those behind the line. -/
lemma statements_cons_of_some {line : Text} {statement : Statement}
    (h : (s.push line).statement = some statement) (rest : List Text) :
    s.statements (line :: rest) = statement :: (s.push line).splitter.statements rest := by
  rw [statements, h]
  rfl

/-- Reading goes on where it stopped. -/
lemma after_append (s : Splitter) (lines more : List Text) :
    s.after (lines ++ more) = (s.after lines).after more := by
  induction lines generalizing s with
  | nil => rfl
  | cons line rest ih => exact ih _

/-- The statements of further lines come behind those of the first ones. -/
lemma statements_append (s : Splitter) (lines more : List Text) :
    s.statements (lines ++ more) = s.statements lines ++ (s.after lines).statements more := by
  induction lines generalizing s with
  | nil => rfl
  | cons line rest ih =>
    rw [List.cons_append, statements, ih, statements, after, List.append_assoc]

end Splitter

/-! ## Streams -/

/-- A stream that may give as many statements as it has lines is read to its end. -/
lemma Stream.take_of_length_le (s : Splitter) (lines : List Text) (count : ℕ)
    (h : lines.length ≤ count) :
    Stream.take count s lines =
      { statements := s.statements lines
        notices := s.notices lines
        stream := ⟨s.after lines, []⟩ } := by
  induction lines generalizing s count with
  | nil => rfl
  | cons line rest ih =>
    obtain ⟨n, rfl⟩ : ∃ n, count = n + 1 := ⟨count - 1, by rw [List.length_cons] at h; omega⟩
    have hrest : rest.length ≤ n := by rw [List.length_cons] at h; omega
    have hleft : rest.length ≤ if (s.push line).statement.isSome then n else n + 1 := by
      split <;> omega
    rw [Stream.take, ih _ _ hleft]
    rfl

/-- Splitting a script is reading all of its lines with a fresh splitter. -/
lemma split_eq (script : Text) :
    split script =
      { statements := Splitter.statements {} (lines (dropByteOrderMark script))
        remainder := (Splitter.after {} (lines (dropByteOrderMark script))).remainder
        notices := Splitter.notices {} (lines (dropByteOrderMark script)) } := by
  rw [split, splitTake, Stream.ofScript, Stream.take_of_length_le _ _ _ (Nat.le_succ _)]

end ScriptRunner.Script
