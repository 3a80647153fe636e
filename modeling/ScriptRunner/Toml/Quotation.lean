import ScriptRunner.Text.Digit
import ScriptRunner.Toml.Layout

/-!
# TOML strings

There are four ways to quote a string: between double quotes or single quotes, each on one line or,
with the quotes written three times, over several lines. Escapes are read between double quotes
only.
-/

namespace ScriptRunner.Toml

open Text

/-- A way to quote. -/
structure Quotation where
  /-- The quote. -/
  mark : Char
  /-- Whether the string may run over several lines. -/
  multiline : Bool
  deriving DecidableEq, Repr

/-- The number that hexadecimal digits write. -/
def hexNumber? (digits : Text) : Option Nat :=
  digits.foldlM (fun n c => (hexValue? c).map (16 * n + ·)) 0

/-- The character of a number, unless it is the number of no character. -/
def charOfNumber? (n : Nat) : Option Char := if n.isValidChar then some (Char.ofNat n) else none

/-- The character whose number is written in the next `digits` places. -/
def numberedChar? (digits : Nat) (s : Text) : Option (Text × Text) :=
  if s.length < digits then none
  else ((hexNumber? (s.take digits)).bind charOfNumber?).map fun c => ([c], s.drop digits)

/-- The character that one behind a backslash stands for. -/
def escapedChar? (c : Char) : Option Char :=
  if c = 'b' then some '\x08'
  else if c = 'f' then some '\x0c'
  else if c = 'n' then some '\n'
  else if c = 'r' then some '\r'
  else if c = 't' then some '\t'
  else if c = '"' ∨ c = '\\' then some c
  else none

/-- In how many places a number is written behind the letter that announces it. -/
def numberWidth? (c : Char) : Option Nat :=
  if c = 'u' then some 4 else if c = 'U' then some 8 else none

/-- The character that the text behind a backslash stands for. -/
def escaped? : Text → Option (Text × Text)
  | [] => none
  | c :: rest =>
    match escapedChar? c with
    | some d => some ([d], rest)
    | none => (numberWidth? c).bind fun width => numberedChar? width rest

theorem length_le_of_numberedChar? {n : Nat} {s piece rest : Text}
    (h : numberedChar? n s = some (piece, rest)) : rest.length ≤ s.length := by
  unfold numberedChar? at h
  split at h
  · simp at h
  · obtain ⟨c, -, hc⟩ := Option.map_eq_some_iff.1 h
    simp only [Prod.mk.injEq] at hc
    simp [← hc.2]

theorem length_lt_of_escaped? {s piece rest : Text} (h : escaped? s = some (piece, rest)) :
    rest.length < s.length := by
  cases s with
  | nil => simp [escaped?] at h
  | cons c r =>
    rw [escaped?] at h
    split at h
    · simp only [Option.some.injEq, Prod.mk.injEq] at h
      simp [← h.2]
    · obtain ⟨width, -, hw⟩ := Option.bind_eq_some_iff.1 h
      exact Nat.lt_succ_of_le (length_le_of_numberedChar? hw)

/-- The text behind blanks and line ends. -/
def skipBlankLines (s : Text) : Text :=
  match h : lineEnd? (skipBlanks s) with
  | some rest =>
    have := length_lt_of_lineEnd? h
    have := length_skipBlanks_le s
    skipBlankLines rest
  | none => skipBlanks s
termination_by s.length
decreasing_by omega

theorem length_skipBlankLines_le (s : Text) : (skipBlankLines s).length ≤ s.length := by
  fun_induction skipBlankLines s with
  | case1 s rest _ _ _ ih => omega
  | case2 s _ => exact length_skipBlanks_le s

namespace Quotation

/-- The end of a string at the front of the text: quotes that still belong to the string, and what
is left behind the closing ones. Of three to five quotes in a row the last three close a string that
runs over several lines. -/
def closing? (q : Quotation) (s : Text) : Option (Text × Text) :=
  let quotes := (s.takeWhile (· == q.mark)).length
  let width := if q.multiline then 3 else 1
  if width ≤ quotes then
    let kept := if q.multiline then min (quotes - width) 2 else 0
    some (List.replicate kept q.mark, s.drop (width + kept))
  else none

/-- What a backslash and the text behind it stand for. In a string of several lines, a backslash at
the end of a line stands for nothing and takes the blanks and line ends behind it along. -/
def escape? (q : Quotation) (s : Text) : Option (Text × Text) :=
  match lineEnd? (skipBlanks s) with
  | some rest => if q.multiline then some ([], skipBlankLines rest) else none
  | none => escaped? s

/-- The next piece of a string. -/
def piece? (q : Quotation) : Text → Option (Text × Text)
  | [] => none
  | c :: rest =>
    if c = '\\' ∧ q.mark = '"' then q.escape? rest
    else if isShown c then some ([c], rest)
    else if q.multiline then (lineEnd? (c :: rest)).map fun rest => (['\n'], rest)
    else none

theorem length_lt_of_closing? {q : Quotation} {s tail rest : Text}
    (h : q.closing? s = some (tail, rest)) : rest.length < s.length := by
  have hle : (s.takeWhile (· == q.mark)).length ≤ s.length :=
    (List.takeWhile_prefix _).length_le
  have hpos : 0 < if q.multiline then 3 else 1 := by split <;> decide
  unfold closing? at h
  simp only [Option.ite_none_right_eq_some, Option.some.injEq, Prod.mk.injEq] at h
  obtain ⟨hw, -, hr⟩ := h
  rw [← hr, List.length_drop]
  omega

theorem length_lt_of_escape? {q : Quotation} {s piece rest : Text}
    (h : q.escape? s = some (piece, rest)) : rest.length < s.length := by
  unfold escape? at h
  split at h
  · rename_i r hr
    split at h
    · simp only [Option.some.injEq, Prod.mk.injEq] at h
      have := length_lt_of_lineEnd? hr
      have := length_skipBlanks_le s
      have := length_skipBlankLines_le r
      rw [← h.2]
      omega
    · simp at h
  · exact length_lt_of_escaped? h

theorem length_lt_of_piece? {q : Quotation} {s piece rest : Text}
    (h : q.piece? s = some (piece, rest)) : rest.length < s.length := by
  cases s with
  | nil => simp [piece?] at h
  | cons c r =>
    rw [piece?] at h
    split at h
    · exact Nat.lt_succ_of_lt (length_lt_of_escape? h)
    split at h
    · simp only [Option.some.injEq, Prod.mk.injEq] at h
      simp [← h.2]
    split at h
    · obtain ⟨t, ht, he⟩ := Option.map_eq_some_iff.1 h
      simp only [Prod.mk.injEq] at he
      rw [← he.2]
      exact length_lt_of_lineEnd? ht
    · simp at h

/-- Read a string from behind its opening quotes on. -/
def content (q : Quotation) (s : Text) : Option (Read Text s) :=
  match hc : q.closing? s with
  | some (tail, rest) => some ⟨tail, rest, length_lt_of_closing? hc⟩
  | none =>
    match hp : q.piece? s with
    | none => none
    | some (piece, rest) =>
      have := length_lt_of_piece? hp
      (q.content rest).map fun r => (r.map (piece ++ ·)).widen (Nat.le_of_lt this)
termination_by s.length

end Quotation

/-- Read a string on one line. -/
def lineString : Reader Text
  | [] => none
  | c :: rest =>
    if c = '"' ∨ c = '\'' then
      (Quotation.content ⟨c, false⟩ rest).map fun r => r.widen (by simp)
    else none

/-- The text without a line end at its front. -/
def skipLineEnd (s : Text) : Text := (lineEnd? s).getD s

theorem length_skipLineEnd_le (s : Text) : (skipLineEnd s).length ≤ s.length := by
  unfold skipLineEnd
  cases h : lineEnd? s with
  | none => simp
  | some rest => simpa using Nat.le_of_lt (length_lt_of_lineEnd? h)

/-- Read a string over several lines. A line end right behind the opening quotes does not count. -/
def linesString : Reader Text
  | a :: b :: c :: rest =>
    if a = b ∧ b = c ∧ (a = '"' ∨ a = '\'') then
      (Quotation.content ⟨a, true⟩ (skipLineEnd rest)).map fun r =>
        r.widen (by
          have := length_skipLineEnd_le rest
          simp only [List.length_cons]
          omega)
    else none
  | _ => none

/-- Read a string. -/
def string : Reader Text := fun s => (linesString s).or (lineString s)

end ScriptRunner.Toml
