import Mathlib
import ScriptRunner.Proofs.Grouping

/-!
# Comments between the lines of a script

A line that is ignored, and outside of comments a block comment over several lines, can be put
anywhere between the lines of a script. The statements and the remainder stay the same; only the
numbers of the lines behind the comment grow by the length of the comment (`read_insert_comment`).

Two readers that agree on all but the numbers of lines give the same texts (`Renumbered`). As long
as both count the lines that they read in the same way, they keep agreeing, and the numbers that
the one gives are those of the other renumbered.
-/

namespace ScriptRunner.Script

open Text

/-! ## Comments -/

/-- A line that opens a comment over several lines. -/
def OpensComment (line : Text) : Prop :=
  isIgnorable line = false ∧ contains blockOpen (stripComments line) = true

/-- A line that ends a comment over several lines. -/
def EndsComment (line : Text) : Prop :=
  isIgnorable line = false ∧ contains blockClose (stripComments line) = true ∧
    contains blockOpen (stripComments line) = false

/-- Lines that are a comment to a reader in a mode. -/
inductive IsComment : ScanMode → List Text → Prop
  /-- A line that is ignored in every mode. -/
  | ignorable (mode : ScanMode) (line : Text) (hline : isIgnorable line = true) :
      IsComment mode [line]
  /-- A block comment, from the line that opens it to the first line that ends it. -/
  | block (opener : Text) (inside : List Text) (closer : Text) (hopener : OpensComment opener)
      (hinside : ∀ line ∈ inside, ¬ EndsComment line) (hcloser : EndsComment closer) :
      IsComment .normal (opener :: inside ++ [closer])

namespace Splitter

variable {s t : Splitter} {line : Text}

/-- Every line is counted. -/
lemma lineNumber_push (s : Splitter) (line : Text) :
    (s.push line).splitter.lineNumber = s.lineNumber + 1 := by
  by_cases hcode : ∃ text, LineKind.of s.mode line = .code text
  · obtain ⟨text, htext⟩ := hcode
    rw [push_of_code htext, (pushCode_frame s.counted text).2.2]
    rfl
  · obtain ⟨mode, token, hpush, -⟩ := push_of_not_code (not_exists.mp hcode)
    obtain ⟨-, hsplitter⟩ := hpush s rfl
    rw [hsplitter]
    rfl

/-- As many lines are counted as are read. -/
lemma lineNumber_after (s : Splitter) (lines : List Text) :
    (s.after lines).lineNumber = s.lineNumber + lines.length := by
  induction lines generalizing s with
  | nil => rfl
  | cons line rest ih =>
    rw [after, ih, lineNumber_push, List.length_cons, Nat.add_assoc, Nat.add_comm 1]

/-- An ignored line is counted and nothing else. -/
lemma push_of_ignorable (h : isIgnorable line = true) :
    s.push line = { splitter := s.counted } := by
  have hkind : LineKind.of s.mode line = .ignorable := by simp [LineKind.of, h]
  simp only [push, hkind, counted]

/-- A line that opens a comment is the first one inside of it. -/
lemma push_of_opensComment (h : OpensComment line) :
    s.push line = { splitter := { s.counted with mode := .inBlockComment } } := by
  have hkind : LineKind.of s.mode line = .opensComment := by simp [LineKind.of, h.1, h.2]
  simp only [push, hkind, counted]

/-- The reader stays inside a comment on every line that does not end it. -/
lemma push_of_not_endsComment (hmode : s.mode = .inBlockComment) (h : ¬ EndsComment line) :
    s.push line = { splitter := s.counted } := by
  have hstay : { s.counted with mode := .inBlockComment } = s.counted := by
    rw [← hmode]
    rfl
  by_cases hi : isIgnorable line = true
  · exact push_of_ignorable hi
  rw [Bool.not_eq_true] at hi
  by_cases ho : contains blockOpen (stripComments line) = true
  · rw [push_of_opensComment ⟨hi, ho⟩, hstay]
  rw [Bool.not_eq_true] at ho
  have hc : contains blockClose (stripComments line) = false := by
    by_contra hc
    exact h ⟨hi, by simpa using hc, ho⟩
  have hkind : LineKind.of s.mode line = .insideComment := by
    simp [LineKind.of, hmode, hi, ho, hc]
  simp only [push, hkind, counted]

/-- Behind the line that ends a comment the reader is outside of comments. -/
lemma push_of_endsComment (hmode : s.mode = .inBlockComment) (h : EndsComment line) :
    s.push line = { splitter := { s.counted with mode := .normal } } := by
  have hkind : LineKind.of s.mode line = .closesComment := by
    simp [LineKind.of, hmode, h.1, h.2.1, h.2.2]
  simp only [push, hkind, counted]

/-- The lines inside a comment are counted and nothing else. -/
lemma read_inside {lines : List Text} (hmode : s.mode = .inBlockComment)
    (h : ∀ line ∈ lines, ¬ EndsComment line) :
    s.statements lines = [] ∧
      s.after lines = { s with lineNumber := s.lineNumber + lines.length } := by
  induction lines generalizing s with
  | nil => exact ⟨rfl, rfl⟩
  | cons line rest ih =>
    have hline : s.push line = { splitter := s.counted } :=
      push_of_not_endsComment hmode (h line List.mem_cons_self)
    obtain ⟨hstatements, hafter⟩ :=
      ih (s := s.counted) hmode fun l hl => h l (List.mem_cons_of_mem _ hl)
    rw [statements, after, hline, hstatements, hafter, List.length_cons]
    refine ⟨rfl, ?_⟩
    simp only [counted, Nat.add_assoc, Nat.add_comm 1]

/-- A comment gives no statement, and behind it only the count of the lines is another one. -/
lemma read_comment {comment : List Text} (h : IsComment s.mode comment) :
    s.statements comment = [] ∧
      s.after comment = { s with lineNumber := s.lineNumber + comment.length } := by
  generalize hmode : s.mode = mode at h
  cases h with
  | ignorable _ line hline =>
    subst hmode
    rw [statements, after, push_of_ignorable hline]
    exact ⟨rfl, rfl⟩
  | block opener inside closer hopener hinside hcloser =>
    obtain ⟨hstatements, hafter⟩ :=
      read_inside (s := { s.counted with mode := .inBlockComment }) rfl hinside
    rw [List.cons_append, statements, after, push_of_opensComment hopener, statements_append,
      after_append, hstatements, hafter]
    simp only [statements, after]
    rw [push_of_endsComment rfl hcloser]
    refine ⟨rfl, ?_⟩
    simp only [counted, ← hmode, List.length_cons, List.length_append, List.length_nil]
    congr 1
    omega

end Splitter

/-! ## Renumbered lines -/

/-- The statement with the number of its line replaced. -/
def Statement.renumber (f : ℕ → ℕ) (statement : Statement) : Statement :=
  { statement with line := f statement.line }

/-- Two readers that agree on all but the numbers of lines. The line that the one has noted for its
pending text is that of the other renumbered; for a blank text the note has no meaning. -/
structure Renumbered (f : ℕ → ℕ) (s t : Splitter) : Prop where
  delimiter : t.delimiter = s.delimiter
  mode : t.mode = s.mode
  quotes : t.quotes = s.quotes
  pending : t.pending = s.pending
  pendingLine : isBlank s.pending = false → t.pendingLine = f s.pendingLine

namespace Renumbered

open Splitter

variable {f : ℕ → ℕ} {s t : Splitter}

/-- What is closed has the same text in both, and the line of the one is that of the other
renumbered. -/
lemma close (h : Renumbered f s t) :
    t.close.statement = s.close.statement.map (Statement.renumber f) ∧
      Renumbered f s.close.splitter t.close.splitter := by
  refine ⟨?_, h.delimiter, h.mode, rfl, rfl, fun hblank => nomatch hblank⟩
  have hclose : ∀ u : Splitter,
      u.close.statement = (body? u.delimiter u.pending).map (⟨·, u.pendingLine⟩) := fun _ => rfl
  rw [hclose, hclose, h.delimiter, h.pending]
  cases hbody : body? s.delimiter s.pending with
  | none => rfl
  | some sql =>
    rw [Option.map_some, h.pendingLine (isBlank_eq_false_of_body? hbody)]
    rfl

/-- A line of code is gathered in both, if the numbers that they give to it fit. -/
lemma gather (h : Renumbered f s t) (hnumber : f s.lineNumber = t.lineNumber) (text : Text) :
    Renumbered f (s.gather text) (t.gather text) where
  delimiter := h.delimiter
  mode := h.mode
  quotes := congrArg (Parity.after · text) h.quotes
  pending := congrArg (· ++ text ++ ['\n']) h.pending
  pendingLine := by
    intro _
    change (if isBlank t.pending then t.lineNumber else t.pendingLine) =
      f (if isBlank s.pending then s.lineNumber else s.pendingLine)
    rw [h.pending]
    cases hblank : isBlank s.pending with
    | true => exact hnumber.symm
    | false => exact h.pendingLine hblank

/-- A line of code closes the pending text of both or of neither. -/
lemma pushCode (h : Renumbered f s t) (hnumber : f s.lineNumber = t.lineNumber) (text : Text) :
    (t.pushCode text).statement = (s.pushCode text).statement.map (Statement.renumber f) ∧
      Renumbered f (s.pushCode text).splitter (t.pushCode text).splitter := by
  have hgather := h.gather hnumber text
  rw [pushCode_eq, pushCode_eq, hgather.quotes, h.delimiter]
  split
  · exact hgather.close
  · exact ⟨rfl, hgather⟩

/-- Two readers that agree go on to agree on the next line, if the numbers that they give to it
fit. -/
lemma push (h : Renumbered f s t) (hnumber : f (s.lineNumber + 1) = t.lineNumber + 1)
    (line : Text) :
    (t.push line).statement = (s.push line).statement.map (Statement.renumber f) ∧
      Renumbered f (s.push line).splitter (t.push line).splitter := by
  have hcounted : Renumbered f s.counted t.counted :=
    ⟨h.delimiter, h.mode, h.quotes, h.pending, h.pendingLine⟩
  by_cases hcode : ∃ text, LineKind.of s.mode line = .code text
  · obtain ⟨text, hkind⟩ := hcode
    have hkind' : LineKind.of t.mode line = .code text := by rw [h.mode, hkind]
    rw [push_of_code hkind, push_of_code hkind']
    exact hcounted.pushCode hnumber text
  · obtain ⟨mode, token, hpush, -⟩ := push_of_not_code (not_exists.mp hcode)
    obtain ⟨hnone, hs⟩ := hpush s rfl
    obtain ⟨hnone', ht⟩ := hpush t h.mode
    rw [hnone, hnone', hs, ht]
    exact ⟨rfl, { hcounted with
      delimiter := congrArg token.getD h.delimiter
      mode := rfl }⟩

/-- Two readers that agree go on to agree on further lines, if the numbers that they give to these
fit. -/
lemma read (h : Renumbered f s t) (lines : List Text)
    (hnumbers : ∀ k < lines.length, f (s.lineNumber + k + 1) = t.lineNumber + k + 1) :
    t.statements lines = (s.statements lines).map (Statement.renumber f) ∧
      Renumbered f (s.after lines) (t.after lines) := by
  induction lines generalizing s t with
  | nil => exact ⟨rfl, h⟩
  | cons line rest ih =>
    obtain ⟨hstatement, hpush⟩ := h.push (hnumbers 0 (Nat.zero_lt_succ _)) line
    have hrest : ∀ k < rest.length, f ((s.push line).splitter.lineNumber + k + 1) =
        (t.push line).splitter.lineNumber + k + 1 := by
      intro k hk
      rw [lineNumber_push, lineNumber_push, Nat.add_right_comm _ 1 k, Nat.add_right_comm _ 1 k]
      exact hnumbers (k + 1) (Nat.succ_lt_succ hk)
    obtain ⟨hstatements, hafter⟩ := ih hpush hrest
    rw [statements, hstatement, hstatements, statements, List.map_append]
    refine ⟨?_, hafter⟩
    cases (s.push line).statement <;> rfl

/-- The text behind the last statement is the same in both, and the line of the one is that of the
other renumbered. -/
lemma remainder (h : Renumbered f s t) :
    t.remainder = s.remainder.map (Statement.renumber f) := by
  rw [Splitter.remainder, Splitter.remainder, h.pending]
  cases hblank : isBlank s.pending with
  | true => rfl
  | false =>
    rw [h.pendingLine hblank]
    rfl

end Renumbered

/-! ## Comments put in -/

/-- The number of a line when some lines are put in behind the first ones. -/
def numberBehind (before count number : ℕ) : ℕ := if number ≤ before then number else number + count

/-- **Comments are no part of any statement.** If a comment is put in between lines, the statements
are the same texts in the same order, and so is the remainder. The line of each stays the same if it
is in front of the comment, and grows by the length of the comment if it is behind. -/
theorem read_insert_comment (before comment behind : List Text)
    (h : IsComment (Splitter.after {} before).mode comment) :
    Splitter.statements {} (before ++ comment ++ behind) =
      (Splitter.statements {} (before ++ behind)).map
        (Statement.renumber (numberBehind before.length comment.length)) ∧
    (Splitter.after {} (before ++ comment ++ behind)).remainder =
      (Splitter.after {} (before ++ behind)).remainder.map
        (Statement.renumber (numberBehind before.length comment.length)) := by
  set f := numberBehind before.length comment.length with hf
  have hlow : ∀ k ≤ before.length, f k = k := fun k hk => if_pos hk
  have hhigh : ∀ k, before.length < k → f k = k + comment.length :=
    fun k hk => if_neg (Nat.not_le.2 hk)
  -- In front of the comment, the numbers are those that they were before.
  have hstart : Renumbered f {} {} := ⟨rfl, rfl, rfl, rfl, fun hblank => nomatch hblank⟩
  obtain ⟨hfront, hbefore⟩ := hstart.read before fun k hk => hlow _ (by
    change 0 + k + 1 ≤ before.length
    omega)
  obtain ⟨hnothing, hcomment⟩ := Splitter.read_comment h
  have hcount : (Splitter.after {} before).lineNumber = before.length :=
    (Splitter.lineNumber_after {} before).trans (Nat.zero_add _)
  -- Behind it, one reader has counted more lines than the other.
  have hdelayed :
      Renumbered f (Splitter.after {} before) (Splitter.after {} (before ++ comment)) := by
    rw [Splitter.after_append, hcomment]
    exact ⟨rfl, rfl, rfl, rfl, hbefore.pendingLine⟩
  have hdelay : (Splitter.after {} (before ++ comment)).lineNumber =
      before.length + comment.length := by
    rw [Splitter.lineNumber_after, List.length_append]
    exact Nat.zero_add _
  obtain ⟨hback, hbehind⟩ := hdelayed.read behind fun k _ => by
    rw [hcount, hdelay, hhigh _ (by omega)]
    omega
  constructor
  · rw [Splitter.statements_append, hback, Splitter.statements_append, hnothing, List.append_nil,
      Splitter.statements_append, List.map_append, ← hfront]
  · rw [Splitter.after_append, hbehind.remainder, Splitter.after_append]

/-- A comment over three lines in the middle of a statement: the statement keeps its text and its
line, and the one behind it comes three lines later. -/
theorem read_insert_comment_insideStatement :
    IsComment (Splitter.after {} ["A;", "B"]).mode ["/* C", "# */", "D */"] ∧
    Splitter.statements {} ((["A;", "B"] : List Text) ++ (["/* C", "# */", "D */"] : List Text)
        ++ (["E;", "F;"] : List Text)) =
      [⟨"A;", 1⟩, ⟨"B\nE;", 2⟩, ⟨"F;", 7⟩] := by
  have hmode : (Splitter.after {} ["A;", "B"]).mode = .normal := by decide +kernel
  have hcomment : IsComment (Splitter.after {} ["A;", "B"]).mode ["/* C", "# */", "D */"] := by
    rw [hmode]
    refine .block "/* C" ["# */"] "D */" ⟨by decide +kernel, by decide +kernel⟩ ?_
      ⟨by decide +kernel, by decide +kernel, by decide +kernel⟩
    intro line hline hends
    rw [List.mem_singleton.1 hline] at hends
    exact absurd hends.1 (by decide +kernel)
  refine ⟨hcomment, ?_⟩
  rw [(read_insert_comment ["A;", "B"] ["/* C", "# */", "D */"] ["E;", "F;"] hcomment).1]
  decide +kernel

end ScriptRunner.Script
