import Mathlib
import ScriptRunner.Proofs.Grouping
import ScriptRunner.Proofs.LineKinds

/-!
# What a splitter has in mind

The fields of a splitter depend on each other: the parity is that of the quotes in the pending text,
the pending text consists of whole lines, and the line of the pending text is one that was read.
These rules and what the delimiter looks like are put down in `Splitter.Consistent`.

Every line keeps them (`Consistent.push`), so they hold behind any lines (`consistent_after`). They
say enough about the pending text to tell what every statement looks like that a line closes
(`read_consistent`).
-/

namespace ScriptRunner.Script

open Text

/-- A parity that is that of the quotes in a text is still so when more quotes are counted. -/
lemma Parity.after_eq_odd_iff {p : Parity} {a : Text} (h : p = .odd ↔ a.count '\'' % 2 = 1)
    (b : Text) : p.after b = .odd ↔ (a ++ b).count '\'' % 2 = 1 := by
  have hother : ∀ q : Parity, q = .odd ↔ ¬ q = .even := by
    intro q
    cases q <;> decide
  rw [hother, Parity.after_eq_even_iff, List.count_append]
  rw [hother] at h
  by_cases hp : p = .even
  · have ha : ¬ a.count '\'' % 2 = 1 := fun hodd => h.mpr hodd hp
    rw [if_pos hp]
    omega
  · have ha : a.count '\'' % 2 = 1 := h.mp hp
    rw [if_neg hp]
    omega

/-! ## Texts without white space at their ends -/

/-- A text neither begins nor ends with white space. -/
def IsTrimmed (s : Text) : Prop :=
  ∀ c, s.head? = some c ∨ s.getLast? = some c → isBlankChar c = false

/-- A text that trimming leaves as it is has no white space at its ends. -/
lemma isTrimmed_of_trim_eq {s : Text} (h : trim s = s) : IsTrimmed s := by
  rintro c (hc | hc)
  · rw [← h] at hc
    exact isBlankChar_eq_false_of_head?_trim hc
  · exact isBlankChar_eq_false_of_getLast? h hc

/-- The first character of a text without white space at its ends is not in a blank text. -/
lemma IsTrimmed.head_notMem {c : Char} {rest blank : Text} (h : IsTrimmed (c :: rest))
    (hblank : isBlank blank = true) : c ∉ blank := by
  intro hmem
  have hc : isBlankChar c = false := h c (.inl rfl)
  rw [isBlank_iff_forall.mp hblank c hmem] at hc
  cases hc

namespace Splitter

variable {s : Splitter} {line text : Text}

/-! ## One line -/

/-- All that a line can do to a splitter besides being counted: it may change the mode, or set a
delimiter that is written on it, or it is a line of code. -/
lemma push_cases (s : Splitter) (line : Text) :
    (∃ mode, (s.push line).statement = none ∧
      (s.push line).splitter = { s.counted with mode := mode }) ∨
    (∃ token, LineKind.of s.mode line = .directive (some token) ∧
      (s.push line).statement = none ∧
      (s.push line).splitter = { s.counted with delimiter := token }) ∨
    ∃ text, LineKind.of s.mode line = .code text ∧ s.push line = s.counted.pushCode text := by
  cases hkind : LineKind.of s.mode line with
  | ignorable =>
    exact .inl ⟨s.mode, by simp only [push, hkind], by simp only [push, hkind, counted]⟩
  | opensComment =>
    exact .inl ⟨.inBlockComment, by simp only [push, hkind], by simp only [push, hkind, counted]⟩
  | insideComment =>
    exact .inl ⟨s.mode, by simp only [push, hkind], by simp only [push, hkind, counted]⟩
  | closesComment =>
    exact .inl ⟨.normal, by simp only [push, hkind], by simp only [push, hkind, counted]⟩
  | directive token =>
    cases token with
    | none => exact .inl ⟨s.mode, by simp only [push, hkind], by simp only [push, hkind, counted]⟩
    | some token =>
      exact .inr (.inl ⟨token, rfl, by simp only [push, hkind], by simp only [push, hkind, counted]⟩)
  | code text => exact .inr (.inr ⟨text, rfl, push_of_code hkind⟩)

/-- A line that closes a statement is code. The statement is the body of the pending text with this
line, under the delimiter in force. -/
lemma exists_code_of_statement {statement : Statement}
    (h : (s.push line).statement = some statement) :
    ∃ text, LineKind.of s.mode line = .code text ∧
      (s.gather text).quotes = .even ∧ endsWith s.delimiter (trimEnd text) = true ∧
      body? s.delimiter (s.pending ++ text ++ ['\n']) = some statement.sql := by
  rcases push_cases s line with ⟨mode, hnone, -⟩ | ⟨token, -, hnone, -⟩ | ⟨text, hkind, hpush⟩
  · rw [h] at hnone
    cases hnone
  · rw [h] at hnone
    cases hnone
  · rw [hpush, pushCode_eq] at h
    split at h
    · next hcloses =>
      obtain ⟨sql, hbody, rfl⟩ := Option.map_eq_some_iff.mp h
      exact ⟨text, hkind, hcloses.1, hcloses.2, hbody⟩
    · cases h

/-! ## Consistent splitters -/

/-- What always holds of a splitter. -/
structure Consistent (s : Splitter) : Prop where
  /-- The parity is that of the quotes in the pending text. -/
  quotes : s.quotes = .odd ↔ s.pending.count '\'' % 2 = 1
  delimiter_ne_nil : s.delimiter ≠ []
  delimiter_trimmed : IsTrimmed s.delimiter
  delimiter_comment : contains blockOpen s.delimiter = false
  /-- The pending text consists of whole lines. -/
  pending_end : s.pending = [] ∨ s.pending.getLast? = some '\n'
  pending_comment : contains blockOpen s.pending = false
  /-- A pending text that is not blank has a line, and this line was read. -/
  pendingLine : isBlank s.pending = false → 1 ≤ s.pendingLine ∧ s.pendingLine ≤ s.lineNumber

/-- A splitter is consistent before the first line. -/
lemma consistent_fresh : Consistent {} where
  quotes := by decide
  delimiter_ne_nil := List.cons_ne_nil _ _
  delimiter_trimmed := isTrimmed_of_trim_eq (by decide)
  delimiter_comment := by decide
  pending_end := .inl rfl
  pending_comment := by decide
  pendingLine := fun hblank => nomatch hblank

namespace Consistent

/-- There are no quotes open where the pending text is blank. -/
lemma quotes_of_isBlank (h : Consistent s) (hblank : isBlank s.pending = true) :
    s.quotes = .even := by
  have hcount : s.pending.count '\'' = 0 := by
    refine List.count_eq_zero.mpr fun hmem => ?_
    exact absurd (isBlank_iff_forall.mp hblank _ hmem) (by decide)
  cases hquotes : s.quotes with
  | even => rfl
  | odd =>
    have hodd := h.quotes.mp hquotes
    omega

/-- A line of code that opens no comment can be gathered. -/
lemma gather (h : Consistent s) (hnumber : 1 ≤ s.lineNumber)
    (hcomment : contains blockOpen text = false) : Consistent (s.gather text) where
  quotes := by
    change s.quotes.after text = .odd ↔ (s.pending ++ text ++ ['\n']).count '\'' % 2 = 1
    have hlineFeed : ['\n'].count '\'' = 0 := by decide
    rw [List.count_append, hlineFeed, Nat.add_zero]
    exact Parity.after_eq_odd_iff h.quotes text
  delimiter_ne_nil := h.delimiter_ne_nil
  delimiter_trimmed := h.delimiter_trimmed
  delimiter_comment := h.delimiter_comment
  pending_end := .inr (by simp [Splitter.gather])
  pending_comment := by
    change contains blockOpen (s.pending ++ text ++ ['\n']) = false
    have hline : contains blockOpen (text ++ ['\n']) = false :=
      contains_append_cons [] (by decide) (by decide) hcomment
    rw [List.append_assoc]
    -- The mark does not go on over the line feed that the pending text ends with.
    rcases h.pending_end with hnil | hlast
    · rw [hnil, List.nil_append, hline]
    · obtain ⟨front, hfront⟩ := List.getLast?_eq_some_iff.mp hlast
      have hpending := h.pending_comment
      rw [hfront] at hpending ⊢
      have hclear : contains blockOpen front = false :=
        contains_eq_false_of_infix (List.prefix_append front ['\n']).isInfix hpending
      rw [List.append_assoc, List.singleton_append,
        contains_append_cons _ (by decide) (by decide) hclear, hline]
  pendingLine := by
    intro _
    change 1 ≤ (if isBlank s.pending then s.lineNumber else s.pendingLine) ∧
      (if isBlank s.pending then s.lineNumber else s.pendingLine) ≤ s.lineNumber
    cases hblank : isBlank s.pending with
    | true => exact ⟨hnumber, le_refl _⟩
    | false => exact h.pendingLine hblank

/-- Closing leaves nothing behind. -/
lemma close (h : Consistent s) : Consistent s.close.splitter where
  quotes := by
    change Parity.even = Parity.odd ↔ ([] : Text).count '\'' % 2 = 1
    decide
  delimiter_ne_nil := h.delimiter_ne_nil
  delimiter_trimmed := h.delimiter_trimmed
  delimiter_comment := h.delimiter_comment
  pending_end := .inl rfl
  pending_comment := by
    change contains blockOpen [] = false
    decide
  pendingLine := fun hblank => nomatch hblank

/-- A line of code is gathered, and what was gathered may be closed. -/
lemma pushCode (h : Consistent s) (hnumber : 1 ≤ s.lineNumber)
    (hcomment : contains blockOpen text = false) : Consistent (s.pushCode text).splitter := by
  have hgather := h.gather hnumber hcomment
  rw [pushCode_eq]
  split
  · exact hgather.close
  · exact hgather

/-- Every line is counted. -/
lemma counted (h : Consistent s) : Consistent s.counted :=
  { h with pendingLine := fun hblank => (h.pendingLine hblank).imp_right Nat.le_succ_of_le }

/-- Every line keeps a splitter consistent. -/
lemma push (h : Consistent s) (line : Text) : Consistent (s.push line).splitter := by
  rcases push_cases s line with
    ⟨mode, -, hsplitter⟩ | ⟨token, hkind, -, hsplitter⟩ | ⟨text, hkind, hpush⟩
  · rw [hsplitter]
    exact { h.counted with }
  · obtain ⟨hcomment, htoken⟩ := eq_of_kind_directive hkind
    obtain ⟨hpart, hblank, htrim⟩ := eq_of_directiveToken? htoken.symm
    have hne : token ≠ [] := by
      rintro rfl
      cases hblank
    rw [hsplitter]
    exact { h.counted with
      delimiter_ne_nil := hne
      delimiter_trimmed := isTrimmed_of_trim_eq htrim
      delimiter_comment := contains_eq_false_of_infix hpart hcomment }
  · obtain ⟨-, -, -, hcomment, -⟩ := eq_of_kind_code hkind
    rw [hpush]
    exact h.counted.pushCode (Nat.le_add_left 1 _) hcomment

/-- Lines keep a splitter consistent. -/
lemma after (h : Consistent s) (lines : List Text) : Consistent (s.after lines) := by
  induction lines generalizing s with
  | nil => exact h
  | cons line rest ih => exact ih (h.push line)

end Consistent

end Splitter

/-! ## Statements -/

/-- What a statement looks like that was closed under a delimiter. -/
structure IsStatement (delimiter sql : Text) : Prop where
  ne_nil : sql ≠ []
  trimmed : IsTrimmed sql
  /-- The delimiter of the usual kind is a part of the statement. -/
  underDefault : delimiter = defaultDelimiter →
    endsWith defaultDelimiter sql = true ∧ sql.count '\'' % 2 = 0 ∧
      contains blockOpen sql = false
  even : '\'' ∉ delimiter → sql.count '\'' % 2 = 0

/-- The body of a pending text is trimmed, and there is something in it. -/
lemma eq_of_body? {delimiter pending sql : Text}
    (h : Splitter.body? delimiter pending = some sql) :
    sql = trim (if delimiter = defaultDelimiter then pending else removeAll delimiter pending) ∧
      isBlank (dropEnd ';' sql) = false := by
  unfold Splitter.body? at h
  dsimp only at h
  generalize trim (if delimiter = defaultDelimiter then pending else _) = body at h ⊢
  split at h
  · cases h
  · next hblank =>
    cases h
    exact ⟨rfl, by simpa using hblank⟩

/-- A body has the quotes of the pending text if there are none in the delimiter. -/
lemma count_quotes_of_body? {delimiter pending sql : Text} (hquote : '\'' ∉ delimiter)
    (h : Splitter.body? delimiter pending = some sql) :
    sql.count '\'' = pending.count '\'' := by
  have hchar : isBlankChar '\'' = false := by decide
  rw [(eq_of_body? h).1, count_trim hchar]
  split
  · rfl
  · exact count_removeAll hquote pending

/-- What a line of code closes is a statement, if there was no comment in it and its quotes are
even. -/
lemma isStatement_of_body? {delimiter pending text sql : Text}
    (hends : endsWith delimiter (trimEnd text) = true)
    (hquotes : (pending ++ text ++ ['\n']).count '\'' % 2 = 0)
    (hcomment : contains blockOpen (pending ++ text ++ ['\n']) = false)
    (h : Splitter.body? delimiter (pending ++ text ++ ['\n']) = some sql) :
    IsStatement delimiter sql := by
  obtain ⟨hsql, hbody⟩ := eq_of_body? h
  refine ⟨?_, ?_, ?_, ?_⟩
  · rintro rfl
    cases hbody
  · refine isTrimmed_of_trim_eq ?_
    rw [hsql, trim_trim]
  · rintro rfl
    have hcount := count_quotes_of_body? (by decide) h
    rw [if_pos rfl] at hsql
    refine ⟨?_, by rw [hcount]; exact hquotes, ?_⟩
    · rw [defaultDelimiter, endsWith_singleton_iff] at hends ⊢
      have htext : isBlank text = false := by
        by_contra hblank
        rw [Bool.not_eq_false, ← trimEnd_eq_nil_iff] at hblank
        rw [hblank] at hends
        cases hends
      have hne : trimEnd text ≠ [] := by
        rintro hnil
        rw [hnil] at hends
        cases hends
      rw [hsql, trim_append_of_isBlank _ isBlank_lineFeed, getLast?_trim,
        trimEnd_append_of_not_isBlank _ htext, List.getLast?_append_of_ne_nil _ hne, hends]
    · rw [hsql]
      exact contains_eq_false_of_infix (infix_of_trim _) hcomment
  · intro hquote
    rw [count_quotes_of_body? hquote h]
    exact hquotes

/-- **A splitter is consistent behind any lines**, and whatever the next line closes is a statement:
it is not empty and has no white space at its ends. If it was closed by the delimiter of the usual
kind, it ends with this delimiter, opens no comment and has an even number of quotes, whatever
directives were met before it was closed. Under another delimiter it has an even number of quotes if
the delimiter has none. -/
theorem read_consistent (lines : List Text) :
    (Splitter.after {} lines).Consistent ∧
    ∀ line statement, ((Splitter.after {} lines).push line).statement = some statement →
      IsStatement (Splitter.after {} lines).delimiter statement.sql := by
  have hafter : (Splitter.after {} lines).Consistent := Splitter.consistent_fresh.after lines
  refine ⟨hafter, fun line statement hstatement => ?_⟩
  generalize Splitter.after {} lines = s at hafter hstatement ⊢
  obtain ⟨text, hkind, heven, hends, hbody⟩ := Splitter.exists_code_of_statement hstatement
  obtain ⟨-, -, -, hcomment, -⟩ := eq_of_kind_code hkind
  -- The pending text with the line is that of a consistent splitter with even quotes.
  have hgather := hafter.counted.gather (Nat.le_add_left 1 _) hcomment
  have hquotes : (s.pending ++ text ++ ['\n']).count '\'' % 2 = 0 := by
    have hodd := hgather.quotes
    rw [show (s.counted.gather text).quotes = .even from heven] at hodd
    have hnot : ¬ (s.pending ++ text ++ ['\n']).count '\'' % 2 = 1 := fun h => by cases hodd.mpr h
    omega
  exact isStatement_of_body? hends hquotes hgather.pending_comment hbody

/-- A statement that was begun under one delimiter, inside quotes, and is closed under the usual
one. -/
theorem read_consistent_directiveInside :
    ((Splitter.after {} ["DELIMITER $$", "SELECT 'a;", "DELIMITER ;"]).push "b';").statement =
      some ⟨"SELECT 'a;\nb';", 2⟩ ∧
    IsStatement (Splitter.after {} ["DELIMITER $$", "SELECT 'a;", "DELIMITER ;"]).delimiter
      "SELECT 'a;\nb';" := by
  have hstatement :
      ((Splitter.after {} ["DELIMITER $$", "SELECT 'a;", "DELIMITER ;"]).push "b';").statement =
        some ⟨"SELECT 'a;\nb';", 2⟩ := by decide +kernel
  exact ⟨hstatement, (read_consistent ["DELIMITER $$", "SELECT 'a;", "DELIMITER ;"]).2 "b';" _
    hstatement⟩

end ScriptRunner.Script
