import Mathlib
import ScriptRunner.Proofs.Occurrences
import ScriptRunner.Proofs.SplitterRuns
import ScriptRunner.Proofs.Trimming
import ScriptRunner.Script.Outline

/-!
# The statements of a script are its groups of code lines

A splitter keeps six things in mind from line to line; the outline of a script is computed from the
lines of code alone. Between two lines, what the splitter has pending is the group that the lines of
code since the last statement form (`Gathered`). A further line of code either ends this group, and
then gives the statement that the group makes, or becomes a part of it; all other lines leave the
group as it is. Hence reading line by line gives the outline (`statements_eq_outline`).
-/

namespace ScriptRunner.Script

open Text

/-! ## Lines of code -/

/-- The outline makes of each line what its kind says. -/
lemma codeLines_cons (mode : ScanMode) (delimiter : Text) (number : ℕ) (line : Text)
    (rest : List Text) :
    codeLines mode delimiter number (line :: rest) =
      match LineKind.of mode line with
      | .ignorable => codeLines mode delimiter (number + 1) rest
      | .opensComment => codeLines .inBlockComment delimiter (number + 1) rest
      | .insideComment => codeLines mode delimiter (number + 1) rest
      | .closesComment => codeLines .normal delimiter (number + 1) rest
      | .directive token => codeLines mode (token.getD delimiter) (number + 1) rest
      | .code text => ⟨number, text, delimiter⟩ :: codeLines mode delimiter (number + 1) rest := by
  rw [codeLines.eq_def, LineKind.of]
  by_cases hi : isIgnorable line = true
  · simp [hi]
  by_cases ho : contains blockOpen (stripComments line) = true
  · simp [hi, ho]
  cases mode with
  | inBlockComment =>
    by_cases hc : contains blockClose (stripComments line) = true
    · simp [hi, ho, hc]
    · simp [hi, ho, hc]
  | normal =>
    by_cases hd : isDirective (stripComments line) = true
    · simp [hi, ho, hd]
    · simp [hi, ho, hd]

namespace CodeLine

variable {group more : List CodeLine} {line : CodeLine}

/-- The text of a group grows by a line at its end. -/
lemma joined_append (group more : List CodeLine) :
    joined (group ++ more) = joined group ++ joined more := by
  simp [joined]

/-- The text of one line of code. -/
lemma joined_singleton (line : CodeLine) : joined [line] = line.text ++ ['\n'] := by
  simp [joined]

/-- The text of a group is blank exactly when no line of it has anything else. -/
lemma isBlank_joined (group : List CodeLine) :
    isBlank (joined group) = group.all fun line => isBlank line.text := by
  induction group with
  | nil => rfl
  | cons line rest ih =>
    have hjoined : joined (line :: rest) = line.text ++ ['\n'] ++ joined rest := by simp [joined]
    rw [hjoined, isBlank_append, isBlank_append, isBlank_lineFeed, Bool.and_true, ih, List.all_cons]

/-- A group that is blank has no first line. -/
lemma find?_eq_none_of_isBlank (h : isBlank (joined group) = true) :
    (group.find? fun line => !isBlank line.text) = none := by
  rw [isBlank_joined, List.all_eq_true] at h
  rw [List.find?_eq_none]
  intro line hline
  simp [h line hline]

/-- A group that is not blank keeps its first line. -/
lemma firstNumber_append_of_not_isBlank (more : List CodeLine)
    (h : isBlank (joined group) = false) : firstNumber (group ++ more) = firstNumber group := by
  have hsome : (group.find? fun line => !isBlank line.text).isSome = true := by
    rw [List.find?_isSome]
    rw [isBlank_joined, List.all_eq_false] at h
    obtain ⟨line, hline, hblank⟩ := h
    exact ⟨line, hline, by simpa using hblank⟩
  obtain ⟨first, hfirst⟩ := Option.isSome_iff_exists.mp hsome
  rw [firstNumber, firstNumber, List.find?_append, hfirst, Option.some_or]

/-- Behind blank lines, the first line is the next one that is not blank. -/
lemma firstNumber_append_of_isBlank (h : isBlank (joined group) = true)
    (hline : isBlank line.text = false) : firstNumber (group ++ [line]) = line.number := by
  rw [firstNumber, List.find?_append, find?_eq_none_of_isBlank h, Option.none_or]
  simp [hline]

/-- Of a blank text nothing is left without its delimiters. -/
lemma isBlank_withoutDelimiter {s : Text} (delimiter : Text) (h : isBlank s = true) :
    isBlank (withoutDelimiter delimiter s) = true := by
  rw [withoutDelimiter, isBlank_trim]
  split
  · exact h
  · exact isBlank_of_sublist (removeAll_sublist delimiter s) h

end CodeLine

/-! ## What a splitter has gathered -/

/-- A splitter whose pending text are the lines of a group that no line has closed. As long as these
lines are blank it does not matter which line the splitter takes for the first. -/
structure Gathered (s : Splitter) (group : List CodeLine) : Prop where
  pending : s.pending = CodeLine.joined group
  quotes : s.quotes = Parity.even.after (group.flatMap CodeLine.text)
  line : isBlank s.pending = false → s.pendingLine = CodeLine.firstNumber group

namespace Splitter

variable {s : Splitter} {group : List CodeLine} {text : Text}

/-- The splitter that has taken a line of code to its pending text. -/
def gather (s : Splitter) (text : Text) : Splitter :=
  { s with
    pendingLine := if isBlank s.pending then s.lineNumber else s.pendingLine
    pending := s.pending ++ text ++ ['\n']
    quotes := s.quotes.after text }

/-- The line of code that a splitter makes of a text. -/
def codeLine (s : Splitter) (text : Text) : CodeLine := ⟨s.lineNumber, text, s.delimiter⟩

/-- A line of code is gathered first, and then perhaps closes what was gathered. -/
lemma pushCode_eq (s : Splitter) (text : Text) :
    s.pushCode text =
      if (s.gather text).quotes = .even ∧ endsWith s.delimiter (trimEnd text) then
        (s.gather text).close
      else { splitter := s.gather text } := rfl

/-- Nothing is gathered at the start of a script. -/
lemma gathered_nil (h : s.pending = []) (hq : s.quotes = .even) : Gathered s [] where
  pending := h
  quotes := hq
  line := fun hblank => by rw [h] at hblank; cases hblank

/-- A gathered line comes behind the group. -/
lemma gathered_gather (h : Gathered s group) :
    Gathered (s.gather text) (group ++ [s.codeLine text]) where
  pending := by
    rw [CodeLine.joined_append, CodeLine.joined_singleton, ← h.pending, ← List.append_assoc]
    rfl
  quotes := by
    have hq : (s.gather text).quotes = s.quotes.after text := rfl
    rw [hq, h.quotes, List.flatMap_append, ← Parity.after_append]
    simp [codeLine]
  line := by
    intro hblank
    have hpending : (s.gather text).pending = s.pending ++ text ++ ['\n'] := rfl
    have hline : (s.gather text).pendingLine =
        if isBlank s.pending then s.lineNumber else s.pendingLine := rfl
    rw [hline]
    cases hb : isBlank s.pending with
    | true =>
      have htext : isBlank text = false := by simpa [hpending, hb] using hblank
      rw [h.pending] at hb
      rw [CodeLine.firstNumber_append_of_isBlank hb htext]
      rfl
    | false =>
      have hfirst : s.pendingLine = CodeLine.firstNumber group := h.line hb
      rw [h.pending] at hb
      rw [CodeLine.firstNumber_append_of_not_isBlank _ hb, ← hfirst]
      rfl

/-- A line of code ends its group exactly when the splitter closes the pending text behind it. -/
lemma codeLine_closes_iff (h : Gathered s group) :
    (s.codeLine text).closes group = true ↔
      (s.gather text).quotes = .even ∧ endsWith s.delimiter (trimEnd text) = true := by
  rw [CodeLine.closes, Bool.and_eq_true, beq_iff_eq, (gathered_gather h).quotes,
    Parity.after_eq_even_iff, if_pos rfl]
  rfl

/-- The text that a delimiter closes is not blank if it has a body. -/
lemma isBlank_eq_false_of_body? {delimiter pending sql : Text}
    (h : body? delimiter pending = some sql) : isBlank pending = false := by
  by_contra hblank
  rw [Bool.not_eq_false] at hblank
  have hbody : isBlank (dropEnd ';' (CodeLine.withoutDelimiter delimiter pending)) = true :=
    isBlank_dropEnd_of_isBlank ';' (CodeLine.isBlank_withoutDelimiter delimiter hblank)
  rw [CodeLine.withoutDelimiter] at hbody
  simp only [body?, hbody, if_true] at h
  cases h

/-- What closing gives is the statement of the group, if the last line was gathered under the
delimiter in force. -/
lemma statement_close (h : Gathered s group)
    (hlast : group.getLast?.map CodeLine.delimiter = some s.delimiter) :
    s.close.statement = CodeLine.statement? group := by
  have hbody : body? s.delimiter s.pending =
      if isBlank (dropEnd ';' (CodeLine.withoutDelimiter s.delimiter s.pending)) then none
      else some (CodeLine.withoutDelimiter s.delimiter s.pending) := rfl
  have hclose : s.close.statement = (body? s.delimiter s.pending).map (⟨·, s.pendingLine⟩) := rfl
  rw [hclose, hbody, CodeLine.statement?, hlast, Option.getD_some, ← h.pending]
  cases hb : isBlank (dropEnd ';' (CodeLine.withoutDelimiter s.delimiter s.pending)) with
  | true => rfl
  | false =>
    have hpending : isBlank s.pending = false :=
      isBlank_eq_false_of_body? (hbody.trans (by rw [hb]; rfl))
    rw [← h.line hpending]
    rfl

/-- A line of code that ends its group gives the statement of the group, and nothing is gathered
behind it. -/
lemma pushCode_of_closes (h : Gathered s group) (hc : (s.codeLine text).closes group = true) :
    (s.pushCode text).statement = CodeLine.statement? (group ++ [s.codeLine text]) ∧
      Gathered (s.pushCode text).splitter [] := by
  rw [codeLine_closes_iff h] at hc
  rw [pushCode_eq, if_pos hc]
  refine ⟨statement_close (gathered_gather h) ?_, gathered_nil rfl rfl⟩
  simp [codeLine, gather]

/-- A line of code that does not end its group becomes a part of it. -/
lemma pushCode_of_not_closes (h : Gathered s group)
    (hc : (s.codeLine text).closes group = false) :
    (s.pushCode text).statement = none ∧
      Gathered (s.pushCode text).splitter (group ++ [s.codeLine text]) := by
  rw [← Bool.not_eq_true, codeLine_closes_iff h] at hc
  rw [pushCode_eq, if_neg hc]
  exact ⟨rfl, gathered_gather h⟩

/-- Code changes neither the mode nor the delimiter, nor is it counted again. -/
lemma pushCode_frame (s : Splitter) (text : Text) :
    (s.pushCode text).splitter.mode = s.mode ∧
      (s.pushCode text).splitter.delimiter = s.delimiter ∧
      (s.pushCode text).splitter.lineNumber = s.lineNumber := by
  rw [pushCode_eq]
  split
  · exact ⟨rfl, rfl, rfl⟩
  · exact ⟨rfl, rfl, rfl⟩

/-! ## Reading line by line -/

/-- The splitter that has counted one more line. -/
def counted (s : Splitter) : Splitter := { s with lineNumber := s.lineNumber + 1 }

/-- A line that is no code does the same to all splitters in one mode: it gives no statement, and
leaves what was gathered as it is. It may change the mode or set a delimiter, as the outline has
it. -/
lemma push_of_not_code {mode : ScanMode} {line : Text}
    (h : ∀ text, LineKind.of mode line ≠ .code text) :
    ∃ (behind : ScanMode) (token : Option Text),
      (∀ s : Splitter, s.mode = mode →
        (s.push line).statement = none ∧
          (s.push line).splitter =
            { s.counted with mode := behind, delimiter := token.getD s.delimiter }) ∧
      ∀ delimiter number rest, codeLines mode delimiter number (line :: rest) =
        codeLines behind (token.getD delimiter) (number + 1) rest := by
  cases hkind : LineKind.of mode line with
  | ignorable =>
    refine ⟨mode, none, ?_, fun _ _ _ => by rw [codeLines_cons, hkind]; rfl⟩
    rintro s rfl
    simp only [push, hkind, counted, Option.getD_none, and_self]
  | opensComment =>
    refine ⟨.inBlockComment, none, ?_, fun _ _ _ => by rw [codeLines_cons, hkind]; rfl⟩
    rintro s rfl
    simp only [push, hkind, counted, Option.getD_none, and_self]
  | insideComment =>
    refine ⟨mode, none, ?_, fun _ _ _ => by rw [codeLines_cons, hkind]; rfl⟩
    rintro s rfl
    simp only [push, hkind, counted, Option.getD_none, and_self]
  | closesComment =>
    refine ⟨.normal, none, ?_, fun _ _ _ => by rw [codeLines_cons, hkind]; rfl⟩
    rintro s rfl
    simp only [push, hkind, counted, Option.getD_none, and_self]
  | directive token =>
    refine ⟨mode, token, ?_, fun _ _ _ => by rw [codeLines_cons, hkind]⟩
    rintro s rfl
    cases token <;> simp only [push, hkind, counted, Option.getD, and_self]
  | code text => exact absurd hkind (h text)

/-- A line of code is read as such, behind the count of the line. -/
lemma push_of_code {line : Text} (h : LineKind.of s.mode line = .code text) :
    s.push line = s.counted.pushCode text := by
  simp only [push, h]
  rfl

end Splitter

/-- The statements that some groups make, and the remainder that the lines behind them make. -/
def drawn (parts : List (List CodeLine) × List CodeLine) : List Statement × Option Statement :=
  (parts.1.filterMap CodeLine.statement?, CodeLine.remainder? parts.2)

/-- A line that ends its group adds the statement of the group in front. -/
lemma drawn_groups_of_closes {group : List CodeLine} {line : CodeLine} (rest : List CodeLine)
    (h : line.closes group = true) :
    drawn (groups group (line :: rest)) =
      ((CodeLine.statement? (group ++ [line])).toList ++ (drawn (groups [] rest)).1,
        (drawn (groups [] rest)).2) := by
  rw [groups, if_pos h, drawn, List.filterMap_cons]
  cases CodeLine.statement? (group ++ [line]) with
  | none => rfl
  | some statement => rfl

/-- A line that does not end its group is added to it. -/
lemma drawn_groups_of_not_closes {group : List CodeLine} {line : CodeLine} (rest : List CodeLine)
    (h : line.closes group = false) :
    drawn (groups group (line :: rest)) = drawn (groups (group ++ [line]) rest) := by
  rw [groups, if_neg (by rw [h]; exact Bool.false_ne_true)]

namespace Splitter

variable {s : Splitter} {group : List CodeLine}

/-- The remainder is made of the gathered lines. -/
lemma remainder_eq (h : Gathered s group) : s.remainder = CodeLine.remainder? group := by
  rw [remainder, CodeLine.remainder?, ← h.pending]
  cases hblank : isBlank s.pending with
  | true => rfl
  | false =>
    rw [← h.line hblank]

/-- What is read from some lines are the groups that their code forms behind what was gathered
before. -/
lemma read_eq_drawn_groups (h : Gathered s group) (lines : List Text) :
    (s.statements lines, (s.after lines).remainder) =
      drawn (groups group (codeLines s.mode s.delimiter (s.lineNumber + 1) lines)) := by
  induction lines generalizing s group with
  | nil => exact congrArg (Prod.mk []) (remainder_eq h)
  | cons line rest ih =>
    rw [statements, after]
    by_cases hcode : ∃ text, LineKind.of s.mode line = .code text
    · obtain ⟨text, htext⟩ := hcode
      have hcounted : Gathered s.counted group := ⟨h.pending, h.quotes, h.line⟩
      have hlines : codeLines s.mode s.delimiter (s.lineNumber + 1) (line :: rest) =
          s.counted.codeLine text :: codeLines s.mode s.delimiter (s.lineNumber + 2) rest := by
        rw [codeLines_cons, htext]
        rfl
      obtain ⟨hmode, hdelimiter, hnumber⟩ := pushCode_frame s.counted text
      have hrest : ∀ more, Gathered (s.counted.pushCode text).splitter more →
          ((s.counted.pushCode text).splitter.statements rest,
            ((s.counted.pushCode text).splitter.after rest).remainder) =
          drawn (groups more (codeLines s.mode s.delimiter (s.lineNumber + 2) rest)) := by
        intro more hmore
        rw [ih hmore, hmode, hdelimiter, hnumber]
        rfl
      rw [push_of_code htext, hlines]
      cases hc : (s.counted.codeLine text).closes group with
      | true =>
        obtain ⟨hstatement, hgathered⟩ := pushCode_of_closes hcounted hc
        rw [drawn_groups_of_closes _ hc, ← hrest [] hgathered, hstatement]
      | false =>
        obtain ⟨hstatement, hgathered⟩ := pushCode_of_not_closes hcounted hc
        rw [drawn_groups_of_not_closes _ hc, ← hrest _ hgathered, hstatement]
        rfl
    · obtain ⟨mode, token, hpush, hlines⟩ := push_of_not_code (not_exists.mp hcode)
      obtain ⟨hstatement, hsplitter⟩ := hpush s rfl
      rw [hstatement, hsplitter, hlines]
      exact ih ⟨h.pending, h.quotes, h.line⟩

end Splitter

/-! ## The outline -/

/-- **Reading line by line gives the outline.** A fresh splitter that reads any lines gives the
statements of their outline in order, and at the end the same remainder. So does the splitting of a
script, whose lines are those behind its byte order mark. -/
theorem statements_eq_outline :
    (∀ lines : List Text,
      (Splitter.statements {} lines, (Splitter.after {} lines).remainder) = outline lines) ∧
    ∀ script : Text,
      ((split script).statements, (split script).remainder) =
        outline (lines (dropByteOrderMark script)) := by
  have hlines : ∀ lines : List Text,
      (Splitter.statements {} lines, (Splitter.after {} lines).remainder) = outline lines :=
    Splitter.read_eq_drawn_groups (Splitter.gathered_nil rfl rfl)
  refine ⟨hlines, fun script => ?_⟩
  rw [split_eq]
  exact hlines _

end ScriptRunner.Script
