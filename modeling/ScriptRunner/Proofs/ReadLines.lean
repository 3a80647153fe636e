import Mathlib
import ScriptRunner.Proofs.CommentLines
import ScriptRunner.Proofs.SplitterState

/-!
# The lines of a script as they are read

What a line of a script does depends on the splitter that reads it. Here both are put together
(`ReadLine`), so that one can speak of a line by its place in the script: its number, what it adds
to the pending text, whether it closes this text and which statement it then gives.

The lines since the last one that closes are those that a splitter has gathered
(`Splitter.gathered_sinceClose`), and the next line of a script either closes them or is one more of
them. What holds of a statement or of the remainder follows from these lines alone.
-/

namespace ScriptRunner.Script

open Text

/-- A line of a script, with the splitter that reads it. -/
structure ReadLine where
  splitter : Splitter
  line : Text
  deriving DecidableEq, Repr

namespace ReadLine

/-- What reading the line gives. -/
def step (r : ReadLine) : Step := r.splitter.push r.line

/-- The number of the line in its script. -/
def number (r : ReadLine) : ℕ := r.splitter.lineNumber + 1

/-- What the line is to the splitter. -/
def kind (r : ReadLine) : LineKind := LineKind.of r.splitter.mode r.line

/-- What the line adds to the pending text, apart from the line feed behind it. -/
def text (r : ReadLine) : Text :=
  match r.kind with
  | .code text => text
  | _ => []

/-- The line as a line of code, if it is one. -/
def codeLine? (r : ReadLine) : Option CodeLine :=
  match r.kind with
  | .code text => some ⟨r.number, text, r.splitter.delimiter⟩
  | _ => none

/-- Whether the line closes the pending text: it is code that ends with the delimiter, and leaves no
quote open. -/
def closes (r : ReadLine) : Bool :=
  match r.kind with
  | .code text =>
    (r.splitter.gather text).quotes == .even && endsWith r.splitter.delimiter (trimEnd text)
  | _ => false

/-- The statement that the line gives. -/
def statement? (r : ReadLine) : Option Statement := r.step.statement

variable {r : ReadLine} {group : List CodeLine}

/-- A line that is not code adds no text. -/
lemma text_of_codeLine?_eq_none (h : r.codeLine? = none) : r.text = [] := by
  unfold codeLine? at h
  unfold text
  cases hkind : r.kind with
  | code text => rw [hkind] at h; cases h
  | _ => rfl

/-- The line of code that a line is has its number, its text and the delimiter in force. -/
lemma eq_of_codeLine?_eq_some {line : CodeLine} (h : r.codeLine? = some line) :
    line = ⟨r.number, r.text, r.splitter.delimiter⟩ ∧ r.kind = .code r.text := by
  unfold codeLine? at h
  unfold text
  cases hkind : r.kind with
  | code text => rw [hkind] at h; exact ⟨(Option.some.inj h).symm, rfl⟩
  | _ => rw [hkind] at h; cases h

/-- A line that closes is code. -/
lemma codeLine?_of_closes (h : r.closes = true) :
    r.codeLine? = some ⟨r.number, r.text, r.splitter.delimiter⟩ := by
  unfold closes at h
  unfold codeLine? text
  cases hkind : r.kind with
  | code text => rfl
  | _ => rw [hkind] at h; cases h

/-- What a splitter has gathered before a line it has gathered when the line is counted. -/
lemma gathered_counted (h : Gathered r.splitter group) : Gathered r.splitter.counted group :=
  ⟨h.pending, h.quotes, h.line⟩

/-- A line of code closes the pending text exactly when it ends the group that was gathered. -/
lemma closes_iff {text : Text} (h : Gathered r.splitter group) (hkind : r.kind = .code text) :
    r.closes = (r.splitter.counted.codeLine text).closes group := by
  have hcloses : r.closes = true ↔
      (r.splitter.gather text).quotes = .even ∧
        endsWith r.splitter.delimiter (trimEnd text) = true := by
    rw [closes, hkind]
    simp only [Bool.and_eq_true, beq_iff_eq]
  rw [Bool.eq_iff_iff, hcloses, Splitter.codeLine_closes_iff (gathered_counted h)]
  rfl

/-- A line that closes gives the statement of what was gathered, and nothing is gathered behind
it. -/
lemma step_of_closes (h : Gathered r.splitter group) (hc : r.closes = true) :
    r.statement? = CodeLine.statement? (group ++ r.codeLine?.toList) ∧
      Gathered r.step.splitter [] := by
  obtain ⟨-, hkind⟩ := eq_of_codeLine?_eq_some (codeLine?_of_closes hc)
  rw [closes_iff h hkind] at hc
  obtain ⟨hstatement, hgathered⟩ := Splitter.pushCode_of_closes (gathered_counted h) hc
  have hstep : r.step = r.splitter.counted.pushCode r.text := Splitter.push_of_code hkind
  have hline : r.codeLine?.toList = [r.splitter.counted.codeLine r.text] := by
    rw [codeLine?, hkind]
    rfl
  rw [statement?, hstep, hline]
  exact ⟨hstatement, hgathered⟩

/-- A line that does not close gives no statement. If it is code, it is gathered. -/
lemma step_of_not_closes (h : Gathered r.splitter group) (hc : r.closes = false) :
    r.statement? = none ∧ Gathered r.step.splitter (group ++ r.codeLine?.toList) := by
  by_cases hcode : ∃ text, r.kind = .code text
  · obtain ⟨text, hkind⟩ := hcode
    rw [closes_iff h hkind] at hc
    have hstep : r.step = r.splitter.counted.pushCode text := Splitter.push_of_code hkind
    have hline : r.codeLine?.toList = [r.splitter.counted.codeLine text] := by
      rw [codeLine?, hkind]
      rfl
    rw [statement?, hstep, hline]
    exact Splitter.pushCode_of_not_closes (gathered_counted h) hc
  · obtain ⟨mode, token, hpush, -⟩ := Splitter.push_of_not_code (not_exists.mp hcode)
    obtain ⟨hstatement, hsplitter⟩ := hpush r.splitter rfl
    have hline : r.codeLine? = none := by
      cases hcodeLine : r.codeLine? with
      | none => rfl
      | some line => exact absurd ⟨_, (eq_of_codeLine?_eq_some hcodeLine).2⟩ hcode
    rw [hline, Option.toList_none, List.append_nil, step, hsplitter]
    exact ⟨hstatement, h.pending, h.quotes, h.line⟩

end ReadLine

/-! ## Lists of lines -/

/-- The lines behind the last one that closes. -/
def sinceClose (read : List ReadLine) : List ReadLine := read.rtakeWhile fun r => !r.closes

/-- The lines of code among some lines. -/
def codeOf (read : List ReadLine) : List CodeLine := read.filterMap ReadLine.codeLine?

/-- Behind a line that closes, everything begins anew. -/
lemma sinceClose_concat (read : List ReadLine) (r : ReadLine) :
    sinceClose (read ++ [r]) = if r.closes then [] else sinceClose read ++ [r] := by
  rw [sinceClose, List.rtakeWhile_concat]
  cases r.closes <;> rfl

/-- The code of one more line comes behind that of the others. -/
lemma codeOf_concat (read : List ReadLine) (r : ReadLine) :
    codeOf (read ++ [r]) = codeOf read ++ r.codeLine?.toList := by
  rw [codeOf, List.filterMap_append]
  cases hline : r.codeLine? with
  | none => rw [List.filterMap_cons_none hline]; rfl
  | some line => rw [List.filterMap_cons_some hline]; rfl

namespace Splitter

variable {s : Splitter}

/-- Some lines, each with the splitter that reads it. -/
def readLines (s : Splitter) : List Text → List ReadLine
  | [] => []
  | line :: rest => ⟨s, line⟩ :: readLines (s.push line).splitter rest

/-- The lines are read in order. -/
lemma map_line_readLines (s : Splitter) (lines : List Text) :
    (s.readLines lines).map ReadLine.line = lines := by
  induction lines generalizing s with
  | nil => rfl
  | cons line rest ih => rw [readLines, List.map_cons, ih]

/-- Each line has the next number. -/
lemma map_number_readLines (s : Splitter) (lines : List Text) :
    (s.readLines lines).map ReadLine.number = List.range' (s.lineNumber + 1) lines.length := by
  induction lines generalizing s with
  | nil => rfl
  | cons line rest ih =>
    rw [readLines, List.map_cons, ih, lineNumber_push, List.length_cons, List.range'_succ]
    rfl

/-- The statements of some lines are those that the lines give, one after the other. -/
lemma statements_eq_filterMap (s : Splitter) (lines : List Text) :
    s.statements lines = (s.readLines lines).filterMap ReadLine.statement? := by
  induction lines generalizing s with
  | nil => rfl
  | cons line rest ih =>
    have hline : ReadLine.statement? ⟨s, line⟩ = (s.push line).statement := rfl
    rw [readLines, statements, ih]
    cases hstatement : (s.push line).statement with
    | none => rw [List.filterMap_cons_none (hline.trans hstatement)]; rfl
    | some statement => rw [List.filterMap_cons_some (hline.trans hstatement)]; rfl

/-- Lines that are read behind others are read by the splitter behind those. -/
lemma readLines_append (s : Splitter) (lines more : List Text) :
    s.readLines (lines ++ more) = s.readLines lines ++ (s.after lines).readLines more := by
  induction lines generalizing s with
  | nil => rfl
  | cons line rest ih => rw [List.cons_append, readLines, ih]; rfl

/-- A line among others is read behind those in front of it. -/
lemma exists_of_readLines_eq_append {lines : List Text} {earlier later : List ReadLine}
    {r : ReadLine} (h : s.readLines lines = earlier ++ r :: later) :
    ∃ front behind, lines = front ++ r.line :: behind ∧ earlier = s.readLines front ∧
      r.splitter = s.after front ∧ later = r.step.splitter.readLines behind := by
  induction earlier generalizing s lines with
  | nil =>
    cases lines with
    | nil => cases h
    | cons line rest =>
      rw [readLines, List.nil_append, List.cons.injEq] at h
      obtain ⟨rfl, rfl⟩ := h
      exact ⟨[], rest, rfl, rfl, rfl, rfl⟩
  | cons first earlier ih =>
    cases lines with
    | nil => cases h
    | cons line rest =>
      rw [readLines, List.cons_append, List.cons.injEq] at h
      obtain ⟨rfl, hrest⟩ := h
      obtain ⟨front, behind, rfl, rfl, hsplitter, hlater⟩ := ih hrest
      exact ⟨line :: front, behind, rfl, rfl, hsplitter, hlater⟩

/-- What a splitter has gathered are the lines of code since the last line that closes. -/
lemma gathered_sinceClose (h : Gathered s []) (lines : List Text) :
    Gathered (s.after lines) (codeOf (sinceClose (s.readLines lines))) := by
  induction lines using List.reverseRecOn with
  | nil => exact h
  | append_singleton front line ih =>
    set r : ReadLine := ⟨s.after front, line⟩ with hr
    have hread : s.readLines (front ++ [line]) = s.readLines front ++ [r] := readLines_append ..
    have hafter : s.after (front ++ [line]) = r.step.splitter := after_append ..
    rw [hread, hafter, sinceClose_concat]
    -- The last line closes what the others have gathered, or is gathered as well.
    cases hc : r.closes with
    | true => exact (r.step_of_closes ih hc).2
    | false =>
      rw [if_neg Bool.false_ne_true, codeOf_concat]
      exact (r.step_of_not_closes ih hc).2

end Splitter

/-! ## Scripts -/

/-- The lines of a script, each with the splitter that reads it. -/
def readLines (script : Text) : List ReadLine :=
  Splitter.readLines {} (lines (dropByteOrderMark script))

/-- The statements of a script are those that its lines give. -/
lemma statements_split (script : Text) :
    (split script).statements = (readLines script).filterMap ReadLine.statement? := by
  rw [split_eq, readLines, ← Splitter.statements_eq_filterMap]

/-- The lines of a script are the lines of its text. -/
lemma map_line_readLines (script : Text) :
    (readLines script).map ReadLine.line = lines (dropByteOrderMark script) :=
  Splitter.map_line_readLines {} _

/-- The lines of a script are numbered from one on. -/
lemma map_number_readLines (script : Text) :
    (readLines script).map ReadLine.number = List.range' 1 (readLines script).length := by
  have hlength : (readLines script).length = (lines (dropByteOrderMark script)).length := by
    rw [← map_line_readLines, List.length_map]
  rw [hlength]
  exact Splitter.map_number_readLines {} _

variable {script : Text} {earlier later : List ReadLine} {r : ReadLine}

/-- The numbers of the lines of a script grow from line to line. -/
lemma pairwise_number_readLines (script : Text) :
    (readLines script).Pairwise fun a b => a.number < b.number := by
  rw [← List.pairwise_map (R := (· < ·)), map_number_readLines]
  exact List.pairwise_lt_range'

/-- The number of a line of a script is one of the numbers of its lines. -/
lemma number_le_length (h : r ∈ readLines script) : r.number ≤ (readLines script).length := by
  have hmem : r.number ∈ (readLines script).map ReadLine.number := List.mem_map_of_mem h
  rw [map_number_readLines, List.mem_range'_1] at hmem
  omega

/-- In front of a line of a script, the splitter has gathered the code since the last line that
closes. -/
lemma gathered_readLines (h : readLines script = earlier ++ r :: later) :
    Gathered r.splitter (codeOf (sinceClose earlier)) := by
  obtain ⟨front, behind, -, rfl, hsplitter, -⟩ := Splitter.exists_of_readLines_eq_append h
  rw [hsplitter]
  exact Splitter.gathered_sinceClose (Splitter.gathered_nil rfl rfl) front

/-- A line of a script that gives a statement closes. -/
lemma closes_of_statement? {st : Statement} (h : readLines script = earlier ++ r :: later)
    (hst : r.statement? = some st) : r.closes = true := by
  by_contra hc
  rw [Bool.not_eq_true] at hc
  rw [(r.step_of_not_closes (gathered_readLines h) hc).1] at hst
  cases hst

/-- Behind the last line of a script that closes, no line gives a statement. -/
lemma statement?_of_mem_sinceClose (h : r ∈ sinceClose (readLines script)) :
    r.statement? = none := by
  have hmem : r ∈ readLines script := (List.rtakeWhile_suffix _ _).subset h
  obtain ⟨earlier, later, hread⟩ := List.append_of_mem hmem
  by_contra hst
  obtain ⟨st, hst⟩ := Option.ne_none_iff_exists'.1 hst
  have hnot := List.mem_rtakeWhile_imp h
  rw [closes_of_statement? hread hst] at hnot
  cases hnot

/-- What stands since the last line that closes, up to the line itself, when the delimiters that are
no part of a statement are taken away. -/
def bodyOf (earlier : List ReadLine) (r : ReadLine) : Text :=
  CodeLine.withoutDelimiter r.splitter.delimiter
    (CodeLine.joined (codeOf (sinceClose earlier ++ [r])))

/-- A line of a script that closes gives its body as a statement, unless nothing is left of this
without delimiters of the usual kind at its end. -/
lemma statement?_of_closes (h : readLines script = earlier ++ r :: later) (hc : r.closes = true) :
    r.statement? =
      if isBlank (dropEnd ';' (bodyOf earlier r)) then none
      else some ⟨bodyOf earlier r, CodeLine.firstNumber (codeOf (sinceClose earlier ++ [r]))⟩ := by
  -- The delimiter in force is that of the last line, which is code because it closes.
  have hlast : (codeOf (sinceClose earlier ++ [r])).getLast?.map CodeLine.delimiter =
      some r.splitter.delimiter := by
    rw [codeOf_concat, ReadLine.codeLine?_of_closes hc, Option.toList_some, List.getLast?_concat]
    rfl
  rw [(r.step_of_closes (gathered_readLines h) hc).1, ← codeOf_concat, CodeLine.statement?, hlast]
  rfl

/-- The splitter in front of a line of a script is consistent. -/
lemma consistent_readLines (h : readLines script = earlier ++ r :: later) :
    r.splitter.Consistent := by
  obtain ⟨front, behind, -, -, hsplitter, -⟩ := Splitter.exists_of_readLines_eq_append h
  rw [hsplitter]
  exact Splitter.consistent_fresh.after front

/-- The remainder of a script is made of the code since the last line that closes. -/
lemma remainder_split (script : Text) :
    (split script).remainder = CodeLine.remainder? (codeOf (sinceClose (readLines script))) := by
  rw [split_eq]
  exact Splitter.remainder_eq (Splitter.gathered_sinceClose (Splitter.gathered_nil rfl rfl) _)

/-- The remainder of a script comes from lines behind all those that give a statement. -/
lemma exists_apart {text : Statement} (h : (split script).remainder = some text) :
    ∃ front behind, readLines script = front ++ behind ∧
      (split script).statements = front.filterMap ReadLine.statement? ∧
      text.sql = trim (CodeLine.joined (codeOf behind)) := by
  have hread : (readLines script).rdropWhile (fun r => !r.closes) ++
      sinceClose (readLines script) = readLines script := List.rdropWhile_append_rtakeWhile
  have hnone : (sinceClose (readLines script)).filterMap ReadLine.statement? = [] := by
    rw [List.filterMap_eq_nil_iff]
    exact fun r hr => statement?_of_mem_sinceClose hr
  refine ⟨_, _, hread.symm, ?_, ?_⟩
  · rw [statements_split]
    conv_lhs => rw [← hread, List.filterMap_append, hnone, List.append_nil]
  · rw [remainder_split, CodeLine.remainder?] at h
    split at h
    · cases h
    · rw [← Option.some.inj h]

end ScriptRunner.Script
