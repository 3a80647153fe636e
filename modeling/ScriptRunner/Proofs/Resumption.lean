import Mathlib
import ScriptRunner.Proofs.CommentLines
import ScriptRunner.Proofs.ScriptLines
import ScriptRunner.Proofs.SplitterState

/-!
# Starting again between statements

Where no comment is open, the usual delimiter is in force and nothing but white space is pending, a
splitter is at rest (`Splitter.AtRest`). From there on it gives what a fresh one gives, only with
other numbers of lines (`read_append_of_atRest`), and so a script can be cut in two behind a line
feed at which the splitter is at rest (`split_append_of_atRest`).

A splitter at rest is not a fresh one. White space may be left over in its pending text, and its
line is that of some former statement. Neither is ever seen: white space in front of the pending
text makes no difference (`Padded`), and the line is replaced as long as the pending text is blank.
-/

namespace ScriptRunner.Script

open Text

/-! ## White space in front of the pending text -/

/-- White space in front of the pending text is no part of its body. A delimiter does not begin in
it, because it begins with another character. -/
lemma body?_append_of_isBlank {delimiter blank pending : Text} (hne : delimiter ≠ [])
    (htrimmed : IsTrimmed delimiter) (hblank : isBlank blank = true) :
    Splitter.body? delimiter (blank ++ pending) = Splitter.body? delimiter pending := by
  have htrim : trim (if delimiter = defaultDelimiter then blank ++ pending
        else removeAll delimiter (blank ++ pending)) =
      trim (if delimiter = defaultDelimiter then pending else removeAll delimiter pending) := by
    obtain ⟨c, rest, rfl⟩ := List.exists_cons_of_ne_nil hne
    split
    · exact trim_append_of_isBlank_left pending hblank
    · rw [removeAll_append_of_notMem pending (htrimmed.head_notMem hblank)]
      exact trim_append_of_isBlank_left _ hblank
  unfold Splitter.body?
  rw [htrim]

/-- Two readers that agree on all but white space in front of the pending text. As long as the
pending text is blank, the line that is noted for it has no meaning. -/
structure Padded (s t : Splitter) : Prop where
  delimiter : t.delimiter = s.delimiter
  mode : t.mode = s.mode
  quotes : t.quotes = s.quotes
  lineNumber : t.lineNumber = s.lineNumber
  pending : ∃ blank, isBlank blank = true ∧ t.pending = blank ++ s.pending
  pendingLine : isBlank s.pending = false → t.pendingLine = s.pendingLine

namespace Padded

open Splitter

variable {s t : Splitter}

/-- The pending text is blank in both or in neither. -/
lemma isBlank_pending (h : Padded s t) : isBlank t.pending = isBlank s.pending := by
  obtain ⟨blank, hblank, hpending⟩ := h.pending
  rw [hpending, isBlank_append, hblank, Bool.true_and]

/-- The same is closed in both. -/
lemma close (h : Padded s t) (hs : s.Consistent) :
    t.close.statement = s.close.statement ∧ Padded s.close.splitter t.close.splitter := by
  refine ⟨?_, h.delimiter, h.mode, rfl, h.lineNumber, ⟨[], rfl, rfl⟩,
    fun hblank => nomatch hblank⟩
  have hclose : ∀ u : Splitter,
      u.close.statement = (body? u.delimiter u.pending).map (⟨·, u.pendingLine⟩) := fun _ => rfl
  obtain ⟨blank, hblank, hpending⟩ := h.pending
  rw [hclose, hclose, h.delimiter, hpending,
    body?_append_of_isBlank hs.delimiter_ne_nil hs.delimiter_trimmed hblank]
  cases hbody : body? s.delimiter s.pending with
  | none => rfl
  | some sql => rw [h.pendingLine (isBlank_eq_false_of_body? hbody)]

/-- A line of code is gathered in both. -/
lemma gather (h : Padded s t) (text : Text) : Padded (s.gather text) (t.gather text) where
  delimiter := h.delimiter
  mode := h.mode
  quotes := congrArg (Parity.after · text) h.quotes
  lineNumber := h.lineNumber
  pending := by
    obtain ⟨blank, hblank, hpending⟩ := h.pending
    refine ⟨blank, hblank, ?_⟩
    change t.pending ++ text ++ ['\n'] = blank ++ (s.pending ++ text ++ ['\n'])
    rw [hpending, List.append_assoc, List.append_assoc, List.append_assoc]
  pendingLine := by
    intro _
    change (if isBlank t.pending then t.lineNumber else t.pendingLine) =
      if isBlank s.pending then s.lineNumber else s.pendingLine
    rw [h.isBlank_pending, h.lineNumber]
    cases hblank : isBlank s.pending with
    | true => rfl
    | false => exact h.pendingLine hblank

/-- A line of code closes the pending text of both or of neither. -/
lemma pushCode (h : Padded s t) (hgathered : ∀ text, contains blockOpen text = false →
      (s.gather text).Consistent) {text : Text} (hcomment : contains blockOpen text = false) :
    (t.pushCode text).statement = (s.pushCode text).statement ∧
      Padded (s.pushCode text).splitter (t.pushCode text).splitter := by
  have hgather := h.gather text
  rw [pushCode_eq, pushCode_eq, hgather.quotes, h.delimiter]
  split
  · exact hgather.close (hgathered text hcomment)
  · exact ⟨rfl, hgather⟩

/-- The next line does the same to both. -/
lemma push (h : Padded s t) (hs : s.Consistent) (line : Text) :
    (t.push line).statement = (s.push line).statement ∧
      Padded (s.push line).splitter (t.push line).splitter := by
  have hcounted : Padded s.counted t.counted :=
    ⟨h.delimiter, h.mode, h.quotes, congrArg (· + 1) h.lineNumber, h.pending, h.pendingLine⟩
  by_cases hcode : ∃ text, LineKind.of s.mode line = .code text
  · obtain ⟨text, hkind⟩ := hcode
    have hkind' : LineKind.of t.mode line = .code text := by rw [h.mode, hkind]
    obtain ⟨-, -, -, hcomment, -⟩ := eq_of_kind_code hkind
    rw [push_of_code hkind, push_of_code hkind']
    exact hcounted.pushCode (fun _ => hs.counted.gather (Nat.le_add_left 1 _)) hcomment
  · obtain ⟨mode, token, hpush, -⟩ := push_of_not_code (not_exists.mp hcode)
    obtain ⟨hnone, hbehind⟩ := hpush s rfl
    obtain ⟨hnone', hbehind'⟩ := hpush t h.mode
    rw [hnone, hnone', hbehind, hbehind']
    exact ⟨rfl, { hcounted with
      delimiter := congrArg token.getD h.delimiter
      mode := rfl }⟩

/-- Further lines do the same to both. -/
lemma read (h : Padded s t) (hs : s.Consistent) (lines : List Text) :
    t.statements lines = s.statements lines ∧ Padded (s.after lines) (t.after lines) := by
  induction lines generalizing s t with
  | nil => exact ⟨rfl, h⟩
  | cons line rest ih =>
    obtain ⟨hstatement, hpush⟩ := h.push hs line
    obtain ⟨hstatements, hafter⟩ := ih hpush (hs.push line)
    refine ⟨?_, hafter⟩
    rw [statements, statements, hstatement, hstatements]

/-- The same is left behind the last statement of both. -/
lemma remainder (h : Padded s t) : t.remainder = s.remainder := by
  rw [Splitter.remainder, Splitter.remainder, h.isBlank_pending]
  cases hblank : isBlank s.pending with
  | true => rfl
  | false =>
    obtain ⟨blank, hpadding, hpending⟩ := h.pending
    rw [h.pendingLine hblank, hpending, trim_append_of_isBlank_left _ hpadding]

end Padded

/-! ## Splitters at rest -/

namespace Splitter

/-- A splitter between statements: no comment is open, the delimiter is the usual one, and nothing
but white space is pending. -/
structure AtRest (s : Splitter) : Prop where
  mode : s.mode = .normal
  delimiter : s.delimiter = defaultDelimiter
  pending : isBlank s.pending = true

/-- A splitter at rest leaves nothing behind. -/
lemma AtRest.remainder {s : Splitter} (h : s.AtRest) : s.remainder = none := by
  rw [Splitter.remainder, h.pending]
  rfl

/-- A splitter at rest is a fresh one that has counted some lines, up to white space in front of its
pending text. -/
lemma AtRest.padded {s : Splitter} (h : s.AtRest) (hs : s.Consistent) :
    Padded { lineNumber := s.lineNumber } s where
  delimiter := h.delimiter
  mode := h.mode
  quotes := hs.quotes_of_isBlank h.pending
  lineNumber := rfl
  pending := ⟨s.pending, h.pending, (List.append_nil _).symm⟩
  pendingLine := fun hblank => nomatch hblank

end Splitter

/-- The lines behind a splitter at rest give what they give to a fresh splitter. Their numbers are
counted from the lines in front of them. -/
lemma read_append_of_atRest (front behind : List Text) (h : (Splitter.after {} front).AtRest) :
    Splitter.statements {} (front ++ behind) =
      Splitter.statements {} front ++
        (Splitter.statements {} behind).map (Statement.renumber (· + front.length)) ∧
    (Splitter.after {} (front ++ behind)).remainder =
      (Splitter.after {} behind).remainder.map (Statement.renumber (· + front.length)) := by
  have hcount : (Splitter.after {} front).lineNumber = front.length :=
    (Splitter.lineNumber_after {} front).trans (Nat.zero_add _)
  have hpadded := h.padded (Splitter.consistent_fresh.after front)
  rw [hcount] at hpadded
  -- A fresh splitter that has counted some lines is consistent, for its pending text is empty.
  have hcounted : Splitter.Consistent { lineNumber := front.length } :=
    { Splitter.consistent_fresh with pendingLine := fun hblank => nomatch hblank }
  obtain ⟨hstatements, hafter⟩ := hpadded.read hcounted behind
  have hrenumbered : Renumbered (· + front.length) {} { lineNumber := front.length } :=
    ⟨rfl, rfl, rfl, rfl, fun hblank => nomatch hblank⟩
  obtain ⟨hshifted, hbehind⟩ := hrenumbered.read behind fun k _ => by
    change 0 + k + 1 + front.length = front.length + k + 1
    omega
  constructor
  · rw [Splitter.statements_append, hstatements, hshifted]
  · rw [Splitter.after_append, hafter.remainder, hbehind.remainder]

/-! ## Scripts cut in two -/

/-- The lines of a script that is cut in two behind a line feed are those of its parts, if the second
part does not begin with what would be its byte order mark. -/
lemma lines_dropByteOrderMark_append {front behind : Text}
    (hfront : front = [] ∨ front.getLast? = some '\n')
    (hmark : front ≠ [] → behind.head? ≠ some '\uFEFF') :
    lines (dropByteOrderMark (front ++ behind)) =
      lines (dropByteOrderMark front) ++ lines (dropByteOrderMark behind) := by
  by_cases hne : front = []
  · subst hne
    rfl
  · obtain ⟨first, hfirst⟩ := List.getLast?_eq_some_iff.mp (hfront.resolve_left hne)
    obtain ⟨text, htext⟩ : ∃ text, dropByteOrderMark front = text ++ ['\n'] := by
      by_cases hnil : first = []
      · exact ⟨[], by rw [hfirst, hnil]; rfl⟩
      · exact ⟨dropByteOrderMark first, by rw [hfirst, dropByteOrderMark_append _ hnil]⟩
    rw [dropByteOrderMark_append behind hne, dropByteOrderMark_of_head? (hmark hne), htext,
      List.append_assoc, List.singleton_append, lines_append_of_lineFeed]

/-- A script that is cut in two where a splitter is at rest has the statements of its parts, the
first part has no remainder, and the second one has that of the whole. The numbers of lines in the
second part are counted from the lines of the first. -/
lemma split_append_of_atRest {front behind : Text}
    (hfront : front = [] ∨ front.getLast? = some '\n')
    (hmark : front ≠ [] → behind.head? ≠ some '\uFEFF')
    (h : (Splitter.after {} (lines (dropByteOrderMark front))).AtRest) :
    (split (front ++ behind)).statements =
      (split front).statements ++ (split behind).statements.map
        (Statement.renumber (· + (lines (dropByteOrderMark front)).length)) ∧
    (split front).remainder = none ∧
    (split (front ++ behind)).remainder = (split behind).remainder.map
      (Statement.renumber (· + (lines (dropByteOrderMark front)).length)) := by
  obtain ⟨hstatements, hremainder⟩ :=
    read_append_of_atRest _ (lines (dropByteOrderMark behind)) h
  rw [split_eq, split_eq, split_eq, lines_dropByteOrderMark_append hfront hmark]
  exact ⟨hstatements, h.remainder, hremainder⟩

end ScriptRunner.Script
