import Mathlib
import ScriptRunner.Proofs.ClosedComments
import ScriptRunner.Proofs.CommentLines

/-!
# Entering and leaving a comment over several lines

Whether a reader is inside of a comment behind a line depends on the marks that it finds on the line
without the comments that are closed on it (`mode_push`). These marks need not be marks of the line.
An opener is left where the scan of the line ends at an opener that no closer follows (`EndsOpen`),
and a closer where one stands outside of the closed comments (`ShowsCloser`). But either of them is
also found where taking a comment out puts a slash in front of a star, or a star in front of a slash
(`Joins`).

So a reader enters a comment at an opener that is not closed, and also on some lines on which every
comment is closed (`entersComment_iff`). It leaves a comment on a line that has a closer and no
opener; of the other lines with a closer it leaves it on those only on which a closer is left, and
no opener (`leavesComment_iff`).
-/

namespace ScriptRunner.Script

open Text

variable {line rest : Text} {comments : List ClosedComment}

/-! ## Marks on a stripped line -/

/-- A line whose scan ends at an opener that no closer follows. -/
def EndsOpen (line : Text) : Prop :=
  ∃ comments rest, IsScan line comments rest ∧ contains blockOpen rest = true

/-- A line with a closer outside of the comments that are closed on it. -/
def ShowsCloser (line : Text) : Prop :=
  ∃ comments rest, IsScan line comments rest ∧
    ∃ piece ∈ pieces comments rest, contains blockClose piece = true

/-- A line on which one character comes to stand in front of another one where closed comments are
taken out. -/
def Joins (c d : Char) (line : Text) : Prop :=
  ∃ comments rest, IsScan line comments rest ∧ HasSeam c d (pieces comments rest)

/-- A line with a closer, and without an opener behind the last of its closers. -/
def EndsClosed (line : Text) : Prop :=
  ∃ front behind, line = front ++ blockClose ++ behind ∧ contains blockClose behind = false ∧
    contains blockOpen behind = false

/-- The rest of the scan says whether a line ends at an opener. -/
lemma IsScan.endsOpen_iff (h : IsScan line comments rest) :
    EndsOpen line ↔ contains blockOpen rest = true :=
  h.exists_iff fun _ rest => contains blockOpen rest = true

/-- The pieces of the scan say whether a line shows a closer. -/
lemma IsScan.showsCloser_iff (h : IsScan line comments rest) :
    ShowsCloser line ↔ ∃ piece ∈ pieces comments rest, contains blockClose piece = true :=
  h.exists_iff fun comments rest => ∃ piece ∈ pieces comments rest, contains blockClose piece = true

/-- The pieces of the scan say what is joined on a line. -/
lemma IsScan.joins_iff (h : IsScan line comments rest) (c d : Char) :
    Joins c d line ↔ HasSeam c d (pieces comments rest) :=
  h.exists_iff fun comments rest => HasSeam c d (pieces comments rest)

/-- An opener is found on a stripped line if one is left open on the line, or is made by joining. -/
lemma contains_blockOpen_stripComments_iff (line : Text) :
    contains blockOpen (stripComments line) = true ↔ EndsOpen line ∨ Joins '/' '*' line := by
  obtain ⟨comments, rest, hscan, hstrip⟩ := exists_isScan line
  rw [hstrip, hscan.endsOpen_iff, hscan.joins_iff, ← hscan.exists_blockOpen_iff]
  exact contains_flatten_iff '/' '*' (pieces comments rest)

/-- A closer is found on a stripped line if one stands outside of its comments, or is made by
joining. -/
lemma contains_blockClose_stripComments_iff (line : Text) :
    contains blockClose (stripComments line) = true ↔ ShowsCloser line ∨ Joins '*' '/' line := by
  obtain ⟨comments, rest, hscan, hstrip⟩ := exists_isScan line
  rw [hstrip, hscan.showsCloser_iff, hscan.joins_iff]
  exact contains_flatten_iff '*' '/' (pieces comments rest)

/-! ## The mode behind a line -/

namespace Splitter

/-- Outside of comments a line changes the mode only if it opens a comment. -/
lemma mode_push_of_normal {s : Splitter} (hmode : s.mode = .normal) (h : ¬ OpensComment line) :
    (s.push line).splitter.mode = .normal := by
  by_cases hi : isIgnorable line = true
  · rw [push_of_ignorable hi]
    exact hmode
  rw [Bool.not_eq_true] at hi
  have ho : contains blockOpen (stripComments line) = false := by
    by_contra ho
    exact h ⟨hi, by simpa using ho⟩
  by_cases hd : isDirective (stripComments line) = true
  · have hkind : LineKind.of s.mode line = .directive (directiveToken? (stripComments line)) := by
      simp [LineKind.of, hmode, hi, ho, hd]
    cases htoken : directiveToken? (stripComments line) with
    | none =>
      simp only [push, hkind, htoken]
      exact hmode
    | some token =>
      simp only [push, hkind, htoken]
      exact hmode
  · have hkind : LineKind.of s.mode line = .code (stripComments line) := by
      simp [LineKind.of, hmode, hi, ho, hd]
    rw [push_of_code hkind, (pushCode_frame s.counted _).1]
    exact hmode

/-- The mode behind a line. Neither the delimiter nor the pending text has a say in it. -/
lemma mode_push (s : Splitter) (line : Text) :
    (s.push line).splitter.mode =
      if isIgnorable line then s.mode
      else if contains blockOpen (stripComments line) then .inBlockComment
      else if contains blockClose (stripComments line) then .normal
      else s.mode := by
  by_cases hi : isIgnorable line = true
  · rw [if_pos hi, push_of_ignorable hi]
    rfl
  rw [if_neg hi]
  rw [Bool.not_eq_true] at hi
  by_cases ho : contains blockOpen (stripComments line) = true
  · rw [if_pos ho, push_of_opensComment ⟨hi, ho⟩]
  rw [if_neg ho]
  cases hmode : s.mode with
  | normal =>
    rw [mode_push_of_normal hmode fun hopens => ho hopens.2]
    split <;> rfl
  | inBlockComment =>
    split
    · next hc =>
      rw [push_of_endsComment hmode ⟨hi, hc, by simpa using ho⟩]
    · next hc =>
      rw [push_of_not_endsComment hmode fun hends => hc hends.2.1]
      exact hmode

/-- **A comment is entered at an opener that is left open, and where joining makes an opener.**
Outside of comments a line that is not ignored puts the reader into a comment exactly if its scan
ends at an opener that no closer follows, or if a slash comes to stand in front of a star where a
closed comment is taken out. Where nothing of this kind is joined, only the first can be. -/
theorem entersComment_iff (s : Splitter) (line : Text) (hmode : s.mode = .normal) :
    ((s.push line).splitter.mode = .inBlockComment ↔
      isIgnorable line = false ∧ (EndsOpen line ∨ Joins '/' '*' line)) ∧
    (¬ Joins '/' '*' line → ((s.push line).splitter.mode = .inBlockComment ↔
      isIgnorable line = false ∧ EndsOpen line)) := by
  have henters : (s.push line).splitter.mode = .inBlockComment ↔
      isIgnorable line = false ∧ (EndsOpen line ∨ Joins '/' '*' line) := by
    rw [← contains_blockOpen_stripComments_iff, mode_push, hmode]
    cases isIgnorable line <;> cases contains blockOpen (stripComments line) <;> simp
  refine ⟨henters, fun hjoins => ?_⟩
  rw [henters, or_iff_left hjoins]

/-- Behind an opener that is left open the reader is inside of a comment, whatever comments are
closed in front of it. -/
theorem entersComment_iff_behindClosed :
    ({} : Splitter).mode = .normal ∧ EndsOpen "/* a */ x /* open" ∧
    (push {} "/* a */ x /* open").splitter.mode = .inBlockComment := by
  have hscan : IsScan "/* a */ x /* open" [⟨"", " a "⟩] " x /* open" := by
    have hrest : cut blockOpen " x /* open" = some ((" x " : Text), (" open" : Text)) := by
      decide +kernel
    refine isScan_cons_iff.mpr ⟨" a */ x /* open", " x /* open", by decide +kernel,
      by decide +kernel, isScan_nil_iff.mpr ⟨rfl, fun front behind hcut => ?_⟩⟩
    rw [hrest] at hcut
    cases hcut
    decide +kernel
  have hopen : EndsOpen "/* a */ x /* open" := hscan.endsOpen_iff.mpr (by decide +kernel)
  exact ⟨rfl, hopen, (entersComment_iff {} "/* a */ x /* open" rfl).1.mpr
    ⟨by decide +kernel, .inl hopen⟩⟩

/-- A line with one comment, which is closed, puts the reader into a comment, and the statement on
the next line is lost. -/
theorem entersComment_closedLine :
    ({} : Splitter).mode = .normal ∧ ¬ EndsOpen "SELECT 6 //* by */* two */;" ∧
    (push {} "SELECT 6 //* by */* two */;").splitter.mode = .inBlockComment ∧
    statements {} ["SELECT 6 //* by */* two */;", "SELECT 7;"] = [] := by
  have hscan : IsScan "SELECT 6 //* by */* two */;" [⟨"SELECT 6 /", " by "⟩] "* two */;" := by
    have hrest : cut blockOpen "* two */;" = none := by decide +kernel
    refine isScan_cons_iff.mpr ⟨" by */* two */;", "* two */;", by decide +kernel,
      by decide +kernel, isScan_nil_iff.mpr ⟨rfl, fun front behind hcut => ?_⟩⟩
    rw [hrest] at hcut
    cases hcut
  refine ⟨rfl, ?_, by decide +kernel, by decide +kernel⟩
  rw [hscan.endsOpen_iff]
  decide +kernel

/-- **A comment is left where a closer is left and no opener.** Inside of a comment a line that is
not ignored takes the reader out of it exactly if a closer stands outside of the comments that are
closed on the line, or is made by taking them out, and no opener is left or made in this way. On a
line without an opener this is any closer. -/
theorem leavesComment_iff (s : Splitter) (line : Text) (hmode : s.mode = .inBlockComment) :
    ((s.push line).splitter.mode = .normal ↔
      isIgnorable line = false ∧ (ShowsCloser line ∨ Joins '*' '/' line) ∧
        ¬ (EndsOpen line ∨ Joins '/' '*' line)) ∧
    (contains blockOpen line = false → ((s.push line).splitter.mode = .normal ↔
      isIgnorable line = false ∧ contains blockClose line = true)) := by
  have hleaves : (s.push line).splitter.mode = .normal ↔
      isIgnorable line = false ∧ contains blockClose (stripComments line) = true ∧
        ¬ contains blockOpen (stripComments line) = true := by
    rw [mode_push, hmode]
    cases isIgnorable line <;> cases contains blockOpen (stripComments line) <;>
      cases contains blockClose (stripComments line) <;> simp
  refine ⟨?_, fun hopen => ?_⟩
  · rw [hleaves, contains_blockClose_stripComments_iff, contains_blockOpen_stripComments_iff]
  · rw [hleaves, stripComments_of_not_contains hopen, hopen]
    simp

/-- On a line without an opener a closer ends a comment, whatever stands around it. -/
theorem leavesComment_iff_behindText :
    (push {} "/* a").splitter.mode = .inBlockComment ∧
    (push (push {} "/* a").splitter "b */ SELECT 1;").splitter.mode = .normal := by
  have hmode : (push {} "/* a").splitter.mode = .inBlockComment := by decide +kernel
  exact ⟨hmode, ((leavesComment_iff (push {} "/* a").splitter "b */ SELECT 1;" hmode).2
    (by decide +kernel)).mpr ⟨by decide +kernel, by decide +kernel⟩⟩

/-- A line that ends with a closer leaves the reader inside of the comment if the closer belongs
with an opener on the line, and all that follows is lost. -/
theorem leavesComment_pairedCloser :
    (push {} "/* a").splitter.mode = .inBlockComment ∧
    isIgnorable "x /* y */" = false ∧ EndsClosed "x /* y */" ∧
    (push (push {} "/* a").splitter "x /* y */").splitter.mode = .inBlockComment ∧
    statements {} ["/* a", "x /* y */", "SELECT 1;"] = [] ∧
    (after {} ["/* a", "x /* y */", "SELECT 1;"]).remainder = none := by
  refine ⟨by decide +kernel, by decide +kernel, ⟨"x /* y ", "", by decide +kernel,
    by decide +kernel, by decide +kernel⟩, by decide +kernel, by decide +kernel, by decide +kernel⟩

end Splitter

end ScriptRunner.Script
