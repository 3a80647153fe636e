import Mathlib
import ScriptRunner.Proofs.RenderedScripts

/-!
# Literals in scripts

Quotes protect a delimiter that stands between them, and nothing else. Which lines are code is
decided line by line without regard to quotes: a line inside a literal can be left out because it is
blank or looks like a comment or a directive, and comments inside a literal are removed.

Nothing is ever added to a script. So a text comes out of the splitter as it went in only if each of
its lines is code as it stands (`forall_isPlainCode_of_mem`). For the insertion of one literal this
is also enough (`split_insertion`).
-/

namespace ScriptRunner.Script

open Text

variable {text : Text}

/-! ## Nothing is added to a script -/

/-- A line that is code as it stands, in a place outside of comments. -/
structure IsPlainCode (line : Text) : Prop where
  not_ignorable : isIgnorable line = false
  comment_notMem : contains blockOpen line = false
  not_directive : isDirective line = false

/-- Plain code is what is kept without a change. -/
lemma kind_eq_code_self_iff {line : Text} :
    LineKind.of .normal line = .code line ↔ IsPlainCode line := by
  constructor
  · intro h
    obtain ⟨-, hi, -, ho, hd⟩ := eq_of_kind_code h
    exact ⟨hi, ho, hd⟩
  · intro h
    exact kind_of_code h.not_ignorable h.comment_notMem h.not_directive

/-- The code of a script is at most as long as its lines. If it is as long, all lines are plain
code. -/
lemma length_joined_codeLines (mode : ScanMode) (delimiter : Text) (number : ℕ)
    (ls : List Text) :
    (CodeLine.joined (codeLines mode delimiter number ls)).length ≤
        (ls.flatMap (· ++ ['\n'])).length ∧
      ((CodeLine.joined (codeLines mode delimiter number ls)).length =
          (ls.flatMap (· ++ ['\n'])).length → ∀ line ∈ ls, IsPlainCode line) := by
  induction ls generalizing mode delimiter number with
  | nil => exact ⟨le_refl _, fun _ => nofun⟩
  | cons line rest ih =>
    rw [List.flatMap_cons, List.length_append, List.length_append, List.length_singleton]
    by_cases hcode : ∃ text, LineKind.of mode line = .code text
    · obtain ⟨text, htext⟩ := hcode
      obtain ⟨hle, hall⟩ := ih mode delimiter (number + 1)
      obtain ⟨rfl, -, hstrip, -, -⟩ := eq_of_kind_code htext
      have hsub : text.Sublist line := hstrip ▸ stripComments_sublist line
      have hshort := hsub.length_le
      have hjoined : (CodeLine.joined (codeLines .normal delimiter number (line :: rest))).length =
          text.length + 1 +
            (CodeLine.joined (codeLines .normal delimiter (number + 1) rest)).length := by
        rw [codeLines_cons, htext, CodeLine.joined, List.flatMap_cons, List.length_append,
          List.length_append, List.length_singleton]
        rfl
      rw [hjoined]
      refine ⟨by omega, fun heq => List.forall_mem_cons.mpr ⟨?_, hall (by omega)⟩⟩
      obtain rfl : text = line := hsub.eq_of_length (by omega)
      exact kind_eq_code_self_iff.mp htext
    · obtain ⟨behind, token, -, hcons⟩ := Splitter.push_of_not_code (not_exists.mp hcode)
      obtain ⟨hle, -⟩ := ih behind (token.getD delimiter) (number + 1)
      rw [hcons]
      exact ⟨by omega, fun heq => absurd heq (by omega)⟩

/-- A group is a part of the lines of code. It has a line at least. -/
lemma exists_of_mem_groups {before lines group : List CodeLine}
    (h : group ∈ (groups before lines).1) :
    group <:+: before ++ lines ∧ ∃ front line, group = front ++ [line] := by
  induction lines generalizing before with
  | nil => cases h
  | cons line rest ih =>
    rw [groups] at h
    split at h
    · rcases List.mem_cons.mp h with rfl | hrest
      · exact ⟨⟨[], rest, by simp⟩, before, line, rfl⟩
      · obtain ⟨hinner, hne⟩ := ih hrest
        have hsuffix : rest <:+ before ++ line :: rest :=
          (List.suffix_cons line rest).trans (List.suffix_append before _)
        exact ⟨hinner.trans hsuffix.isInfix, hne⟩
    · obtain ⟨hinner, hne⟩ := ih h
      rw [List.append_assoc, List.singleton_append] at hinner
      exact ⟨hinner, hne⟩

/-- The text of a statement has its characters from the lines of its group. -/
lemma sublist_joined_of_statement? {group : List CodeLine} {statement : Statement}
    (h : CodeLine.statement? group = some statement) :
    statement.sql.Sublist (CodeLine.joined group) := by
  have hsub : ∀ delimiter : Text,
      (CodeLine.withoutDelimiter delimiter (CodeLine.joined group)).Sublist
        (CodeLine.joined group) := by
    intro delimiter
    rw [CodeLine.withoutDelimiter]
    split
    · exact (infix_of_trim _).sublist
    · exact (infix_of_trim _).sublist.trans (removeAll_sublist _ _)
  simp only [CodeLine.statement?] at h
  split at h
  · cases h
  · cases h
    exact hsub _

/-- If a text comes out as a statement, each of its lines is plain code. -/
lemma forall_isPlainCode_of_mem {number : ℕ} (hlined : IsLined text)
    (h : ⟨text, number⟩ ∈ Splitter.statements {} (lines text)) :
    ∀ line ∈ lines text, IsPlainCode line := by
  have hfresh : Gathered {} [] := Splitter.gathered_nil rfl rfl
  have hread := congrArg Prod.fst (Splitter.read_eq_drawn_groups hfresh (lines text))
  rw [show Splitter.statements {} (lines text) = _ from hread] at h
  obtain ⟨group, hgroup, hstatement⟩ := List.mem_filterMap.mp h
  obtain ⟨⟨pre, post, hparts⟩, front, line, rfl⟩ := exists_of_mem_groups hgroup
  rw [List.nil_append] at hparts
  -- The group ends with a line feed that the text does not end with, so it is longer than the text.
  have hsub : text.Sublist (CodeLine.joined (front ++ [line])) :=
    sublist_joined_of_statement? hstatement
  have hne : text.length ≠ (CodeLine.joined (front ++ [line])).length := by
    intro hlength
    have heq : text = CodeLine.joined (front ++ [line]) := hsub.eq_of_length hlength
    rw [CodeLine.joined_append, CodeLine.joined_singleton, ← List.append_assoc] at heq
    exact hlined.last (by rw [heq, List.getLast?_concat])
  have hjoined : (CodeLine.joined (front ++ [line])).length ≤
      (CodeLine.joined (codeLines .normal defaultDelimiter 1 (lines text))).length := by
    have hall : CodeLine.joined pre ++ CodeLine.joined (front ++ [line]) ++ CodeLine.joined post =
        CodeLine.joined (codeLines .normal defaultDelimiter 1 (lines text)) := by
      rw [← CodeLine.joined_append, ← CodeLine.joined_append]
      exact congrArg CodeLine.joined hparts
    rw [← hall, List.length_append, List.length_append]
    omega
  obtain ⟨hle, hplain⟩ := length_joined_codeLines .normal defaultDelimiter 1 (lines text)
  have hlength : ((lines text).flatMap (· ++ ['\n'])).length = text.length + 1 := by
    rw [flatMap_lines hlined, List.length_append, List.length_singleton]
  have hshort := hsub.length_le
  exact hplain (by omega)

/-! ## One statement with its delimiter -/

/-- Lines without the opener of a comment make a text without one. -/
lemma contains_flatMap_lineFeed {ls : List Text} (h : ∀ line ∈ ls, contains blockOpen line = false) :
    contains blockOpen (ls.flatMap (· ++ ['\n'])) = false := by
  induction ls with
  | nil => rfl
  | cons line rest ih =>
    rw [List.forall_mem_cons] at h
    rw [List.flatMap_cons, List.append_assoc, List.singleton_append,
      contains_append_cons _ (by decide) (by decide) h.1, ih h.2]

/-- A body that ends with its delimiter, and nowhere before, is read as one statement. -/
lemma read_lines_of_endsOnce (h : IsBody text) (ho : EndsOnce text) :
    (Splitter.statements {} (lines text), (Splitter.after {} (lines text)).remainder) =
      ([⟨text, 1⟩], none) := by
  have hfresh : Gathered {} [] := Splitter.gathered_nil rfl rfl
  have hread := Splitter.read_eq_drawn_groups hfresh (lines text)
  have hdrawn := drawnBehind_plain 0 [] h ho
  have hlines : lines ((Block.plain text).render ++ []) = lines text := by
    rw [List.append_nil, Block.render, lines_append_lineFeed [] h.isLined]
    exact List.append_nil _
  rw [drawnBehind, hlines] at hdrawn
  exact hread.trans hdrawn

/-! ## Insertions -/

/-- What stands in front of an inserted literal. -/
def insertionOpening : Text := "INSERT INTO t VALUES ('".toList

/-- What stands behind an inserted literal. -/
def insertionClosing : Text := "');".toList

/-- The insertion of one literal. -/
def insertion (w : Text) : Text := insertionOpening ++ w ++ insertionClosing

namespace insertion

variable {w : Text}

/-- An insertion ends with a delimiter. -/
lemma eq_concat (w : Text) : insertion w = insertionOpening ++ w ++ ['\'', ')'] ++ [';'] := by
  rw [insertion, List.append_assoc _ _ [';']]
  rfl

/-- The last character of an insertion. -/
lemma getLast? (w : Text) : (insertion w).getLast? = some ';' := by
  rw [eq_concat, List.getLast?_concat]

/-- An insertion begins with a letter. -/
lemma exists_eq_cons (w : Text) : ∃ rest, insertion w = 'I' :: rest := ⟨_, rfl⟩

/-- An insertion does not begin with a byte order mark. -/
lemma head?_ne (w : Text) : (insertion w).head? ≠ some '\uFEFF' := by
  obtain ⟨rest, hrest⟩ := exists_eq_cons w
  rw [hrest, List.head?_cons]
  decide

/-- An insertion can be told from its lines. -/
lemma isLined (hreturn : '\r' ∉ w) : IsLined (insertion w) where
  ne_nil := by
    obtain ⟨rest, hrest⟩ := exists_eq_cons w
    rw [hrest]
    exact List.cons_ne_nil _ _
  return_notMem := by
    simp only [insertion, List.mem_append, not_or]
    exact ⟨⟨by decide, hreturn⟩, by decide⟩
  last := by
    rw [getLast?]
    decide

/-- An insertion of which each line is plain code is a body. -/
lemma isBody (hquote : '\'' ∉ w) (hreturn : '\r' ∉ w)
    (hplain : ∀ line ∈ lines (insertion w), IsPlainCode line) : IsBody (insertion w) where
  trimmed := by
    obtain ⟨rest, hrest⟩ := exists_eq_cons w
    have hstart : trimStart (insertion w) = insertion w := by
      rw [hrest, trimStart, List.dropWhile_cons_of_neg (by decide)]
    rw [trim, hstart, trimEnd_of_getLast? (getLast? w) (by decide)]
  return_notMem := (isLined hreturn).return_notMem
  mark_notMem := head?_ne w
  comment_notMem := by
    have hlines := contains_flatMap_lineFeed fun line hline => (hplain line hline).comment_notMem
    rw [flatMap_lines (isLined hreturn)] at hlines
    exact contains_eq_false_of_infix (List.prefix_append _ _).isInfix hlines
  quotes := by
    rw [insertion, List.count_append, List.count_append, List.count_eq_zero.mpr hquote]
    decide
  code := fun line hline => ⟨(hplain line hline).not_ignorable, (hplain line hline).not_directive⟩
  body := by
    have hmem : 'I' ∈ dropEnd ';' (insertion w) := by
      have hdrop : dropEnd ';' (insertion w) = insertionOpening ++ w ++ ['\'', ')'] := by
        simp [eq_concat, dropEnd]
      rw [hdrop]
      exact List.mem_append_left _ (List.mem_append_left _ (by decide))
    rw [isBlank_trim]
    by_contra hblank
    rw [Bool.not_eq_false, isBlank_iff_forall] at hblank
    exact absurd (hblank 'I' hmem) (by decide)

/-- In front of a line feed of an insertion stand its opening and a part of the literal. -/
lemma exists_of_eq_append_lineFeed {front back : Text}
    (h : insertion w = front ++ '\n' :: back) :
    ∃ inside, inside <+: w ∧ front = insertionOpening ++ inside := by
  rw [insertion, List.append_assoc] at h
  obtain ⟨inside, rfl, hrest⟩ : ∃ inside, front = insertionOpening ++ inside ∧
      w ++ insertionClosing = inside ++ '\n' :: back := by
    rcases List.append_eq_append_iff.mp h with ⟨inside, hfront, hrest⟩ | ⟨shared, hopening, hrest⟩
    · exact ⟨inside, hfront, hrest⟩
    · cases shared with
      | nil =>
        rw [List.append_nil] at hopening
        exact ⟨[], by rw [hopening, List.append_nil], hrest.symm⟩
      | cons c shared =>
        have hmem : '\n' ∈ insertionOpening := by
          rw [hopening, (List.cons.inj hrest).1]
          exact List.mem_append_right _ List.mem_cons_self
        exact absurd hmem (by decide)
  refine ⟨inside, ?_, rfl⟩
  rcases List.append_eq_append_iff.mp hrest with ⟨shared, -, hclosing⟩ | ⟨more, hw, -⟩
  · have hmem : '\n' ∈ insertionClosing := by
      rw [hclosing]
      exact List.mem_append_right _ List.mem_cons_self
    exact absurd hmem (by decide)
  · exact ⟨more, hw.symm⟩

/-- An insertion ends once, for on its earlier lines the literal is not closed yet. -/
lemma endsOnce (hquote : '\'' ∉ w) (hreturn : '\r' ∉ w) : EndsOnce (insertion w) where
  ends := endsWith_singleton_iff.mpr (getLast? w)
  once := by
    intro before line after hlines hafter _
    obtain ⟨more, last, rfl⟩ := List.eq_nil_or_concat after |>.resolve_left hafter
    rw [List.concat_eq_append, ← List.cons_append, ← List.append_assoc] at hlines
    have htext := eq_append_of_lines_eq_concat (isLined hreturn) hlines
    have hcut : insertion w =
        (before.flatMap (· ++ ['\n']) ++ line) ++ '\n' :: (more.flatMap (· ++ ['\n']) ++ last) := by
      rw [htext]
      simp
    obtain ⟨inside, hinside, hfront⟩ := exists_of_eq_append_lineFeed hcut
    have hcount : (before ++ [line]).flatten.count '\'' =
        (before.flatMap (· ++ ['\n']) ++ line).count '\'' := by
      rw [List.flatten_append, List.flatten_singleton, List.count_append, List.count_append,
        count_flatMap_lineFeed (by decide)]
    have hnone : inside.count '\'' = 0 :=
      List.count_eq_zero.mpr fun hmem => hquote (hinside.subset hmem)
    rw [hcount, hfront, List.count_append, hnone]
    decide

end insertion

/-- **What reaches the database of a literal.** The insertion of a literal without quotes and
carriage returns is one statement, with the text of the script as it stands, exactly if each line of
the script is plain code: it is not blank, does not begin with the mark of a line comment, opens no
block comment and is no directive. Delimiters in the literal, and marks of line comments inside of
its lines, make no difference. -/
theorem split_insertion (w : Text) (hquote : '\'' ∉ w) (hreturn : '\r' ∉ w) :
    ((split (insertion w)).statements = [⟨insertion w, 1⟩] ∧
        (split (insertion w)).remainder = none) ↔
      ∀ line ∈ lines (insertion w), IsPlainCode line := by
  have hmark : dropByteOrderMark (insertion w) = insertion w :=
    dropByteOrderMark_of_head? (insertion.head?_ne w)
  rw [split_eq, hmark]
  constructor
  · rintro ⟨hstatements, -⟩
    have hmem : (⟨insertion w, 1⟩ : Statement) ∈ Splitter.statements {} (lines (insertion w)) := by
      rw [show Splitter.statements {} (lines (insertion w)) = _ from hstatements]
      exact List.mem_singleton_self _
    exact forall_isPlainCode_of_mem (insertion.isLined hreturn) hmem
  · intro hplain
    exact Prod.mk.inj (read_lines_of_endsOnce (insertion.isBody hquote hreturn hplain)
      (insertion.endsOnce hquote hreturn))

/-- A literal of two lines, with a delimiter at the end of the first one and the mark of a line
comment inside of the second, is kept as it is. -/
theorem split_insertion_twoLines :
    let w : Text := "a;\nb -- c".toList
    '\'' ∉ w ∧ '\r' ∉ w ∧ (∀ line ∈ lines (insertion w), IsPlainCode line) ∧
      (split (insertion w)).statements = [⟨insertion w, 1⟩] ∧
      (split (insertion w)).remainder = none := by
  have hquote : '\'' ∉ "a;\nb -- c".toList := by decide
  have hreturn : '\r' ∉ "a;\nb -- c".toList := by decide
  have hlines : lines (insertion "a;\nb -- c".toList) =
      ["INSERT INTO t VALUES ('a;".toList, "b -- c');".toList] := by
    decide
  have hplain : ∀ line ∈ lines (insertion "a;\nb -- c".toList), IsPlainCode line := by
    rw [hlines, List.forall_mem_cons, List.forall_mem_singleton]
    exact ⟨⟨by decide, by decide, by decide⟩, ⟨by decide, by decide, by decide⟩⟩
  exact ⟨hquote, hreturn, hplain, (split_insertion _ hquote hreturn).mpr hplain⟩

/-- A block comment inside of a literal is removed, and another literal is inserted. -/
theorem split_insertion_blockComment :
    let w : Text := "a /* b */ c".toList
    '\'' ∉ w ∧ '\\' ∉ w ∧ '\r' ∉ w ∧
      insertion w = "INSERT INTO t VALUES ('a /* b */ c');".toList ∧
      (split (insertion w)).statements = [⟨"INSERT INTO t VALUES ('a  c');".toList, 1⟩] ∧
      (split (insertion w)).statements ≠ [⟨insertion w, 1⟩] := by
  decide +kernel

end ScriptRunner.Script
