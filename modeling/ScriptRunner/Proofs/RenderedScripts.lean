import Mathlib
import ScriptRunner.Proofs.Grouping
import ScriptRunner.Proofs.LineKinds
import ScriptRunner.Proofs.ScriptLines
import ScriptRunner.Script.Block

/-!
# Splitting undoes rendering

A script that is rendered from readable blocks splits into the statements of the blocks, each with
the line it begins on, and nothing is left behind them (`split_renderBlocks`).

The lines of a block form one group of code lines under one delimiter. No line of it but the last
ends the group, since a plain block ends only once and a token does not occur in its statement; and
what the group makes is the text of the block, since the only occurrence of the token is the one
behind the statement. After a block the delimiter is the default one again, so the next block begins
where a script would begin.
-/

namespace ScriptRunner.Script

open Text

variable {text token : Text}

/-! ## Texts of blocks -/

namespace IsBody

/-- A body is more than white space. -/
lemma not_isBlank (h : IsBody text) : isBlank text = false := by
  by_contra hblank
  rw [Bool.not_eq_false] at hblank
  have hend : isBlank (trim (dropEnd ';' text)) = true := by
    rw [isBlank_trim]
    exact isBlank_dropEnd_of_isBlank ';' hblank
  rw [h.body] at hend
  cases hend

/-- A body can be told from its lines. -/
lemma isLined (h : IsBody text) : IsLined text where
  ne_nil := by
    intro hnil
    have hblank := h.not_isBlank
    rw [hnil] at hblank
    cases hblank
  return_notMem := h.return_notMem
  last := by
    intro hlast
    exact absurd (isBlankChar_eq_false_of_getLast? h.trimmed hlast) (by decide)

/-- No line of a body opens a comment. -/
lemma line_comment_notMem (h : IsBody text) {line : Text} (hline : line ∈ lines text) :
    contains blockOpen line = false :=
  contains_eq_false_of_infix (infix_of_mem_lines h.isLined hline) h.comment_notMem

/-- Each line of a body is code. -/
lemma kind_of_mem_lines (h : IsBody text) {line : Text} (hline : line ∈ lines text) :
    LineKind.of .normal line = .code line :=
  kind_of_code (h.code line hline).1 (h.line_comment_notMem hline) (h.code line hline).2

/-- The lines of a body hold an even number of quotes. -/
lemma quotes_lines (h : IsBody text) : (lines text).flatten.count '\'' % 2 = 0 := by
  rw [count_flatten_lines h.isLined (by decide)]
  exact h.quotes

end IsBody

namespace IsTokenFor

/-- A token is a line of code. -/
lemma kind (h : IsTokenFor text token) : LineKind.of .normal token = .code token :=
  kind_of_code h.not_ignorable h.comment_notMem (isDirective_of_forall_not_blank h.blank_notMem)

/-- A token has no line feed. -/
lemma lineFeed_notMem (h : IsTokenFor text token) : '\n' ∉ token := by
  intro hn
  exact absurd (h.blank_notMem _ hn) (by decide)

/-- A token has no carriage return. -/
lemma return_notMem (h : IsTokenFor text token) : '\r' ∉ token := by
  intro hr
  exact absurd (h.blank_notMem _ hr) (by decide)

end IsTokenFor

/-! ## Groups under one delimiter -/

/-- Lines that are all code, counted from a number, under a delimiter. -/
def numbered (delimiter : Text) (number : ℕ) : List Text → List CodeLine
  | [] => []
  | line :: rest => ⟨number, line, delimiter⟩ :: numbered delimiter (number + 1) rest

/-- Numbering goes on where it stopped. -/
lemma numbered_append (delimiter : Text) (number : ℕ) (front back : List Text) :
    numbered delimiter number (front ++ back) =
      numbered delimiter number front ++ numbered delimiter (number + front.length) back := by
  induction front generalizing number with
  | nil => rfl
  | cons line front ih =>
    rw [List.cons_append, numbered, ih, numbered, List.cons_append, List.length_cons]
    rw [Nat.add_right_comm, Nat.add_assoc]

/-- The texts of numbered lines are the lines. -/
lemma map_text_numbered (delimiter : Text) (number : ℕ) (ls : List Text) :
    (numbered delimiter number ls).map CodeLine.text = ls := by
  induction ls generalizing number with
  | nil => rfl
  | cons line rest ih => rw [numbered, List.map_cons, ih]

/-- Numbered lines are all under the one delimiter. -/
lemma delimiter_of_mem_numbered {delimiter : Text} {number : ℕ} {ls : List Text} {line : CodeLine}
    (h : line ∈ numbered delimiter number ls) : line.delimiter = delimiter := by
  induction ls generalizing number with
  | nil => cases h
  | cons l rest ih =>
    rcases List.mem_cons.mp h with rfl | hrest
    · rfl
    · exact ih hrest

/-- The text of numbered lines are the lines, each with a line feed. -/
lemma joined_numbered (delimiter : Text) (number : ℕ) (ls : List Text) :
    CodeLine.joined (numbered delimiter number ls) = ls.flatMap (· ++ ['\n']) := by
  induction ls generalizing number with
  | nil => rfl
  | cons line rest ih =>
    rw [List.flatMap_cons, ← ih (number + 1)]
    rfl

/-- Lines that are code outside comments are kept as they stand. -/
lemma codeLines_append_of_code (delimiter : Text) (number : ℕ) {ls : List Text}
    (rest : List Text) (h : ∀ line ∈ ls, LineKind.of .normal line = .code line) :
    codeLines .normal delimiter number (ls ++ rest) =
      numbered delimiter number ls ++ codeLines .normal delimiter (number + ls.length) rest := by
  induction ls generalizing number with
  | nil => rfl
  | cons line ls ih =>
    rw [List.forall_mem_cons] at h
    rw [List.cons_append, codeLines_cons, h.1, numbered, List.cons_append, List.length_cons,
      Nat.add_comm ls.length 1, ← Nat.add_assoc, ← ih (number + 1) h.2]

/-- A directive sets the delimiter for the lines behind it. -/
lemma codeLines_directiveLine (delimiter : Text) (number : ℕ) (rest : List Text)
    (hne : token ≠ []) (hblank : ∀ c ∈ token, isBlankChar c = false)
    (hopen : contains blockOpen token = false) :
    codeLines .normal delimiter number (directiveLine token :: rest) =
      codeLines .normal token (number + 1) rest := by
  rw [codeLines_cons, kind_of_directive hne hblank hopen]
  rfl

/-- The default delimiter can be set again. -/
lemma codeLines_directiveLine_default (delimiter : Text) (number : ℕ) (rest : List Text) :
    codeLines .normal delimiter number (directiveLine defaultDelimiter :: rest) =
      codeLines .normal defaultDelimiter (number + 1) rest := by
  have hblank : ∀ c ∈ defaultDelimiter, isBlankChar c = false := by
    intro c hc
    rw [List.mem_singleton.mp hc]
    decide
  have hopen : contains blockOpen defaultDelimiter = false := rfl
  exact codeLines_directiveLine delimiter number rest (List.cons_ne_nil _ _) hblank hopen

/-- Lines of which none but the last ends the group make one group. -/
lemma drawn_groups_of_once {before front : List CodeLine} {line : CodeLine} (rest : List CodeLine)
    (hopen : ∀ pre l post, front = pre ++ l :: post → l.closes (before ++ pre) = false)
    (hclose : line.closes (before ++ front) = true) :
    drawn (groups before (front ++ line :: rest)) =
      ((CodeLine.statement? (before ++ front ++ [line])).toList ++ (drawn (groups [] rest)).1,
        (drawn (groups [] rest)).2) := by
  induction front generalizing before with
  | nil =>
    rw [List.append_nil] at hclose ⊢
    exact drawn_groups_of_closes rest hclose
  | cons l front ih =>
    have hl : l.closes before = false := by
      have := hopen [] l front rfl
      rwa [List.append_nil] at this
    rw [List.cons_append, drawn_groups_of_not_closes _ hl, ih]
    · simp
    · intro pre l' post hfront
      have := hopen (l :: pre) l' post (by rw [hfront]; rfl)
      rwa [List.append_cons] at this
    · rwa [List.append_cons] at hclose

/-- Whether a line ends its group depends on the texts of the lines and on its own delimiter. -/
lemma closes_eq_true_iff {before : List CodeLine} {line : CodeLine} :
    line.closes before = true ↔
      (before.map CodeLine.text ++ [line.text]).flatten.count '\'' % 2 = 0 ∧
        endsWith line.delimiter (trimEnd line.text) = true := by
  rw [CodeLine.closes, Bool.and_eq_true, beq_iff_eq, List.flatMap_def, List.map_append,
    List.map_singleton]

/-- Lines of code of which only the last ends with the delimiter outside quotes make one group. -/
lemma drawn_groups_codeLines {delimiter : Text} (number : ℕ) {front : List Text} {line : Text}
    (rest : List Text) (hcode : ∀ l ∈ front ++ [line], LineKind.of .normal l = .code l)
    (hopen : ∀ pre l post, front = pre ++ l :: post → endsWith delimiter (trimEnd l) = true →
      (pre ++ [l]).flatten.count '\'' % 2 = 1)
    (hquotes : (front ++ [line]).flatten.count '\'' % 2 = 0)
    (hends : endsWith delimiter (trimEnd line) = true) :
    drawn (groups [] (codeLines .normal delimiter number (front ++ line :: rest))) =
      ((CodeLine.statement? (numbered delimiter number (front ++ [line]))).toList ++
          (drawn (groups [] (codeLines .normal delimiter (number + front.length + 1) rest))).1,
        (drawn (groups [] (codeLines .normal delimiter (number + front.length + 1) rest))).2) := by
  have hlines := codeLines_append_of_code delimiter number rest hcode
  have hnumbered : numbered delimiter number (front ++ [line]) =
      numbered delimiter number front ++ [⟨number + front.length, line, delimiter⟩] :=
    numbered_append delimiter number front [line]
  rw [List.append_assoc, List.singleton_append, List.length_append, List.length_singleton,
    ← Nat.add_assoc, hnumbered, List.append_assoc, List.singleton_append] at hlines
  rw [hlines, drawn_groups_of_once, hnumbered]
  · rfl
  · intro pre l post hfront
    have hl : l ∈ numbered delimiter number front := by
      rw [hfront]
      exact List.mem_append_right pre List.mem_cons_self
    have htexts : front = pre.map CodeLine.text ++ l.text :: post.map CodeLine.text := by
      have hmap := congrArg (List.map CodeLine.text) hfront
      rwa [map_text_numbered, List.map_append, List.map_cons] at hmap
    by_contra hcloses
    rw [Bool.not_eq_false, List.nil_append, closes_eq_true_iff, delimiter_of_mem_numbered hl]
      at hcloses
    rw [hopen _ _ _ htexts hcloses.2] at hcloses
    exact absurd hcloses.1 (by decide)
  · rw [List.nil_append, closes_eq_true_iff, map_text_numbered]
    exact ⟨hquotes, hends⟩

/-- The statement of numbered lines begins on the first of them if this is not blank. -/
lemma statement?_numbered {delimiter : Text} (number : ℕ) {line : Text} {rest : List Text}
    (hline : isBlank line = false)
    (hsql : CodeLine.withoutDelimiter delimiter ((line :: rest).flatMap (· ++ ['\n'])) = text)
    (hbody : IsBody text) :
    CodeLine.statement? (numbered delimiter number (line :: rest)) = some ⟨text, number⟩ := by
  have hlast : ((numbered delimiter number (line :: rest)).getLast?.map CodeLine.delimiter).getD
      defaultDelimiter = delimiter := by
    have hne : numbered delimiter number (line :: rest) ≠ [] := List.cons_ne_nil _ _
    rw [List.getLast?_eq_some_getLast hne]
    exact delimiter_of_mem_numbered (List.getLast_mem hne)
  have hfirst : CodeLine.firstNumber (numbered delimiter number (line :: rest)) = number := by
    rw [CodeLine.firstNumber, numbered, List.find?_cons_of_pos (by simp [hline])]
    rfl
  have hblank : isBlank (dropEnd ';' text) = false := by
    rw [← isBlank_trim]
    exact hbody.body
  rw [CodeLine.statement?]
  simp only [hlast, joined_numbered, hsql, hblank, hfirst]
  rfl

/-! ## Blocks -/

/-- The lines of a body begin with one that is not blank. -/
lemma IsBody.exists_lines_eq_cons (h : IsBody text) :
    ∃ line rest, lines text = line :: rest ∧ isBlank line = false := by
  obtain ⟨line, rest, hlines⟩ := List.exists_cons_of_ne_nil (lines_ne_nil h.isLined.ne_nil)
  have hline : line ∈ lines text := by
    rw [hlines]
    exact List.mem_cons_self
  exact ⟨line, rest, hlines, not_isBlank_of_not_isIgnorable (h.code line hline).1⟩

/-- Behind the default delimiter nothing is taken away but the white space. -/
lemma IsBody.withoutDelimiter_default (h : IsBody text) :
    CodeLine.withoutDelimiter defaultDelimiter ((lines text).flatMap (· ++ ['\n'])) = text := by
  rw [CodeLine.withoutDelimiter, if_pos rfl, flatMap_lines h.isLined,
    trim_append_of_isBlank _ isBlank_lineFeed, h.trimmed]

/-- The token behind a body is taken away, and only white space is left in its place. -/
lemma IsBody.withoutDelimiter_token (h : IsBody text) (ht : IsTokenFor text token) :
    CodeLine.withoutDelimiter token ((lines text ++ [token]).flatMap (· ++ ['\n'])) = text := by
  have hlines : (lines text ++ [token]).flatMap (· ++ ['\n']) =
      text ++ '\n' :: (token ++ ['\n']) := by
    rw [List.flatMap_append, flatMap_lines h.isLined, List.flatMap_singleton]
    simp
  have hcut : cut token (text ++ '\n' :: (token ++ ['\n'])) = some (text ++ ['\n'], ['\n']) := by
    rw [cut_append_cons _ ht.ne_nil ht.lineFeed_notMem ht.notMem, cut_append_self ht.ne_nil]
    rfl
  have hblank : isBlank (['\n'] ++ removeAll token ['\n']) = true := by
    rw [isBlank_append, isBlank_lineFeed, Bool.true_and]
    exact isBlank_of_sublist (removeAll_sublist token ['\n']) isBlank_lineFeed
  rw [CodeLine.withoutDelimiter, if_neg ht.ne_default, hlines, removeAll_of_cut ht.ne_nil hcut,
    List.append_assoc, trim_append_of_isBlank _ hblank, h.trimmed]

/-- What is read from the rest of a script whose first lines were a number of blocks. -/
def drawnBehind (count : ℕ) (rest : Text) : List Statement × Option Statement :=
  drawn (groups [] (codeLines .normal defaultDelimiter (count + 1) (lines rest)))

/-- The last line of a body that ends with the default delimiter ends with it too. -/
lemma endsWith_trimEnd_of_lines_eq_concat {front : List Text} {line : Text} (h : IsBody text)
    (hends : endsWith defaultDelimiter text = true) (hlines : lines text = front ++ [line]) :
    endsWith defaultDelimiter (trimEnd line) = true := by
  have hne : line ≠ [] := by
    intro hnil
    have hline : line ∈ lines text := by
      rw [hlines]
      exact List.mem_append_right front List.mem_cons_self
    have hblank := not_isBlank_of_not_isIgnorable (h.code line hline).1
    rw [hnil] at hblank
    cases hblank
  rw [defaultDelimiter, endsWith_singleton_iff] at hends ⊢
  rw [eq_append_of_lines_eq_concat h.isLined hlines, List.getLast?_append_of_ne_nil _ hne] at hends
  rw [trimEnd_of_getLast? hends (by decide), hends]

/-- A plain block gives its statement, and the rest of the script is read as if it were one. -/
lemma drawnBehind_plain (count : ℕ) (rest : Text) (h : IsBody text) (ho : EndsOnce text) :
    drawnBehind count ((Block.plain text).render ++ rest) =
      (⟨text, count + 1⟩ ::
          (drawnBehind (count + (Block.plain text).render.count '\n') rest).1,
        (drawnBehind (count + (Block.plain text).render.count '\n') rest).2) := by
  have hrender : (Block.plain text).render ++ rest = text ++ '\n' :: rest := by
    simp [Block.render]
  have hcount : (Block.plain text).render.count '\n' = (lines text).length := by
    rw [length_lines h.isLined, Block.render, List.count_append]
    rfl
  have hstatement : CodeLine.statement? (numbered defaultDelimiter (count + 1) (lines text)) =
      some ⟨text, count + 1⟩ := by
    obtain ⟨first, more, hcons, hfirst⟩ := h.exists_lines_eq_cons
    have hsql := h.withoutDelimiter_default
    rw [hcons] at hsql ⊢
    exact statement?_numbered _ hfirst hsql h
  obtain ⟨front, line, hlines⟩ : ∃ front line, lines text = front ++ [line] :=
    ⟨_, _, (List.dropLast_append_getLast (lines_ne_nil h.isLined.ne_nil)).symm⟩
  rw [drawnBehind, hrender, lines_append_lineFeed rest h.isLined, hcount]
  rw [hlines] at hstatement ⊢
  rw [List.append_assoc, List.singleton_append, drawn_groups_codeLines, hstatement,
    List.length_append, List.length_singleton, drawnBehind]
  · rw [Nat.add_right_comm count 1, Nat.add_assoc count]
    rfl
  · intro l hl
    exact h.kind_of_mem_lines (hlines ▸ hl)
  · intro pre l post hfront hends
    refine ho.once pre l (post ++ [line]) ?_ (by simp) hends
    rw [hlines, hfront, List.append_assoc, List.cons_append]
  · rw [← hlines]
    exact h.quotes_lines
  · exact endsWith_trimEnd_of_lines_eq_concat h ho.ends hlines

/-- No line of a statement ends with a token for it. -/
lemma IsTokenFor.endsWith_eq_false (h : IsTokenFor text token) (hb : IsBody text) {line : Text}
    (hline : line ∈ lines text) : endsWith token (trimEnd line) = false := by
  by_contra hends
  rw [Bool.not_eq_false, endsWith, List.isSuffixOf_iff_suffix] at hends
  have htrim : trimEnd line <+: line := List.rdropWhile_prefix isBlankChar line
  have hinfix : token <:+: text :=
    (hends.isInfix.trans htrim.isInfix).trans (infix_of_mem_lines hb.isLined hline)
  have hnot := h.notMem
  rw [contains_eq_true_iff.mpr hinfix] at hnot
  cases hnot

/-- A wrapped block gives its statement, and the rest of the script is read as if it were one. -/
lemma drawnBehind_wrapped (count : ℕ) (rest : Text) (h : IsBody text)
    (ht : IsTokenFor text token) :
    drawnBehind count ((Block.wrapped token text).render ++ rest) =
      (⟨text, count + 2⟩ ::
          (drawnBehind (count + (Block.wrapped token text).render.count '\n') rest).1,
        (drawnBehind (count + (Block.wrapped token text).render.count '\n') rest).2) := by
  have hlines : lines ((Block.wrapped token text).render ++ rest) =
      directiveLine token ::
        (lines text ++ token :: directiveLine defaultDelimiter :: lines rest) := by
    have hrender : (Block.wrapped token text).render ++ rest =
        directiveLine token ++ '\n' :: (text ++ '\n' :: (token ++ '\n' ::
          (directiveLine defaultDelimiter ++ '\n' :: rest))) := by
      simp [Block.render, directiveLine]
    rw [hrender,
      lines_append_of_notMem _ (notMem_directiveLine (by rw [keyword_eq]; decide) ht.return_notMem)
        (notMem_directiveLine (by rw [keyword_eq]; decide) ht.lineFeed_notMem),
      lines_append_lineFeed _ h.isLined,
      lines_append_of_notMem _ ht.return_notMem ht.lineFeed_notMem,
      lines_append_of_notMem _ (notMem_directiveLine (by rw [keyword_eq]; decide) (by decide))
        (notMem_directiveLine (by rw [keyword_eq]; decide) (by decide))]
  have hcount : (Block.wrapped token text).render.count '\n' = (lines text).length + 3 := by
    have hkeyword : keyword.count '\n' = 0 := by rw [keyword_eq]; decide
    have htoken : token.count '\n' = 0 := List.count_eq_zero.mpr ht.lineFeed_notMem
    rw [length_lines h.isLined]
    simp [Block.render, hkeyword, htoken, defaultDelimiter]
  have hstatement : CodeLine.statement? (numbered token (count + 2) (lines text ++ [token])) =
      some ⟨text, count + 2⟩ := by
    obtain ⟨first, more, hcons, hfirst⟩ := h.exists_lines_eq_cons
    have hsql := h.withoutDelimiter_token ht
    rw [hcons, List.cons_append] at hsql ⊢
    exact statement?_numbered _ hfirst hsql h
  have hends : endsWith token (trimEnd token) = true := by
    rw [trimEnd_of_forall_not_blank ht.blank_notMem, endsWith, List.isSuffixOf_iff_suffix]
  rw [drawnBehind, hlines, codeLines_directiveLine _ _ _ ht.ne_nil ht.blank_notMem
    ht.comment_notMem, drawn_groups_codeLines, hstatement,
    codeLines_directiveLine_default, drawnBehind, hcount]
  · rw [show count + 1 + 1 + (lines text).length + 1 + 1 = count + ((lines text).length + 3) + 1 by
      omega]
    rfl
  · intro l hl
    rcases List.mem_append.mp hl with hl | hl
    · exact h.kind_of_mem_lines hl
    · rw [List.mem_singleton.mp hl]
      exact ht.kind
  · intro pre l post hfront hend
    have hl : l ∈ lines text := by
      rw [hfront]
      exact List.mem_append_right pre List.mem_cons_self
    rw [ht.endsWith_eq_false h hl] at hend
    cases hend
  · have hquotes : token.count '\'' = 0 := List.count_eq_zero.mpr ht.quote_notMem
    rw [List.flatten_append, List.count_append, List.flatten_singleton, hquotes, Nat.add_zero]
    exact h.quotes_lines
  · exact hends

/-! ## Scripts -/

/-- Behind a readable block the rest of the script is read as if it were one. -/
lemma drawnBehind_block (count : ℕ) (rest : Text) (block : Block) (h : block.IsReadable) :
    drawnBehind count (block.render ++ rest) =
      (⟨block.text, count + block.lead + 1⟩ ::
          (drawnBehind (count + block.render.count '\n') rest).1,
        (drawnBehind (count + block.render.count '\n') rest).2) := by
  cases block with
  | plain text => exact drawnBehind_plain count rest h.1 h.2
  | wrapped token text => exact drawnBehind_wrapped count rest h.1 h.2

/-- Readable blocks give their statements one after another, and nothing is left. -/
lemma drawnBehind_renderBlocks (count : ℕ) (blocks : List Block)
    (h : ∀ block ∈ blocks, block.IsReadable) :
    drawnBehind count (renderBlocks blocks) = (Block.statements count blocks, none) := by
  induction blocks generalizing count with
  | nil => rfl
  | cons block blocks ih =>
    rw [List.forall_mem_cons] at h
    have hrender : renderBlocks (block :: blocks) = block.render ++ renderBlocks blocks := rfl
    rw [hrender, drawnBehind_block count _ block h.1, ih _ h.2]
    rfl

/-- Rendered blocks do not begin with a byte order mark. -/
lemma dropByteOrderMark_renderBlocks (blocks : List Block)
    (h : ∀ block ∈ blocks, block.IsReadable) :
    dropByteOrderMark (renderBlocks blocks) = renderBlocks blocks := by
  cases blocks with
  | nil => rfl
  | cons block blocks =>
    rw [List.forall_mem_cons] at h
    cases block with
    | plain text =>
      obtain ⟨c, rest, rfl⟩ := List.exists_cons_of_ne_nil h.1.1.isLined.ne_nil
      have hc : c ≠ '\uFEFF' := fun hc => h.1.1.mark_notMem (congrArg some hc)
      exact if_neg hc
    | wrapped token text =>
      have hrender : ∃ rest, renderBlocks (.wrapped token text :: blocks) = 'D' :: rest := by
        simp [renderBlocks, Block.render, keyword_eq]
      obtain ⟨rest, hrest⟩ := hrender
      have hletter : 'D' ≠ '\uFEFF' := by decide
      rw [hrest, dropByteOrderMark, if_neg hletter]

/-- **Splitting undoes rendering.** The script that is rendered from readable blocks splits into the
statements of the blocks, in order and each with the line it begins on, and has no remainder. -/
theorem split_renderBlocks (blocks : List Block) (h : ∀ block ∈ blocks, block.IsReadable) :
    (split (renderBlocks blocks)).statements = Block.statements 0 blocks ∧
      (split (renderBlocks blocks)).remainder = none := by
  have hfresh : Gathered {} [] := Splitter.gathered_nil rfl rfl
  have hread := Splitter.read_eq_drawn_groups hfresh (lines (renderBlocks blocks))
  have hdrawn : drawnBehind 0 (renderBlocks blocks) = (Block.statements 0 blocks, none) :=
    drawnBehind_renderBlocks 0 blocks h
  rw [split_eq, dropByteOrderMark_renderBlocks blocks h]
  exact Prod.mk.inj (hread.trans hdrawn)

/-- A statement with a delimiter inside quotes at the end of a line. -/
def quotedInsert : Text := "INSERT INTO t VALUES ('a;\nb');".toList

/-- A routine whose body has delimiters of the usual kind. -/
def routine : Text := "CREATE PROCEDURE p() BEGIN\nSELECT 1;\nEND".toList

/-- The delimiter inside the quotes of the insertion closes nothing. -/
lemma isReadable_quotedInsert : (Block.plain quotedInsert).IsReadable := by
  refine ⟨⟨by decide, by decide, by decide, by decide, by decide, by decide, by decide⟩,
    ⟨by decide, ?_⟩⟩
  intro before line after hlines hafter _
  have hfirst : lines quotedInsert = ["INSERT INTO t VALUES ('a;".toList, "b');".toList] := by
    decide
  rw [hfirst] at hlines
  obtain ⟨hbefore, hline⟩ : before = [] ∧ line = "INSERT INTO t VALUES ('a;".toList := by
    rcases before with _ | ⟨first, _ | ⟨second, before⟩⟩
    · exact ⟨rfl, (List.cons.inj hlines).1.symm⟩
    · simp at hlines
      exact absurd hlines.2.2 hafter
    · simp at hlines
  rw [hbefore, hline]
  decide

/-- The routine can be wrapped with a token that does not occur in it. -/
lemma isReadable_routine : (Block.wrapped ['$', '$'] routine).IsReadable := by
  have hblank : ∀ c ∈ ['$', '$'], isBlankChar c = false := by
    intro c hc
    obtain rfl : c = '$' := by simpa using hc
    decide
  exact ⟨⟨by decide, by decide, by decide, by decide, by decide, by decide, by decide⟩,
    ⟨by decide, by decide, hblank, by decide, by decide, by decide, by decide⟩⟩

/-- Blocks of both kinds one after the other. -/
def mixedBlocks : List Block :=
  [.plain quotedInsert, .wrapped ['$', '$'] routine, .plain quotedInsert]

/-- Splitting undoes rendering where delimiters stand inside quotes and inside a routine. -/
theorem split_renderBlocks_mixedBlocks :
    (∀ block ∈ mixedBlocks, block.IsReadable) ∧
      (split (renderBlocks mixedBlocks)).statements =
        [⟨quotedInsert, 1⟩, ⟨routine, 4⟩, ⟨quotedInsert, 9⟩] ∧
      (split (renderBlocks mixedBlocks)).remainder = none := by
  have h : ∀ block ∈ mixedBlocks, block.IsReadable := by
    simp only [mixedBlocks, List.forall_mem_cons, isReadable_quotedInsert, isReadable_routine,
      true_and]
    exact fun _ hmem => absurd hmem List.not_mem_nil
  obtain ⟨hstatements, hremainder⟩ := split_renderBlocks mixedBlocks h
  refine ⟨h, hstatements.trans ?_, hremainder⟩
  decide

end ScriptRunner.Script
