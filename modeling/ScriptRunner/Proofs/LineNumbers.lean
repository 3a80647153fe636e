import Mathlib
import ScriptRunner.Proofs.ReadLines
import ScriptRunner.Proofs.ScriptLines

/-!
# The line numbers of statements

A splitter notes one number for its pending text, and overwrites it only while the text is blank.
The note therefore survives lines that add nothing, and is left behind when the text is closed. What
it says in the end can be read off the lines of the script: it is the number of the first line since
the last one that closed whose text is not blank (`startsOn`), and with this line the text begins
(`beginsWith`).
-/

namespace ScriptRunner.Script

open Text

/-! ## First lines of texts -/

/-- The text up to the first line feed. -/
def firstLine (s : Text) : Text := s.takeWhile (· != '\n')

/-- Behind a text without line feeds, the first line ends with the next line feed. -/
lemma firstLine_append_lineFeed {text : Text} (rest : Text) (h : '\n' ∉ text) :
    firstLine (text ++ '\n' :: rest) = text := by
  have hall : ∀ c ∈ text, (c != '\n') = true := by
    intro c hc
    rw [bne_iff_ne]
    rintro rfl
    exact h hc
  rw [firstLine, List.takeWhile_append_of_pos hall]
  simp

/-- A text without line feeds is its own first line. -/
lemma firstLine_of_notMem {text : Text} (h : '\n' ∉ text) : firstLine text = text := by
  rw [firstLine, List.takeWhile_eq_self_iff]
  intro c hc
  rw [bne_iff_ne]
  rintro rfl
  exact h hc

/-- A trimmed text begins with its first line, if this is not blank. White space at the end of the
line stays if something comes behind it. -/
lemma trimEnd_firstLine_trim {text : Text} (rest : Text) (hblank : isBlank text = false)
    (h : '\n' ∉ text) : trimEnd (firstLine (trim (text ++ '\n' :: rest))) = trim text := by
  have hstart : '\n' ∉ trimStart text := fun hmem =>
    h ((List.dropWhile_suffix isBlankChar).subset hmem)
  rw [trim, trimStart_append_of_not_isBlank _ hblank]
  cases hrest : isBlank rest with
  | true =>
    have hblankRest : isBlank ('\n' :: rest) = true := by
      rw [← List.singleton_append, isBlank_append, isBlank_lineFeed, hrest, Bool.true_and]
    have hend : '\n' ∉ trim text := fun hmem =>
      hstart ((List.rdropWhile_prefix isBlankChar _).subset hmem)
    rw [trimEnd_append_of_isBlank _ hblankRest, ← trim, firstLine_of_notMem hend, trim,
      trimEnd_eq_rdropWhile, trimEnd_eq_rdropWhile, List.rdropWhile_idempotent]
  | false =>
    rw [← List.singleton_append, ← List.append_assoc, trimEnd_append_of_not_isBlank _ hrest,
      List.append_assoc, List.singleton_append, firstLine_append_lineFeed _ hstart, trim]

/-! ## Lines without line feeds -/

/-- A line of a text has no line feed. -/
lemma lineFeed_notMem_of_mem_lines {text line : Text} (h : line ∈ lines text) : '\n' ∉ line := by
  fun_induction lines text generalizing line with
  | case1 => cases h
  | case2 rest ih =>
    rcases List.mem_cons.1 h with rfl | h
    · exact List.not_mem_nil
    · exact ih h
  | case3 rest _ ih =>
    rcases List.mem_cons.1 h with rfl | h
    · exact List.not_mem_nil
    · exact ih h
  | case4 c rest _ hc hnil ih =>
    rw [List.mem_singleton.1 h, List.mem_singleton]
    exact Ne.symm hc
  | case5 c rest _ hc first more hlines ih =>
    rw [hlines] at ih
    rcases List.mem_cons.1 h with rfl | h
    · rw [List.mem_cons, not_or]
      exact ⟨Ne.symm hc, ih List.mem_cons_self⟩
    · exact ih (List.mem_cons_of_mem _ h)

/-- What a line of a script adds to the pending text is a part of the line, so it has no line
feed. -/
lemma lineFeed_notMem_text {script : Text} {r : ReadLine} (h : r ∈ readLines script) :
    '\n' ∉ r.text := by
  have hline : r.line ∈ lines (dropByteOrderMark script) := by
    rw [← map_line_readLines]
    exact List.mem_map_of_mem h
  cases hcode : r.codeLine? with
  | none =>
    rw [ReadLine.text_of_codeLine?_eq_none hcode]
    exact List.not_mem_nil
  | some line =>
    obtain ⟨-, -, htext, -⟩ := eq_of_kind_code (ReadLine.eq_of_codeLine?_eq_some hcode).2
    rw [htext]
    intro hmem
    exact lineFeed_notMem_of_mem_lines hline ((stripComments_sublist r.line).subset hmem)

/-! ## The first line that is not blank -/

/-- What some lines have gathered is blank exactly when no line adds anything else. -/
lemma isBlank_joined_codeOf (gathered : List ReadLine) :
    isBlank (CodeLine.joined (codeOf gathered)) = gathered.all fun r => isBlank r.text := by
  induction gathered using List.reverseRecOn with
  | nil => rfl
  | append_singleton front r ih =>
    rw [codeOf_concat, CodeLine.joined_append, isBlank_append, ih, List.all_append, List.all_cons,
      List.all_nil, Bool.and_true]
    cases hline : r.codeLine? with
    | none => rw [ReadLine.text_of_codeLine?_eq_none hline]; rfl
    | some line =>
      rw [(ReadLine.eq_of_codeLine?_eq_some hline).1, Option.toList_some,
        CodeLine.joined_singleton, isBlank_append, isBlank_lineFeed, Bool.and_true]

/-- A line that is not blank is code. -/
lemma codeLine?_of_not_isBlank {r : ReadLine} (h : isBlank r.text = false) :
    r.codeLine? = some ⟨r.number, r.text, r.splitter.delimiter⟩ := by
  cases hline : r.codeLine? with
  | none => rw [ReadLine.text_of_codeLine?_eq_none hline] at h; cases h
  | some line => rw [(ReadLine.eq_of_codeLine?_eq_some hline).1]

/-- Where lines have gathered a text that is not blank, one of them is the first that is not blank.
Its number is that of the text, and with what it adds the text begins, up to white space. -/
lemma exists_first {gathered : List ReadLine}
    (h : isBlank (CodeLine.joined (codeOf gathered)) = false) :
    ∃ front r back, gathered = front ++ r :: back ∧ (∀ x ∈ front, isBlank x.text = true) ∧
      isBlank r.text = false ∧ CodeLine.firstNumber (codeOf gathered) = r.number ∧
      ∃ more, trim (CodeLine.joined (codeOf gathered)) = trim (r.text ++ '\n' :: more) := by
  rw [isBlank_joined_codeOf, List.all_eq_false] at h
  obtain ⟨x, hx, hnot⟩ := h
  have hsome : (gathered.find? fun r => !isBlank r.text).isSome = true :=
    List.find?_isSome.2 ⟨x, hx, by simpa using hnot⟩
  obtain ⟨r, hr⟩ := Option.isSome_iff_exists.1 hsome
  obtain ⟨hblank, front, back, rfl, hfront⟩ := List.find?_eq_some_iff_append.1 hr
  rw [Bool.not_eq_true'] at hblank
  have hfront' : ∀ x ∈ front, isBlank x.text = true := fun x hx => by simpa using hfront x hx
  have hblankFront : isBlank (CodeLine.joined (codeOf front)) = true := by
    rw [isBlank_joined_codeOf, List.all_eq_true]
    exact hfront'
  set line : CodeLine := ⟨r.number, r.text, r.splitter.delimiter⟩ with hline
  have hcode : codeOf (front ++ r :: back) = codeOf front ++ [line] ++ codeOf back := by
    have hconcat : codeOf (front ++ [r]) = codeOf front ++ [line] := by
      rw [codeOf_concat, codeLine?_of_not_isBlank hblank, Option.toList_some]
    rw [← hconcat, codeOf, codeOf, codeOf, ← List.filterMap_append, List.append_assoc,
      List.singleton_append]
  -- Blank lines in front of it count neither for the number nor for the trimmed text.
  have hnot : isBlank (CodeLine.joined (codeOf front ++ [line])) = false := by
    rw [CodeLine.joined_append, isBlank_append, hblankFront, CodeLine.joined_singleton,
      isBlank_append, hblank]
    rfl
  refine ⟨front, r, back, rfl, hfront', hblank, ?_, CodeLine.joined (codeOf back), ?_⟩
  · rw [hcode, CodeLine.firstNumber_append_of_not_isBlank _ hnot,
      CodeLine.firstNumber_append_of_isBlank hblankFront hblank]
  · rw [hcode, CodeLine.joined_append, CodeLine.joined_append, List.append_assoc,
      trim_append_of_isBlank_left _ hblankFront, CodeLine.joined_singleton, List.append_assoc,
      List.singleton_append]

/-! ## What a line number says -/

/-- A number is that of the line on which the text of some lines starts, when other lines came
before. -/
structure StartsOn (earlier gathered : List ReadLine) (number : ℕ) : Prop where
  /-- The line is behind every line that closed something. -/
  behindCloses : ∀ c ∈ earlier, c.closes = true → c.number < number
  /-- The line is one of those gathered, and adds more than white space. -/
  contributes : ∃ r ∈ gathered, r.number = number ∧ isBlank r.text = false
  /-- The lines in front of it add nothing but white space. -/
  blankBefore : ∀ r ∈ gathered, r.number < number → isBlank r.text = true

/-- A text begins with what its line has added to it. -/
def BeginsWith (gathered : List ReadLine) (st : Statement) : Prop :=
  ∀ r ∈ gathered, r.number = st.line → trimEnd (firstLine st.sql) = trim r.text

variable {earlier tail : List ReadLine}

/-- Lines that close come before all lines behind the last one that closes. -/
lemma number_lt_of_closes (hnumbers : (earlier ++ tail).Pairwise fun a b => a.number < b.number)
    {c r : ReadLine} (hc : c ∈ earlier) (hcloses : c.closes = true)
    (hr : r ∈ sinceClose earlier ++ tail) : c.number < r.number := by
  have hsplit : earlier.rdropWhile (fun r => !r.closes) ++ sinceClose earlier = earlier :=
    List.rdropWhile_append_rtakeWhile
  have hfront : c ∈ earlier.rdropWhile fun r => !r.closes := by
    rw [← hsplit, List.mem_append] at hc
    refine hc.resolve_right fun hmem => ?_
    have hnot := List.mem_rtakeWhile_imp hmem
    rw [hcloses] at hnot
    cases hnot
  rw [← hsplit, List.append_assoc] at hnumbers
  exact (List.pairwise_append.1 hnumbers).2.2 c hfront r hr

/-- A text that was gathered since the last line that closes starts on the line of its number. -/
lemma startsOn (hnumbers : (earlier ++ tail).Pairwise fun a b => a.number < b.number)
    (h : isBlank (CodeLine.joined (codeOf (sinceClose earlier ++ tail))) = false) :
    StartsOn earlier (sinceClose earlier ++ tail)
      (CodeLine.firstNumber (codeOf (sinceClose earlier ++ tail))) := by
  obtain ⟨front, r, back, hgathered, hfront, hblank, hfirst, -⟩ := exists_first h
  have hmem : r ∈ sinceClose earlier ++ tail := by rw [hgathered]; simp
  rw [hfirst]
  refine ⟨fun c hc hcloses => number_lt_of_closes hnumbers hc hcloses hmem, ⟨r, hmem, rfl, hblank⟩,
    fun x hx hlt => ?_⟩
  have hsublist : (sinceClose earlier ++ tail).Sublist (earlier ++ tail) :=
    (List.rtakeWhile_suffix _ earlier).sublist.append_right tail
  have hordered := hnumbers.sublist hsublist
  rw [hgathered] at hordered hx
  rcases List.mem_append.1 hx with hx | hx
  · exact hfront x hx
  · rcases List.mem_cons.1 hx with rfl | hx
    · exact absurd hlt (lt_irrefl _)
    · have hbehind := (List.pairwise_cons.1 (List.pairwise_append.1 hordered).2.1).1 x hx
      omega

/-- The text of lines whose numbers grow begins with what the line of its number has added. -/
lemma beginsWith {gathered : List ReadLine} {st : Statement}
    (hnumbers : gathered.Pairwise fun a b => a.number < b.number)
    (hfeed : ∀ r ∈ gathered, '\n' ∉ r.text)
    (h : isBlank (CodeLine.joined (codeOf gathered)) = false)
    (hline : st.line = CodeLine.firstNumber (codeOf gathered))
    (hsql : st.sql = trim (CodeLine.joined (codeOf gathered))) : BeginsWith gathered st := by
  obtain ⟨front, r, back, hgathered, -, hblank, hfirst, more, htrim⟩ := exists_first h
  have hmem : r ∈ gathered := by rw [hgathered]; simp
  intro x hx hnumber
  have hnodup : (gathered.map ReadLine.number).Nodup :=
    (List.pairwise_map.2 hnumbers).imp Nat.ne_of_lt
  obtain rfl : x = r :=
    List.inj_on_of_nodup_map hnodup hx hmem (by rw [hnumber, hline, hfirst])
  rw [hsql, htrim]
  exact trimEnd_firstLine_trim more hblank (hfeed x hx)

/-! ## Statements and the remainder -/

/-- What is to be said of a statement that a line closes behind others. -/
structure IsNumbered (earlier : List ReadLine) (r : ReadLine) (st : Statement) : Prop where
  closes : r.closes = true
  /-- The statement is what the lines since the last one that closed have gathered. -/
  sql : st.sql = bodyOf earlier r
  line_le : st.line ≤ r.number
  startsOn : StartsOn earlier (sinceClose earlier ++ [r]) st.line
  underDefault : r.splitter.delimiter = defaultDelimiter →
    BeginsWith (sinceClose earlier ++ [r]) st

/-- A statement that a line of a script closes is numbered by its first line. -/
lemma isNumbered {script : Text} {later : List ReadLine} {r : ReadLine} {st : Statement}
    (h : readLines script = earlier ++ r :: later) (hst : r.statement? = some st) :
    IsNumbered earlier r st := by
  have hc : r.closes = true := closes_of_statement? h hst
  rw [statement?_of_closes h hc] at hst
  split at hst
  · cases hst
  next hbody =>
  obtain rfl := Option.some.inj hst
  -- A body that is given is not blank, so the lines that it comes from are not all blank.
  have hjoined : isBlank (CodeLine.joined (codeOf (sinceClose earlier ++ [r]))) = false := by
    by_contra hblank
    rw [Bool.not_eq_false] at hblank
    exact hbody (isBlank_dropEnd_of_isBlank ';' (CodeLine.isBlank_withoutDelimiter _ hblank))
  have hnumbers : (earlier ++ [r]).Pairwise fun a b => a.number < b.number := by
    have hall := pairwise_number_readLines script
    rw [h, ← List.singleton_append, ← List.append_assoc] at hall
    exact (List.pairwise_append.1 hall).1
  have hsublist : (sinceClose earlier ++ [r]).Sublist (earlier ++ [r]) :=
    (List.rtakeWhile_suffix _ earlier).sublist.append_right [r]
  have hstarts := startsOn hnumbers hjoined
  refine ⟨hc, rfl, ?_, hstarts, fun hdelimiter => ?_⟩
  · obtain ⟨x, hx, hnumber, -⟩ := hstarts.contributes
    change CodeLine.firstNumber _ ≤ r.number
    rw [← hnumber]
    rcases List.mem_append.1 (hsublist.subset hx) with hx | hx
    · exact ((List.pairwise_append.1 hnumbers).2.2 x hx r (List.mem_singleton_self r)).le
    · rw [List.mem_singleton.1 hx]
  · refine beginsWith (hnumbers.sublist hsublist) (fun x hx => ?_) hjoined rfl ?_
    · have hmem : x ∈ readLines script := by
        rw [h, ← List.singleton_append, ← List.append_assoc]
        exact List.mem_append_left _ (hsublist.subset hx)
      exact lineFeed_notMem_text hmem
    · rw [bodyOf, CodeLine.withoutDelimiter, if_pos hdelimiter]

/-- The remainder of a script is numbered by the first line since the last one that closes. -/
lemma startsOn_remainder {script : Text} {rest : Statement}
    (h : (split script).remainder = some rest) :
    rest.line ≤ (readLines script).length ∧
      StartsOn (readLines script) (sinceClose (readLines script)) rest.line ∧
      BeginsWith (sinceClose (readLines script)) rest := by
  rw [remainder_split, CodeLine.remainder?] at h
  split at h
  · cases h
  next hjoined =>
  rw [Bool.not_eq_true] at hjoined
  obtain rfl := Option.some.inj h
  have hnumbers := pairwise_number_readLines script
  have hsublist : (sinceClose (readLines script)).Sublist (readLines script) :=
    (List.rtakeWhile_suffix _ _).sublist
  have hstarts : StartsOn (readLines script) (sinceClose (readLines script))
      (CodeLine.firstNumber (codeOf (sinceClose (readLines script)))) := by
    rw [← List.append_nil (sinceClose _)]
    exact startsOn (by rwa [List.append_nil]) (by rwa [List.append_nil])
  refine ⟨?_, hstarts, beginsWith (hnumbers.sublist hsublist) (fun x hx => ?_) hjoined rfl rfl⟩
  · obtain ⟨x, hx, hnumber, -⟩ := hstarts.contributes
    change CodeLine.firstNumber _ ≤ _
    rw [← hnumber]
    exact number_le_length (hsublist.subset hx)
  · exact lineFeed_notMem_text (hsublist.subset hx)

/-- A statement that an earlier line of a script closes has a smaller line. -/
lemma line_lt_line {script : Text} {a b : ReadLine} {first second : Statement}
    (h : [a, b].Sublist (readLines script)) (ha : a.statement? = some first)
    (hb : b.statement? = some second) : first.line < second.line := by
  obtain ⟨front, rest, hread, hfront, hrest⟩ := List.cons_sublist_iff.1 h
  obtain ⟨early, between, rfl⟩ := List.append_of_mem hfront
  obtain ⟨middle, behind, rfl⟩ := List.append_of_mem (List.singleton_sublist.1 hrest)
  have hreadFirst : readLines script = early ++ a :: (between ++ (middle ++ b :: behind)) := by
    rw [hread, List.append_assoc, List.cons_append]
  have hreadSecond : readLines script = early ++ a :: between ++ middle ++ b :: behind := by
    rw [hread, List.append_assoc _ middle]
  -- The first line closes, so the text of the second one starts behind it.
  have hfirst : IsNumbered early a first := isNumbered hreadFirst ha
  have hsecond : IsNumbered (early ++ a :: between ++ middle) b second := isNumbered hreadSecond hb
  exact hfirst.line_le.trans_lt (hsecond.startsOn.behindCloses a (by simp) hfirst.closes)

/-- **The line of a statement is the one it starts on.** The lines of a script are read in order and
numbered from one on, and its statements are those that its lines close. The line of a statement is
not behind the line that closes it, and behind every earlier line that closes, whether this one gave
a statement or not; so the lines of the statements grow. Of the lines since the last one that
closed, it is the first that adds more than white space. If the delimiter is the usual one when the
statement is closed, the statement begins with what its line has added. The same holds of the
remainder. -/
theorem line_split (script : Text) :
    (readLines script).map ReadLine.line = lines (dropByteOrderMark script) ∧
    (readLines script).map ReadLine.number = List.range' 1 (readLines script).length ∧
    (split script).statements = (readLines script).filterMap ReadLine.statement? ∧
    ((split script).statements.map Statement.line).Pairwise (· < ·) ∧
    (∀ earlier r later st, readLines script = earlier ++ r :: later → r.statement? = some st →
      IsNumbered earlier r st) ∧
    ∀ rest, (split script).remainder = some rest →
      rest.line ≤ (readLines script).length ∧
      StartsOn (readLines script) (sinceClose (readLines script)) rest.line ∧
      BeginsWith (sinceClose (readLines script)) rest := by
  refine ⟨map_line_readLines script, map_number_readLines script, statements_split script, ?_,
    fun _ _ _ _ => isNumbered, fun _ => startsOn_remainder⟩
  rw [statements_split, List.pairwise_map, List.pairwise_filterMap,
    List.pairwise_iff_forall_sublist]
  intro a b hsublist first hfirst second hsecond
  exact line_lt_line hsublist hfirst hsecond

/-- A comment and a directive in front of a statement, which is closed two lines behind its own. -/
theorem line_split_behindDirective :
    IsNumbered ((readLines "A;\n /* */\nDELIMITER $$\nB\nDELIMITER ;\nC;").take 5)
      ⟨{ mode := .normal, pending := " \nB\n", pendingLine := 4, lineNumber := 5 }, "C;"⟩
      ⟨"B\nC;", 4⟩ := by
  refine (line_split "A;\n /* */\nDELIMITER $$\nB\nDELIMITER ;\nC;").2.2.2.2.1 _ _ [] _ ?_ ?_
  · decide +kernel
  · decide +kernel

end ScriptRunner.Script
