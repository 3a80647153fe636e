import Mathlib
import ScriptRunner.Proofs.ReadLines

/-!
# Statements without content

A line that closes gives no statement if its body has nothing to execute in it. Whether there is
anything is decided by taking the delimiters of the usual kind from the end of the body: it counts
as empty exactly when it has no other characters (`isBlank_dropEnd_iff`). Under another delimiter,
all that is woven from this delimiter and white space comes to an empty body (`isBlank_removeAll`).

This misses one shape, delimiters of the usual kind with white space between them (`IsGapped`). Such
a body is given as a statement, and nothing else without content is (`content_of_statement`).
-/

namespace ScriptRunner.Script

open Text

/-! ## Shapes of a text -/

/-- There is something in a text besides delimiters of the usual kind and white space. -/
def HasContent (sql : Text) : Prop := ∃ c ∈ sql, isBlankChar c = false ∧ c ≠ ';'

/-- A text of delimiters of the usual kind with white space between them. -/
structure IsGapped (sql : Text) : Prop where
  only : ∀ c ∈ sql, isBlankChar c = true ∨ c = ';'
  head : sql.head? = some ';'
  last : sql.getLast? = some ';'
  gap : ∃ c ∈ sql, isBlankChar c = true

/-- A text that consists of occurrences of a mark and white space between and around them. -/
inductive IsWoven (mark : Text) : Text → Prop
  | blank (space : Text) (hspace : isBlank space = true) : IsWoven mark space
  | cons (space rest : Text) (hspace : isBlank space = true) (hrest : IsWoven mark rest) :
      IsWoven mark (space ++ mark ++ rest)

/-! ## What is taken away -/

/-- Without a mark, nothing but white space is left of a text that is woven from it. -/
lemma isBlank_removeAll {mark s : Text} (hne : mark ≠ []) (hmark : IsTrimmed mark)
    (h : IsWoven mark s) : isBlank (removeAll mark s) = true := by
  obtain ⟨c, rest, rfl⟩ := List.exists_cons_of_ne_nil hne
  induction h with
  | blank space hspace => exact isBlank_of_sublist (removeAll_sublist _ space) hspace
  | cons space s hspace _ ih =>
    rw [List.append_assoc, removeAll_append_of_notMem _ (hmark.head_notMem hspace),
      removeAll_of_cut hne (cut_append_self hne s), List.nil_append, isBlank_append, hspace, ih,
      Bool.and_true]

/-- Nothing is left of a text without white space at its ends, when delimiters of the usual kind are
taken from its end, exactly if there was nothing else in it. -/
lemma isBlank_dropEnd_iff {sql : Text} (h : IsTrimmed sql) :
    isBlank (dropEnd ';' sql) = true ↔ ∀ c ∈ sql, c = ';' := by
  have hdrop : dropEnd ';' sql = sql.rdropWhile (· == ';') := rfl
  have hnil : dropEnd ';' sql = [] ↔ ∀ c ∈ sql, c = ';' := by
    rw [hdrop, List.rdropWhile_eq_nil_iff]
    simp only [beq_iff_eq]
  rw [← hnil]
  refine ⟨fun hblank => ?_, fun heq => by rw [heq]; rfl⟩
  by_contra hne
  -- What is left begins like the text, so it does not begin with white space.
  obtain ⟨c, rest, hcons⟩ := List.exists_cons_of_ne_nil hne
  obtain ⟨back, hback⟩ := List.rdropWhile_prefix (· == ';') sql
  have hhead : sql.head? = some c := by
    rw [← hback, ← hdrop, hcons]
    rfl
  have hc : isBlankChar c = false := h c (.inl hhead)
  rw [isBlank_iff_forall.mp hblank c (by rw [hcons]; exact List.mem_cons_self)] at hc
  cases hc

/-- A trimmed text that does not consist of delimiters of the usual kind alone has content, or else
it has them with white space between them. -/
lemma not_forall_iff {sql : Text} (h : IsTrimmed sql) :
    (¬ ∀ c ∈ sql, c = ';') ↔ HasContent sql ∨ IsGapped sql := by
  constructor
  · intro hnot
    by_cases hcontent : HasContent sql
    · exact .inl hcontent
    · have honly : ∀ c ∈ sql, isBlankChar c = true ∨ c = ';' := by
        intro c hc
        by_contra hneither
        rw [not_or, Bool.not_eq_true] at hneither
        exact hcontent ⟨c, hc, hneither⟩
      have hends : ∀ c, sql.head? = some c ∨ sql.getLast? = some c → c = ';' := by
        intro c hc
        have hmem : c ∈ sql := hc.elim List.mem_of_mem_head? List.mem_of_getLast?
        exact (honly c hmem).resolve_left (by rw [h c hc]; exact Bool.false_ne_true)
      push Not at hnot
      obtain ⟨c, hc, hne⟩ := hnot
      have hnil : sql ≠ [] := List.ne_nil_of_mem hc
      refine .inr ⟨honly, ?_, ?_, c, hc, (honly c hc).resolve_right hne⟩
      · rw [List.head?_eq_some_head hnil,
          hends _ (.inl (List.head?_eq_some_head hnil))]
      · rw [List.getLast?_eq_some_getLast hnil,
          hends _ (.inr (List.getLast?_eq_some_getLast hnil))]
  · rintro (⟨c, hc, -, hne⟩ | hgapped) hall
    · exact hne (hall c hc)
    · obtain ⟨c, hc, hblank⟩ := hgapped.gap
      rw [hall c hc] at hblank
      exact absurd hblank (by decide)

/-- A text with nothing but delimiters and white space has no content. -/
lemma IsGapped.not_hasContent {sql : Text} (h : IsGapped sql) : ¬ HasContent sql := by
  rintro ⟨c, hc, hblank, hne⟩
  rcases h.only c hc with hspace | hdelimiter
  · rw [hblank] at hspace
    cases hspace
  · exact hne hdelimiter

/-! ## What a line gives -/

variable {script : Text} {earlier later : List ReadLine} {r : ReadLine}

/-- A body has no white space at its ends. -/
lemma isTrimmed_bodyOf (earlier : List ReadLine) (r : ReadLine) : IsTrimmed (bodyOf earlier r) :=
  isTrimmed_of_trim_eq (by rw [bodyOf, CodeLine.withoutDelimiter, trim_trim])

/-- A line that closes gives no statement exactly if its body consists of delimiters of the usual
kind. -/
lemma statement?_eq_none_iff (h : readLines script = earlier ++ r :: later)
    (hc : r.closes = true) : r.statement? = none ↔ ∀ c ∈ bodyOf earlier r, c = ';' := by
  rw [statement?_of_closes h hc, ← isBlank_dropEnd_iff (isTrimmed_bodyOf earlier r)]
  split
  · next hblank => exact iff_of_true rfl hblank
  · next hblank => exact iff_of_false (Option.some_ne_none _) hblank

/-- A line that closes gives its body as a statement exactly if there is content in it or it is
gapped. -/
lemma exists_statement_iff (h : readLines script = earlier ++ r :: later) (hc : r.closes = true) :
    (∃ st, r.statement? = some st ∧ st.sql = bodyOf earlier r) ↔
      HasContent (bodyOf earlier r) ∨ IsGapped (bodyOf earlier r) := by
  rw [← not_forall_iff (isTrimmed_bodyOf earlier r), ← statement?_eq_none_iff h hc,
    statement?_of_closes h hc]
  split
  · simp
  · simp

/-- Under a delimiter of another kind, a line gives no statement if all that it closes is woven from
the delimiter and white space. -/
lemma statement?_of_isWoven (h : readLines script = earlier ++ r :: later) (hc : r.closes = true)
    (hdelimiter : r.splitter.delimiter ≠ defaultDelimiter)
    (hwoven : IsWoven r.splitter.delimiter
      (CodeLine.joined (codeOf (sinceClose earlier ++ [r])))) : r.statement? = none := by
  have hconsistent := consistent_readLines h
  have hblank : isBlank (bodyOf earlier r) = true := by
    rw [bodyOf, CodeLine.withoutDelimiter, isBlank_trim, if_neg hdelimiter]
    exact isBlank_removeAll hconsistent.delimiter_ne_nil hconsistent.delimiter_trimmed hwoven
  rw [statement?_of_closes h hc, if_pos (isBlank_dropEnd_of_isBlank ';' hblank)]

/-- **Which bodies are given as statements.** A line that closes gives its body as a statement if
there is content in it, and gives nothing if it consists of delimiters of the usual kind, or under
another delimiter of white space and that one. The only bodies without content that are given are
the gapped ones, so all statements of a script have content exactly if no line closes such a
body. -/
theorem content_of_statement (script : Text) :
    (∀ earlier r later, readLines script = earlier ++ r :: later → r.closes = true →
      ((∃ st, r.statement? = some st ∧ st.sql = bodyOf earlier r) ↔
        HasContent (bodyOf earlier r) ∨ IsGapped (bodyOf earlier r)) ∧
      (r.statement? = none ↔ ∀ c ∈ bodyOf earlier r, c = ';') ∧
      (r.splitter.delimiter ≠ defaultDelimiter →
        IsWoven r.splitter.delimiter (CodeLine.joined (codeOf (sinceClose earlier ++ [r]))) →
        r.statement? = none)) ∧
    ((∀ st ∈ (split script).statements, HasContent st.sql) ↔
      ∀ earlier r later, readLines script = earlier ++ r :: later → r.closes = true →
        ¬ IsGapped (bodyOf earlier r)) := by
  refine ⟨fun earlier r later h hc => ⟨exists_statement_iff h hc, statement?_eq_none_iff h hc,
    statement?_of_isWoven h hc⟩, fun hcontent earlier r later h hc hgapped => ?_,
    fun hnone st hst => ?_⟩
  · obtain ⟨st, hst, hsql⟩ := (exists_statement_iff h hc).2 (.inr hgapped)
    have hmem : st ∈ (split script).statements := by
      rw [statements_split, List.mem_filterMap]
      exact ⟨r, by rw [h]; simp, hst⟩
    exact hgapped.not_hasContent (hsql ▸ hcontent st hmem)
  · rw [statements_split, List.mem_filterMap] at hst
    obtain ⟨r, hr, hst⟩ := hst
    obtain ⟨earlier, later, h⟩ := List.append_of_mem hr
    have hc : r.closes = true := closes_of_statement? h hst
    have hsql : st.sql = bodyOf earlier r := by
      rw [statement?_of_closes h hc] at hst
      split at hst
      · cases hst
      · rw [← Option.some.inj hst]
    rw [hsql]
    exact ((exists_statement_iff h hc).1 ⟨st, hst, hsql⟩).resolve_right (hnone earlier r later h hc)

/-- Nothing is left of a line on which a delimiter of another kind stands twice. -/
theorem content_of_statement_twoDelimiters :
    (split "DELIMITER $$\n $$ $$\nA; $$\n").statements = [⟨"A;", 3⟩] ∧
    ReadLine.statement? ⟨{ delimiter := "$$", lineNumber := 1 }, " $$ $$"⟩ = none := by
  refine ⟨by decide +kernel, ?_⟩
  refine ((content_of_statement "DELIMITER $$\n $$ $$\nA; $$\n").1
    ((readLines "DELIMITER $$\n $$ $$\nA; $$\n").take 1)
    ⟨{ delimiter := "$$", lineNumber := 1 }, " $$ $$"⟩
    ((readLines "DELIMITER $$\n $$ $$\nA; $$\n").drop 2) ?_ ?_).2.2 ?_ ?_
  · decide +kernel
  · decide +kernel
  · decide +kernel
  · have hjoined : CodeLine.joined (codeOf (sinceClose
        ((readLines "DELIMITER $$\n $$ $$\nA; $$\n").take 1) ++
          [⟨{ delimiter := "$$", lineNumber := 1 }, " $$ $$"⟩])) = " $$ $$\n" := by
      decide +kernel
    have hend : IsWoven "$$" "\n" := .blank "\n" (by decide)
    have hsecond : IsWoven "$$" " $$\n" := .cons " " "\n" (by decide) hend
    rw [hjoined]
    exact .cons " " " $$\n" (by decide) hsecond

/-- Two delimiters with a space between them are given as a statement. -/
theorem content_of_statement_gapped :
    (split "SELECT 1;\n; ;\nSELECT 2;\n").statements =
      [⟨"SELECT 1;", 1⟩, ⟨"; ;", 2⟩, ⟨"SELECT 2;", 3⟩] ∧
    ¬ ∀ script, ∀ st ∈ (split script).statements, HasContent st.sql := by
  have hsplit : (split "SELECT 1;\n; ;\nSELECT 2;\n").statements =
      [⟨"SELECT 1;", 1⟩, ⟨"; ;", 2⟩, ⟨"SELECT 2;", 3⟩] := by decide +kernel
  have hspace : isBlankChar ' ' = true := by decide
  have hgapped : IsGapped "; ;" := ⟨by simp [hspace], rfl, rfl, ' ', by simp, hspace⟩
  have hmem : ⟨"; ;", 2⟩ ∈ (split "SELECT 1;\n; ;\nSELECT 2;\n").statements := by
    rw [hsplit]
    exact .tail _ (.head _)
  exact ⟨hsplit, fun hall => hgapped.not_hasContent (hall _ _ hmem)⟩

end ScriptRunner.Script
