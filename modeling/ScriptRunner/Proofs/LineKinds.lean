import Mathlib
import ScriptRunner.Proofs.Occurrences
import ScriptRunner.Proofs.Trimming
import ScriptRunner.Script.Splitter

/-!
# Lines of code and directives

Outside comments, a line that is not ignored, has no opener of a comment and is no directive is code
as it stands (`kind_of_code`), and the keyword with a gap and a token behind it is a directive that
names this token (`kind_of_directive`).
-/

namespace ScriptRunner.Script

open Text

variable {line token : Text}

/-- There is nothing to strip from a line without an opener. -/
lemma stripComments_of_not_contains (h : contains blockOpen line = false) :
    stripComments line = line := by
  rw [stripComments]
  split
  · rfl
  · next heq =>
    rw [cut_eq_none_iff.mpr h] at heq
    cases heq

/-- Stripping only takes characters away. -/
lemma stripComments_sublist (line : Text) : (stripComments line).Sublist line := by
  fun_induction stripComments line with
  | case1 line hcut => exact List.Sublist.refl line
  | case2 line before body hcut hclose => exact List.Sublist.refl line
  | case3 line before body hcut inside after hclose hlt ih =>
    have hafter : after.Sublist body := by
      rw [append_of_cut hclose]
      exact List.sublist_append_right _ _
    rw [append_of_cut hcut, List.append_assoc]
    exact (List.Sublist.refl before).append
      ((ih.trans hafter).trans (List.sublist_append_right _ _))

/-- A line that is not ignored is not blank. -/
lemma not_isBlank_of_not_isIgnorable (h : isIgnorable line = false) : isBlank line = false := by
  simp only [isIgnorable, Bool.or_eq_false_iff] at h
  exact h.1.1

/-- A line that is not ignored, opens no comment and is no directive is code. -/
lemma kind_of_code (hi : isIgnorable line = false) (ho : contains blockOpen line = false)
    (hd : isDirective line = false) : LineKind.of .normal line = .code line := by
  simp [LineKind.of, stripComments_of_not_contains ho, hi, ho, hd]

/-- What code is: what is left of a line outside of comments that is not ignored, if it opens no
comment and is no directive. -/
lemma eq_of_kind_code {mode : ScanMode} {text : Text} (h : LineKind.of mode line = .code text) :
    mode = .normal ∧ isIgnorable line = false ∧ text = stripComments line ∧
      contains blockOpen text = false ∧ isDirective text = false := by
  unfold LineKind.of at h
  dsimp only at h
  split at h
  · cases h
  · next hi =>
    split at h
    · cases h
    · next ho =>
      split at h
      · split at h <;> cases h
      · next hmode =>
        split at h
        · cases h
        · next hd =>
          cases h
          have hnormal : mode = .normal := by
            cases mode with
            | normal => rfl
            | inBlockComment => exact absurd rfl hmode
          simp only [Bool.not_eq_true] at hi ho hd
          exact ⟨hnormal, hi, rfl, ho, hd⟩

/-- A directive opens no comment, and its token is the one that is written on the line. -/
lemma eq_of_kind_directive {mode : ScanMode} {token : Option Text}
    (h : LineKind.of mode line = .directive token) :
    contains blockOpen (stripComments line) = false ∧
      token = directiveToken? (stripComments line) := by
  unfold LineKind.of at h
  dsimp only at h
  split at h
  · cases h
  · split at h
    · cases h
    · next ho =>
      split at h
      · split at h <;> cases h
      · split at h
        · cases h
          rw [Bool.not_eq_true] at ho
          exact ⟨ho, rfl⟩
        · cases h

/-! ## Directives -/

/-- What stands behind the keyword and the gap is the end of the line. -/
lemma suffix_of_directiveRest? {rest : Text} (h : directiveRest? line = some rest) :
    rest <:+ line := by
  unfold directiveRest? at h
  dsimp only at h
  split at h
  · split at h
    · cases h
    · next c behind hdrop =>
      split at h
      · cases h
        have hbehind : behind <:+ line.dropWhile isLeadingBlank :=
          (List.suffix_cons c behind).trans (hdrop ▸ List.drop_suffix _ _)
        exact (List.dropWhile_suffix isGap).trans (hbehind.trans (List.dropWhile_suffix _))
      · cases h
  · cases h

/-- The token of a directive is a part of the line. It is not blank, and has no white space at its
ends. -/
lemma eq_of_directiveToken? (h : directiveToken? line = some token) :
    token <:+: line ∧ isBlank token = false ∧ trim token = token := by
  unfold directiveToken? at h
  split at h
  · cases h
  · next rest hrest =>
    split at h
    · cases h
    · next hblank =>
      cases h
      rw [Bool.not_eq_true] at hblank
      exact ⟨(infix_of_trim rest).trans (suffix_of_directiveRest? hrest).isInfix,
        (isBlank_trim rest).trans hblank, trim_trim rest⟩

/-- What separates a keyword from its token is white space. -/
lemma isGap_eq_false_of_not_blank {c : Char} (h : isBlankChar c = false) : isGap c = false := by
  by_contra hgap
  simp only [Bool.not_eq_false, isGap, Bool.or_eq_true, beq_iff_eq] at hgap
  rcases hgap with rfl | rfl
  · exact absurd h (by decide)
  · exact absurd h (by decide)

/-- A line without white space is no directive. -/
lemma isDirective_of_forall_not_blank (h : ∀ c ∈ line, isBlankChar c = false) :
    isDirective line = false := by
  rw [isDirective, directiveRest?]
  split
  · split
    · rfl
    · next c rest heq =>
      have hdrop : c ∈ (line.dropWhile isLeadingBlank).drop keyword.length := by
        rw [heq]
        exact List.mem_cons_self
      have hc : c ∈ line :=
        (List.dropWhile_sublist isLeadingBlank).subset (List.mem_of_mem_drop hdrop)
      rw [isGap_eq_false_of_not_blank (h c hc)]
      rfl
  · rfl

/-- The letters of the keyword. -/
lemma keyword_eq : keyword = ['D', 'E', 'L', 'I', 'M', 'I', 'T', 'E', 'R'] := by decide

/-- The line that sets a delimiter. -/
def directiveLine (token : Text) : Text := keyword ++ ' ' :: token

/-- A character that is neither in the keyword nor in the token is not in the line. -/
lemma notMem_directiveLine {c : Char} (hc : c ∉ keyword ++ [' ']) (ht : c ∉ token) :
    c ∉ directiveLine token := by
  rw [directiveLine, ← List.singleton_append, ← List.append_assoc, List.mem_append, not_or]
  exact ⟨hc, ht⟩

/-- Behind the keyword and the gap stands the token. -/
lemma directiveRest?_directiveLine (h : ∀ c ∈ token, isBlankChar c = false) :
    directiveRest? (directiveLine token) = some token := by
  have hgap : token.dropWhile isGap = token := by
    cases token with
    | nil => rfl
    | cons c rest =>
      have hc : isGap c = false := isGap_eq_false_of_not_blank (h c List.mem_cons_self)
      exact List.dropWhile_cons_of_neg (by rw [hc]; exact Bool.false_ne_true)
  have hlead : (directiveLine token).dropWhile isLeadingBlank = directiveLine token := by
    rw [directiveLine, keyword_eq]
    rfl
  have htake : ((directiveLine token).take keyword.length).map Char.toUpper = keyword := by
    rw [directiveLine, List.take_left]
    decide
  have hdrop : (directiveLine token).drop keyword.length = ' ' :: token := by
    rw [directiveLine, List.drop_left]
  rw [directiveRest?, hlead, if_pos htake, hdrop]
  simp only [isGap, beq_self_eq_true, Bool.true_or, if_true]
  exact congrArg some hgap

/-- The keyword and a token that opens no comment make a directive that names the token. -/
lemma kind_of_directive (hne : token ≠ []) (hblank : ∀ c ∈ token, isBlankChar c = false)
    (hopen : contains blockOpen token = false) :
    LineKind.of .normal (directiveLine token) = .directive (some token) := by
  have hi : isIgnorable (directiveLine token) = false := by
    rw [directiveLine, keyword_eq]
    rfl
  have ho : contains blockOpen (directiveLine token) = false := by
    have hlead : '/' ∉ keyword ++ [' '] := by rw [keyword_eq]; decide
    rw [← hopen, directiveLine, ← List.singleton_append, ← List.append_assoc]
    exact contains_append_of_notMem token hlead
  have hrest := directiveRest?_directiveLine hblank
  have hd : isDirective (directiveLine token) = true := by rw [isDirective, hrest]; rfl
  have htoken : directiveToken? (directiveLine token) = some token := by
    have hnot : isBlank token = false := by
      obtain ⟨c, rest, rfl⟩ := List.exists_cons_of_ne_nil hne
      simp [isBlank, hblank c List.mem_cons_self]
    simp [directiveToken?, hrest, hnot, trim_of_forall_not_blank hblank]
  simp [LineKind.of, stripComments_of_not_contains ho, hi, ho, hd, htoken]

end ScriptRunner.Script
