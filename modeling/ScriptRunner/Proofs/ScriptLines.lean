import Mathlib
import ScriptRunner.Script.Source

/-!
# The lines of a text

Cutting a text into lines can be undone: the lines of a text that does not end with a line feed and
has no carriage return, each with a line feed, are the text with one more line feed at its end
(`flatMap_lines`). A text that is followed by a line feed and something else has its lines in front
of those of the rest (`lines_append_lineFeed`). The lines of a script are those behind its byte order
mark, which only its first character can be (`dropByteOrderMark_append`).
-/

namespace ScriptRunner.Script

open Text

/-- A text whose lines can be told from the text: there is one at least, and none is cut short. -/
structure IsLined (text : Text) : Prop where
  ne_nil : text ≠ []
  return_notMem : '\r' ∉ text
  last : text.getLast? ≠ some '\n'

namespace IsLined

/-- What stands behind the first character of a text can be told by its lines as well. -/
lemma of_cons {c : Char} {text : Text} (h : IsLined (c :: text)) (hne : text ≠ []) :
    IsLined text where
  ne_nil := hne
  return_notMem := fun hr => h.return_notMem (List.mem_cons_of_mem c hr)
  last := by
    have hlast := h.last
    rwa [List.getLast?_cons_of_ne_nil hne] at hlast

end IsLined

/-! ## One character after another -/

/-- A line feed ends a line. -/
lemma lines_lineFeed (rest : Text) : lines ('\n' :: rest) = [] :: lines rest := by
  simp [lines]

/-- A carriage return in front of a line feed belongs to the end of the line. -/
lemma lines_return_lineFeed (rest : Text) : lines ('\r' :: '\n' :: rest) = [] :: lines rest := by
  simp [lines]

/-- A character that neither ends a line nor belongs to its end is in front of the first line of the
rest. -/
lemma lines_cons_of_head? {c : Char} (rest : Text) (hn : c ≠ '\n')
    (hr : c = '\r' → rest.head? ≠ some '\n') :
    lines (c :: rest) = (c :: (lines rest).headD []) :: (lines rest).tail := by
  rw [lines]
  · rw [if_neg hn]
    cases lines rest with
    | nil => rfl
    | cons line more => rfl
  · rintro behind hc rfl
    exact hr hc rfl

/-- A character that ends no line is in front of the first line of the rest. -/
lemma lines_cons {c : Char} (rest : Text) (hr : c ≠ '\r') (hn : c ≠ '\n') :
    lines (c :: rest) = (c :: (lines rest).headD []) :: (lines rest).tail :=
  lines_cons_of_head? rest hn fun hc => absurd hc hr

/-- A text without line ends is its only line. -/
lemma lines_append_of_notMem {line : Text} (rest : Text) (hr : '\r' ∉ line) (hn : '\n' ∉ line) :
    lines (line ++ '\n' :: rest) = line :: lines rest := by
  induction line with
  | nil => exact lines_lineFeed rest
  | cons c line ih =>
    rw [List.mem_cons, not_or] at hr hn
    rw [List.cons_append, lines_cons _ (Ne.symm hr.1) (Ne.symm hn.1), ih hr.2 hn.2]
    rfl

/-- A text has a line unless it is empty. -/
lemma lines_ne_nil {text : Text} (h : text ≠ []) : lines text ≠ [] := by
  fun_cases lines text with
  | case1 => exact absurd rfl h
  | case2 => exact List.cons_ne_nil _ _
  | case3 => exact List.cons_ne_nil _ _
  | case4 => exact List.cons_ne_nil _ _
  | case5 => exact List.cons_ne_nil _ _

/-! ## Texts with something behind them -/

/-- The lines of a text come before those of what is written behind it on a new line. -/
lemma lines_append_lineFeed {text : Text} (rest : Text) (h : IsLined text) :
    lines (text ++ '\n' :: rest) = lines text ++ lines rest := by
  induction text with
  | nil => exact absurd rfl h.ne_nil
  | cons c text ih =>
    have hr : c ≠ '\r' := fun hc => h.return_notMem (by rw [hc]; exact List.mem_cons_self)
    by_cases hnil : text = []
    · subst hnil
      have hn : c ≠ '\n' := fun hc => h.last (by rw [hc]; rfl)
      rw [List.singleton_append, lines_cons _ hr hn, lines_cons _ hr hn, lines_lineFeed]
      rfl
    · have hrest := ih (h.of_cons hnil)
      by_cases hn : c = '\n'
      · rw [hn, List.cons_append, lines_lineFeed, lines_lineFeed, hrest, List.cons_append]
      · have hlines : lines text ≠ [] := lines_ne_nil hnil
        rw [List.cons_append, lines_cons _ hr hn, lines_cons _ hr hn, hrest]
        obtain ⟨line, more, hcons⟩ := List.exists_cons_of_ne_nil hlines
        rw [hcons]
        rfl

/-- The lines of a text that ends with a line feed come before those of what follows it. Unlike in
`lines_append_lineFeed`, the last line may be cut short by a carriage return. -/
lemma lines_append_of_lineFeed (text rest : Text) :
    lines (text ++ '\n' :: rest) = lines (text ++ ['\n']) ++ lines rest := by
  fun_induction lines text with
  | case1 => rw [List.nil_append, List.nil_append, lines_lineFeed, lines_lineFeed]; rfl
  | case2 behind ih =>
    simp only [List.cons_append] at ih ⊢
    rw [lines_return_lineFeed, lines_return_lineFeed, ih, List.cons_append]
  | case3 behind _ ih =>
    rw [List.cons_append, List.cons_append, lines_lineFeed, lines_lineFeed, ih, List.cons_append]
  | case4 c behind hreturn hn hlines ih =>
    obtain rfl : behind = [] := by
      by_contra hne
      exact lines_ne_nil hne hlines
    by_cases hr : c = '\r'
    · subst hr
      rw [List.singleton_append, List.singleton_append, lines_return_lineFeed,
        lines_return_lineFeed]
      rfl
    · rw [List.singleton_append, List.singleton_append, lines_cons _ hr hn, lines_cons _ hr hn,
        lines_lineFeed, lines_lineFeed]
      rfl
  | case5 c behind hreturn hn line more hlines ih =>
    obtain ⟨d, tail, rfl⟩ : ∃ d tail, behind = d :: tail :=
      List.exists_cons_of_ne_nil fun hnil => by rw [hnil] at hlines; cases hlines
    have hstep : ∀ back : Text, lines (c :: d :: tail ++ back) =
        (c :: (lines (d :: tail ++ back)).headD []) :: (lines (d :: tail ++ back)).tail := by
      intro back
      refine lines_cons_of_head? _ hn fun hc hd => ?_
      exact hreturn tail hc (congrArg (· :: tail) (Option.some.inj hd))
    have hne : lines (d :: tail ++ ['\n']) ≠ [] := lines_ne_nil (List.cons_ne_nil _ _)
    obtain ⟨first, others, hcons⟩ := List.exists_cons_of_ne_nil hne
    rw [hstep, hstep, ih, hcons]
    rfl

/-- The lines of a text, each with a line feed, are the text with a line feed. -/
lemma flatMap_lines {text : Text} (h : IsLined text) :
    (lines text).flatMap (· ++ ['\n']) = text ++ ['\n'] := by
  induction text with
  | nil => exact absurd rfl h.ne_nil
  | cons c text ih =>
    have hr : c ≠ '\r' := fun hc => h.return_notMem (by rw [hc]; exact List.mem_cons_self)
    by_cases hnil : text = []
    · subst hnil
      have hn : c ≠ '\n' := fun hc => h.last (by rw [hc]; rfl)
      rw [lines_cons _ hr hn]
      rfl
    · have hrest := ih (h.of_cons hnil)
      by_cases hn : c = '\n'
      · rw [hn, lines_lineFeed, List.flatMap_cons, hrest]
        rfl
      · obtain ⟨line, more, hcons⟩ := List.exists_cons_of_ne_nil (lines_ne_nil hnil)
        rw [lines_cons _ hr hn, hcons]
        rw [hcons, List.flatMap_cons] at hrest
        rw [List.cons_append, ← hrest]
        rfl

/-- A text has one line more than line feeds. -/
lemma length_lines {text : Text} (h : IsLined text) :
    (lines text).length = text.count '\n' + 1 := by
  induction text with
  | nil => exact absurd rfl h.ne_nil
  | cons c text ih =>
    have hr : c ≠ '\r' := fun hc => h.return_notMem (by rw [hc]; exact List.mem_cons_self)
    by_cases hnil : text = []
    · subst hnil
      have hn : c ≠ '\n' := fun hc => h.last (by rw [hc]; rfl)
      rw [lines_cons _ hr hn, List.count_cons_of_ne hn]
      rfl
    · have hrest := ih (h.of_cons hnil)
      by_cases hn : c = '\n'
      · rw [hn, lines_lineFeed, List.length_cons, hrest, List.count_cons_self]
      · have hpos : 0 < (lines text).length := List.length_pos_iff.mpr (lines_ne_nil hnil)
        rw [lines_cons _ hr hn, List.length_cons, List.length_tail, List.count_cons_of_ne hn,
          ← hrest]
        omega

/-! ## Single lines -/

variable {text line : Text} {front back : List Text}

/-- The last line is at the end of the text, behind the other lines. -/
lemma eq_append_of_lines_eq_concat (h : IsLined text) (hlines : lines text = front ++ [line]) :
    text = front.flatMap (· ++ ['\n']) ++ line := by
  have htext := flatMap_lines h
  rw [hlines, List.flatMap_append, List.flatMap_singleton, ← List.append_assoc] at htext
  exact (List.append_cancel_right htext).symm

/-- Each line is a part of the text. -/
lemma infix_of_mem_lines (h : IsLined text) (hline : line ∈ lines text) : line <:+: text := by
  obtain ⟨front, back, hlines⟩ := List.append_of_mem hline
  have htext := flatMap_lines h
  rw [hlines, List.flatMap_append, List.flatMap_cons] at htext
  rcases List.eq_nil_or_concat (back.flatMap (· ++ ['\n'])) with hback | ⟨more, c, hback⟩
  · rw [hback, List.append_nil, ← List.append_assoc] at htext
    refine ⟨front.flatMap (· ++ ['\n']), [], ?_⟩
    rw [List.append_nil]
    exact List.append_cancel_right htext
  · simp only [hback, List.concat_eq_append, ← List.append_assoc] at htext
    refine ⟨front.flatMap (· ++ ['\n']), ['\n'] ++ more, ?_⟩
    rw [← List.append_assoc]
    exact List.append_inj_left' htext rfl

/-- Line feeds behind lines do not count among their other characters. -/
lemma count_flatMap_lineFeed {c : Char} (hc : c ≠ '\n') (ls : List Text) :
    (ls.flatMap (· ++ ['\n'])).count c = ls.flatten.count c := by
  induction ls with
  | nil => rfl
  | cons l ls ih =>
    rw [List.flatMap_cons, List.flatten_cons, List.count_append, List.count_append, ih,
      List.count_append, List.count_singleton]
    simp [Ne.symm hc]

/-- The lines hold the characters of the text other than line feeds. -/
lemma count_flatten_lines (h : IsLined text) {c : Char} (hc : c ≠ '\n') :
    (lines text).flatten.count c = text.count c := by
  have htext := congrArg (List.count c) (flatMap_lines h)
  rw [count_flatMap_lineFeed hc, List.count_append, List.count_singleton] at htext
  simpa [Ne.symm hc] using htext

/-! ## Byte order marks -/

/-- Only the first character of a text can be its byte order mark. -/
lemma dropByteOrderMark_append {front : Text} (behind : Text) (h : front ≠ []) :
    dropByteOrderMark (front ++ behind) = dropByteOrderMark front ++ behind := by
  obtain ⟨c, rest, rfl⟩ := List.exists_cons_of_ne_nil h
  rw [List.cons_append, dropByteOrderMark, dropByteOrderMark]
  split <;> rfl

/-- A text without a byte order mark is left as it is. -/
lemma dropByteOrderMark_of_head? {text : Text} (h : text.head? ≠ some '\uFEFF') :
    dropByteOrderMark text = text := by
  cases text with
  | nil => rfl
  | cons c rest => exact if_neg fun hc => h (congrArg some hc)

end ScriptRunner.Script
