import Mathlib
import ScriptRunner.Text.Blank

/-!
# Trimming

A text is blank when it holds white space only, and trimming takes away white space at both ends.
Trimming leaves a blank text blank and any other text not blank (`isBlank_trim`), and white space
behind a text makes no difference to what trimming leaves of it (`trim_append_of_isBlank`).
-/

namespace ScriptRunner.Text

variable {a b s t : Text}

/-! ## Blank texts -/

/-- A text is blank exactly when each of its characters is white space. -/
lemma isBlank_iff_forall : isBlank s = true ↔ ∀ c ∈ s, isBlankChar c = true := by
  simp [isBlank, List.all_eq_true]

/-- The empty text is blank. -/
@[simp] lemma isBlank_nil : isBlank [] = true := rfl

/-- Texts one after the other are blank when both are. -/
@[simp] lemma isBlank_append : isBlank (a ++ b) = (isBlank a && isBlank b) := by
  simp [isBlank, List.all_append]

/-- A line feed is white space. -/
@[simp] lemma isBlank_lineFeed : isBlank ['\n'] = true := by decide

/-- Characters taken out of a blank text make a blank text. -/
lemma isBlank_of_sublist (h : s.Sublist t) (ht : isBlank t = true) : isBlank s = true := by
  rw [isBlank_iff_forall] at ht ⊢
  intro c hc
  exact ht c (h.subset hc)

/-! ## The ends of a text -/

/-- Trimming at the end is dropping white space from the right. -/
lemma trimEnd_eq_rdropWhile (s : Text) : trimEnd s = s.rdropWhile isBlankChar := rfl

/-- Trimming at the start does not change whether a text is blank. -/
@[simp] lemma isBlank_trimStart (s : Text) : isBlank (trimStart s) = isBlank s := by
  have hsplit : s.takeWhile isBlankChar ++ trimStart s = s := List.takeWhile_append_dropWhile
  have hfirst : isBlank (s.takeWhile isBlankChar) = true :=
    isBlank_iff_forall.mpr fun _ hc => List.mem_takeWhile_imp hc
  conv_rhs => rw [← hsplit, isBlank_append, hfirst, Bool.true_and]

/-- Trimming at the end does not change whether a text is blank. -/
@[simp] lemma isBlank_trimEnd (s : Text) : isBlank (trimEnd s) = isBlank s := by
  have hsplit : trimEnd s ++ s.rtakeWhile isBlankChar = s := List.rdropWhile_append_rtakeWhile
  have hlast : isBlank (s.rtakeWhile isBlankChar) = true :=
    isBlank_iff_forall.mpr fun _ hc => List.mem_rtakeWhile_imp hc
  conv_rhs => rw [← hsplit, isBlank_append, hlast, Bool.and_true]

/-- Trimming does not change whether a text is blank. -/
@[simp] lemma isBlank_trim (s : Text) : isBlank (trim s) = isBlank s := by
  simp [trim]

/-- Nothing is left of a blank text. -/
lemma trim_eq_nil_iff : trim s = [] ↔ isBlank s = true := by
  rw [trim, trimEnd_eq_nil_iff, isBlank_trimStart]

/-- What trimming leaves of a text is a part of it. -/
lemma infix_of_trim (s : Text) : trim s <:+: s := by
  have hend : trim s <+: trimStart s := List.rdropWhile_prefix isBlankChar _
  have hstart : trimStart s <:+ s := List.dropWhile_suffix isBlankChar
  exact hend.isInfix.trans hstart.isInfix

/-- What trimming leaves of a text does not begin with white space. -/
lemma isBlankChar_eq_false_of_head?_trim {c : Char} (hc : (trim s).head? = some c) :
    isBlankChar c = false := by
  have hend : trim s <+: trimStart s := List.rdropWhile_prefix isBlankChar _
  have hstart : (s.dropWhile isBlankChar).head? = some c := by
    obtain ⟨rest, hrest⟩ := hend
    change (trimStart s).head? = some c
    rw [← hrest, List.head?_append, hc, Option.some_or]
  have hfirst := List.head?_dropWhile_not isBlankChar s
  rw [hstart] at hfirst
  simpa using hfirst

/-- Trimming once is enough. -/
@[simp] lemma trim_trim (s : Text) : trim (trim s) = trim s := by
  have hstart : trimStart (trim s) = trim s := by
    rw [trimStart]
    cases htrim : trim s with
    | nil => rfl
    | cons c rest =>
      have hhead : (trim s).head? = some c := by rw [htrim]; rfl
      have hc : isBlankChar c = false := isBlankChar_eq_false_of_head?_trim hhead
      exact List.dropWhile_cons_of_neg (by rw [hc]; exact Bool.false_ne_true)
  rw [trim, hstart, trim, trimEnd_eq_rdropWhile, trimEnd_eq_rdropWhile]
  exact List.rdropWhile_idempotent isBlankChar _

/-- A text that trimming leaves as it is does not end with white space. -/
lemma isBlankChar_eq_false_of_getLast? {c : Char} (h : trim s = s) (hc : s.getLast? = some c) :
    isBlankChar c = false := by
  have hend : trimEnd s = s := by
    rw [← h, trim, trimEnd_eq_rdropWhile, trimEnd_eq_rdropWhile]
    exact List.rdropWhile_idempotent isBlankChar _
  have hne : s ≠ [] := by
    intro hnil
    rw [hnil] at hc
    cases hc
  rw [List.getLast?_eq_some_getLast hne, Option.some.injEq] at hc
  rw [← hc]
  exact Bool.eq_false_iff.mpr (List.rdropWhile_eq_self_iff.mp hend hne)

/-- Nothing is trimmed at the end of a text that ends with anything but white space. -/
lemma trimEnd_of_getLast? {c : Char} (hc : s.getLast? = some c) (hblank : isBlankChar c = false) :
    trimEnd s = s := by
  rw [trimEnd_eq_rdropWhile, List.rdropWhile_eq_self_iff]
  intro hne
  rw [List.getLast?_eq_some_getLast hne, Option.some.injEq] at hc
  rw [hc, hblank]
  exact Bool.false_ne_true

/-- Nothing is trimmed at the end of a text without white space. -/
lemma trimEnd_of_forall_not_blank (h : ∀ c ∈ s, isBlankChar c = false) : trimEnd s = s := by
  rw [trimEnd_eq_rdropWhile, List.rdropWhile_eq_self_iff]
  intro hne
  rw [h _ (List.getLast_mem hne)]
  exact Bool.false_ne_true

/-- A text without white space is left as it is. -/
lemma trim_of_forall_not_blank (h : ∀ c ∈ s, isBlankChar c = false) : trim s = s := by
  have hstart : trimStart s = s := by
    cases s with
    | nil => rfl
    | cons c r => rw [trimStart, List.dropWhile_cons_of_neg (by simp [h c List.mem_cons_self])]
  rw [trim, hstart, trimEnd_of_forall_not_blank h]

/-- A blank text stays blank when it loses characters at its end. -/
lemma isBlank_dropEnd_of_isBlank (c : Char) (h : isBlank s = true) :
    isBlank (dropEnd c s) = true :=
  isBlank_of_sublist (List.rdropWhile_prefix (· == c) s).sublist h

/-- Trimming takes away no character other than white space. -/
lemma count_trim {c : Char} (hc : isBlankChar c = false) (s : Text) :
    (trim s).count c = s.count c := by
  have hnone : ∀ t : Text, isBlank t = true → t.count c = 0 := by
    intro t ht
    refine List.count_eq_zero.mpr fun hmem => ?_
    rw [isBlank_iff_forall.mp ht c hmem] at hc
    cases hc
  have hstart : s.takeWhile isBlankChar ++ trimStart s = s := List.takeWhile_append_dropWhile
  have hend : trim s ++ (trimStart s).rtakeWhile isBlankChar = trimStart s :=
    List.rdropWhile_append_rtakeWhile
  have hfirst : isBlank (s.takeWhile isBlankChar) = true :=
    isBlank_iff_forall.mpr fun _ hmem => List.mem_takeWhile_imp hmem
  have hlast : isBlank ((trimStart s).rtakeWhile isBlankChar) = true :=
    isBlank_iff_forall.mpr fun _ hmem => List.mem_rtakeWhile_imp hmem
  calc (trim s).count c
      = (trim s ++ (trimStart s).rtakeWhile isBlankChar).count c := by
        rw [List.count_append, hnone _ hlast, Nat.add_zero]
    _ = (s.takeWhile isBlankChar ++ trimStart s).count c := by
        rw [hend, List.count_append, hnone _ hfirst, Nat.zero_add]
    _ = s.count c := by rw [hstart]

/-! ## White space around a text -/

/-- White space in front of a text is trimmed without a trace. -/
lemma trim_append_of_isBlank_left (b : Text) (ha : isBlank a = true) : trim (a ++ b) = trim b := by
  rw [trim, trim, trimStart, trimStart, List.dropWhile_append_of_pos (isBlank_iff_forall.mp ha)]

/-- White space behind a text is trimmed with the rest of its end. -/
lemma trimEnd_append_of_isBlank (a : Text) (hb : isBlank b = true) :
    trimEnd (a ++ b) = trimEnd a := by
  have hall : ∀ c ∈ b.reverse, isBlankChar c = true := by
    intro c hc
    exact isBlank_iff_forall.mp hb c (List.mem_reverse.mp hc)
  rw [trimEnd, trimEnd, List.reverse_append, List.dropWhile_append_of_pos hall]

/-- The start of a text that is not blank does not depend on what stands behind it. -/
lemma trimStart_append_of_not_isBlank (b : Text) (ha : isBlank a = false) :
    trimStart (a ++ b) = trimStart a ++ b := by
  have hne : trimStart a ≠ [] := by
    intro hnil
    rw [trimStart_eq_nil_iff, ha] at hnil
    exact Bool.false_ne_true hnil
  have hne' : ¬ (a.dropWhile isBlankChar).isEmpty = true := by
    rw [List.isEmpty_iff]
    exact hne
  rw [trimStart, trimStart, List.dropWhile_append, if_neg hne']

/-- White space behind a text is trimmed without a trace. -/
lemma trim_append_of_isBlank (a : Text) (hb : isBlank b = true) : trim (a ++ b) = trim a := by
  cases ha : isBlank a with
  | true =>
    have hab : isBlank (a ++ b) = true := by simp [ha, hb]
    rw [trim_eq_nil_iff.mpr hab, trim_eq_nil_iff.mpr ha]
  | false =>
    rw [trim, trim, trimStart_append_of_not_isBlank b ha, trimEnd_append_of_isBlank _ hb]

/-- The end of a text that is not blank does not depend on what stands in front of it. -/
lemma trimEnd_append_of_not_isBlank (a : Text) (hb : isBlank b = false) :
    trimEnd (a ++ b) = a ++ trimEnd b := by
  have hne : ¬ (b.reverse.dropWhile isBlankChar).isEmpty = true := by
    rw [List.isEmpty_iff, dropWhile_eq_nil_iff_all, List.all_reverse]
    change ¬ isBlank b = true
    rw [hb]
    exact Bool.false_ne_true
  rw [trimEnd, trimEnd, List.reverse_append, List.dropWhile_append, if_neg hne,
    List.reverse_append, List.reverse_reverse]

/-- A text that is not blank ends in the same way when it is trimmed at the end and when it is
trimmed at both. -/
lemma getLast?_trim (s : Text) : (trim s).getLast? = (trimEnd s).getLast? := by
  have hsplit : s.takeWhile isBlankChar ++ trimStart s = s := List.takeWhile_append_dropWhile
  cases hblank : isBlank s with
  | true => rw [trim_eq_nil_iff.mpr hblank, (trimEnd_eq_nil_iff s).mpr hblank]
  | false =>
    have hstart : isBlank (trimStart s) = false := by rw [isBlank_trimStart, hblank]
    have hne : trim s ≠ [] := by
      rw [ne_eq, trim_eq_nil_iff, hblank]
      exact Bool.false_ne_true
    conv_rhs => rw [← hsplit, trimEnd_append_of_not_isBlank _ hstart]
    exact (List.getLast?_append_of_ne_nil _ hne).symm

end ScriptRunner.Text
