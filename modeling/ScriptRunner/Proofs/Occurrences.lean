import Mathlib
import ScriptRunner.Text.Search

/-!
# Occurrences of a mark

A text contains a mark exactly when the mark is an infix of it (`contains_eq_true_iff`), and cutting
finds the first occurrence. Removing a mark only takes characters away (`removeAll_sublist`), and
takes nothing away from a text without the mark.
-/

namespace ScriptRunner.Text

variable {mark s a b : Text}

/-! ## Cutting -/

/-- A text can be cut exactly where the mark is an infix. -/
lemma contains_eq_true_iff : contains mark s = true ↔ mark <:+: s := by
  induction s with
  | nil =>
    by_cases hm : mark = []
    · simp [contains, cut, hm]
    · simp [contains, cut, hm]
  | cons c r ih =>
    rw [List.infix_cons_iff]
    by_cases hp : mark.isPrefixOf (c :: r) = true
    · have hpre : mark <+: c :: r := List.isPrefixOf_iff_prefix.mp hp
      simp [contains, cut, hp, hpre]
    · have hpre : ¬ mark <+: c :: r := fun h => hp (List.isPrefixOf_iff_prefix.mpr h)
      have hcut : contains mark (c :: r) = contains mark r := by
        simp [contains, cut, hp]
      rw [hcut, ih]
      exact ⟨Or.inr, fun h => h.resolve_left hpre⟩

/-- A text without the mark cannot be cut. -/
lemma cut_eq_none_iff : cut mark s = none ↔ contains mark s = false := by
  simp [contains]

/-- What is a part of a text without the mark does not have it either. -/
lemma contains_eq_false_of_infix (h : a <:+: s) (hs : contains mark s = false) :
    contains mark a = false := by
  rw [Bool.eq_false_iff] at hs ⊢
  intro ha
  exact hs (contains_eq_true_iff.mpr ((contains_eq_true_iff.mp ha).trans h))

/-- A mark does not begin in a text without its first character. -/
lemma contains_append_of_notMem {c : Char} {mark a : Text} (s : Text) (h : c ∉ a) :
    contains (c :: mark) (a ++ s) = contains (c :: mark) s := by
  induction a with
  | nil => rfl
  | cons d a ih =>
    rw [List.mem_cons, not_or] at h
    rw [← ih h.2, List.cons_append]
    simp [contains, cut, h.1]

/-- A mark is looked for behind a text without its first character. -/
lemma cut_append_of_notMem {c : Char} {mark a : Text} (s : Text) (h : c ∉ a) :
    cut (c :: mark) (a ++ s) = (cut (c :: mark) s).map fun parts => (a ++ parts.1, parts.2) := by
  induction a with
  | nil => simp
  | cons d a ih =>
    rw [List.mem_cons, not_or] at h
    have hnot : ¬ (c :: mark).isPrefixOf (d :: (a ++ s)) = true := by simp [h.1]
    rw [List.cons_append, cut, if_neg hnot, ih h.2, Option.map_map]
    rfl

/-- A mark at the start of a text is the first occurrence. -/
lemma cut_append_self (hm : mark ≠ []) (s : Text) : cut mark (mark ++ s) = some ([], s) := by
  obtain ⟨c, rest, rfl⟩ := List.exists_cons_of_ne_nil hm
  have hpre : (c :: rest).isPrefixOf (c :: (rest ++ s)) = true :=
    List.isPrefixOf_iff_prefix.mpr ⟨s, rfl⟩
  rw [List.cons_append, cut, if_pos hpre]
  simp

/-- What begins in a text and goes on over a character has this character. -/
lemma prefix_of_prefix_append_cons {c : Char} (h : mark <+: a ++ c :: s) (hc : c ∉ mark) :
    mark <+: a := by
  rcases List.prefix_or_prefix_of_prefix h (List.prefix_append a (c :: s)) with hma | ham
  · exact hma
  · obtain ⟨rest, rfl⟩ := ham
    cases rest with
    | nil => simp
    | cons d rest =>
      rw [List.prefix_append_right_inj, List.cons_prefix_cons] at h
      rw [h.1] at hc
      exact absurd (List.mem_append_right a List.mem_cons_self) hc

/-- A mark that does not occur in a text, nor goes on over the next character, is looked for behind
that character. -/
lemma cut_append_cons {c : Char} (s : Text) (hm : mark ≠ []) (hc : c ∉ mark)
    (ha : contains mark a = false) :
    cut mark (a ++ c :: s) = (cut mark s).map fun parts => (a ++ c :: parts.1, parts.2) := by
  induction a with
  | nil =>
    have hnot : ¬ mark.isPrefixOf (c :: s) = true := by
      rw [List.isPrefixOf_iff_prefix]
      intro hp
      obtain ⟨d, rest, rfl⟩ := List.exists_cons_of_ne_nil hm
      rw [(List.cons_prefix_cons.mp hp).1] at hc
      exact hc List.mem_cons_self
    rw [List.nil_append, cut, if_neg hnot]
    rfl
  | cons d a ih =>
    have htail : contains mark a = false :=
      contains_eq_false_of_infix (List.suffix_cons d a).isInfix ha
    have hnot : ¬ mark.isPrefixOf (d :: (a ++ c :: s)) = true := by
      rw [List.isPrefixOf_iff_prefix]
      intro hp
      rw [← List.cons_append] at hp
      have hshort : mark <+: d :: a := prefix_of_prefix_append_cons hp hc
      rw [contains_eq_true_iff.mpr hshort.isInfix] at ha
      cases ha
    rw [List.cons_append, cut, if_neg hnot, ih htail, Option.map_map]
    rfl

/-- A mark that does not go on over a character occurs in front of it or behind it. -/
lemma contains_append_cons {c : Char} (s : Text) (hm : mark ≠ []) (hc : c ∉ mark)
    (ha : contains mark a = false) : contains mark (a ++ c :: s) = contains mark s := by
  rw [contains, contains, cut_append_cons s hm hc ha, Option.isSome_map]

/-- A text ends with a single character exactly when this is its last one. -/
lemma endsWith_singleton_iff {c : Char} : endsWith [c] s = true ↔ s.getLast? = some c := by
  rw [endsWith, List.isSuffixOf_iff_suffix, List.getLast?_eq_some_iff]
  constructor
  · rintro ⟨front, rfl⟩
    exact ⟨front, rfl⟩
  · rintro ⟨front, rfl⟩
    exact ⟨front, rfl⟩

/-! ## Removing -/

/-- Nothing is removed from a text without the mark. -/
lemma removeAll_of_not_contains (h : contains mark s = false) : removeAll mark s = s := by
  have hcut : cut mark s = none := cut_eq_none_iff.mpr h
  rw [removeAll, replaceAll]
  split
  · rfl
  · split
    · rfl
    · next heq => rw [hcut] at heq; cases heq

/-- Removing goes on behind the first occurrence. -/
lemma removeAll_of_cut (hm : mark ≠ []) (h : cut mark s = some (a, b)) :
    removeAll mark s = a ++ removeAll mark b := by
  rw [removeAll, replaceAll, dif_neg hm]
  split
  · next heq => rw [h] at heq; cases heq
  · next heq =>
    rw [h] at heq
    cases heq
    rw [List.append_nil, removeAll]

/-- Removing only takes characters away. -/
lemma removeAll_sublist (mark s : Text) : (removeAll mark s).Sublist s := by
  by_cases hm : mark = []
  · rw [removeAll, replaceAll, dif_pos hm]
  · induction hlen : s.length using Nat.strong_induction_on generalizing s with
    | _ n ih =>
      cases hcut : cut mark s with
      | none => rw [removeAll_of_not_contains (cut_eq_none_iff.mp hcut)]
      | some parts =>
        obtain ⟨before, after⟩ := parts
        have hshort : after.length < n := hlen ▸ length_lt_of_cut hm hcut
        have hafter : (removeAll mark after).Sublist after := ih _ hshort after rfl
        rw [removeAll_of_cut hm hcut, append_of_cut hcut, List.append_assoc]
        exact (List.Sublist.refl before).append (hafter.trans (List.sublist_append_right _ _))

/-- Removing goes on behind a text without the first character of the mark. -/
lemma removeAll_append_of_notMem {c : Char} {mark a : Text} (s : Text) (h : c ∉ a) :
    removeAll (c :: mark) (a ++ s) = a ++ removeAll (c :: mark) s := by
  have hm : c :: mark ≠ [] := List.cons_ne_nil c mark
  cases hcut : cut (c :: mark) s with
  | none =>
    have hs : contains (c :: mark) s = false := cut_eq_none_iff.mp hcut
    have has : contains (c :: mark) (a ++ s) = false := by rw [contains_append_of_notMem s h, hs]
    rw [removeAll_of_not_contains hs, removeAll_of_not_contains has]
  | some parts =>
    have has : cut (c :: mark) (a ++ s) = some (a ++ parts.1, parts.2) := by
      rw [cut_append_of_notMem s h, hcut]
      rfl
    rw [removeAll_of_cut hm has, removeAll_of_cut hm hcut, List.append_assoc]

/-- Removing a mark takes away no character that is not in it. -/
lemma count_removeAll {c : Char} (h : c ∉ mark) (s : Text) :
    (removeAll mark s).count c = s.count c := by
  by_cases hm : mark = []
  · rw [removeAll, replaceAll, dif_pos hm]
  · induction hlen : s.length using Nat.strong_induction_on generalizing s with
    | _ n ih =>
      cases hcut : cut mark s with
      | none => rw [removeAll_of_not_contains (cut_eq_none_iff.mp hcut)]
      | some parts =>
        obtain ⟨before, after⟩ := parts
        have hshort : after.length < n := hlen ▸ length_lt_of_cut hm hcut
        have hafter : (removeAll mark after).count c = after.count c := ih _ hshort after rfl
        have hmark : mark.count c = 0 := List.count_eq_zero.mpr h
        rw [removeAll_of_cut hm hcut, append_of_cut hcut, List.count_append, List.count_append,
          List.count_append, hafter, hmark, Nat.add_zero]

end ScriptRunner.Text
