import ScriptRunner.Text.Basic

/-!
# Finding a mark in a text

`cut mark s` splits `s` at the first occurrence of `mark`. The other searches are stated through
it: a text contains a mark when it can be cut there, and `removeAll` cuts again and again, so that
the occurrences it removes are the leftmost ones that do not overlap.
-/

namespace ScriptRunner.Text

/-- The parts of `s` before and after the first occurrence of `mark`. -/
def cut (mark : Text) : Text → Option (Text × Text)
  | [] => if mark = [] then some ([], []) else none
  | c :: r =>
    if mark.isPrefixOf (c :: r) then some ([], (c :: r).drop mark.length)
    else (cut mark r).map fun parts => (c :: parts.1, parts.2)

/-- Whether `mark` occurs in the text. -/
def contains (mark s : Text) : Bool := (cut mark s).isSome

/-- Cutting loses nothing but the mark. -/
theorem append_of_cut {mark s a b : Text} (h : cut mark s = some (a, b)) : s = a ++ mark ++ b := by
  induction s generalizing a b with
  | nil =>
    by_cases hm : mark = [] <;> simp [cut, hm] at h
    simp [h, hm]
  | cons c r ih =>
    by_cases hp : mark.isPrefixOf (c :: r) = true
    · simp only [cut, hp, if_true, Option.some.injEq, Prod.mk.injEq] at h
      obtain ⟨t, ht⟩ := List.isPrefixOf_iff_prefix.1 hp
      rw [← h.1, ← h.2, ← ht]
      simp
    · simp only [cut, hp] at h
      obtain ⟨⟨a', b'⟩, hr, he⟩ := Option.map_eq_some_iff.1 h
      simp only [Prod.mk.injEq] at he
      rw [← he.1, ← he.2, ih hr]
      simp

/-- What stands behind a mark that is not empty is shorter than the whole text. -/
theorem length_lt_of_cut {mark s a b : Text} (hm : mark ≠ []) (h : cut mark s = some (a, b)) :
    b.length < s.length := by
  have hpos : 0 < mark.length := List.length_pos_iff.2 hm
  rw [append_of_cut h]
  simp only [List.length_append]
  omega

/-- The text with every occurrence of `mark`, found from left to right, replaced. -/
def replaceAll (mark replacement s : Text) : Text :=
  if hm : mark = [] then s
  else
    match h : cut mark s with
    | none => s
    | some (before, after) =>
      have := length_lt_of_cut hm h
      before ++ replacement ++ replaceAll mark replacement after
termination_by s.length

/-- The text without the occurrences of `mark`. -/
def removeAll (mark s : Text) : Text := replaceAll mark [] s

/-- The pieces of a text between the occurrences of the character `c`. -/
def splitOnChar (c : Char) : Text → List Text
  | [] => [[]]
  | d :: r =>
    if d = c then [] :: splitOnChar c r
    else
      match splitOnChar c r with
      | [] => [[d]]
      | piece :: pieces => (d :: piece) :: pieces

/-- Whether the text begins with `start`. -/
def startsWith (start s : Text) : Bool := start.isPrefixOf s

/-- Whether the text ends with `ending`. -/
def endsWith (ending s : Text) : Bool := ending.isSuffixOf s

end ScriptRunner.Text
