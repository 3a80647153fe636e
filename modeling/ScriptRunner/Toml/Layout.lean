import ScriptRunner.Text.Basic

/-!
# Between the parts of a TOML document

Blanks, line ends and comments, and the type in which every reader of this folder answers: what was
read, what is left of the text, and the fact that less is left than there was.
-/

namespace ScriptRunner.Toml

/-- Something read off the front of the text `s`. -/
structure Read (α : Type) (s : Text) where
  value : α
  rest : Text
  shorter : rest.length < s.length

/-- What was read, with `f` applied to it. -/
def Read.map {α β : Type} {s : Text} (f : α → β) (r : Read α s) : Read β s :=
  ⟨f r.value, r.rest, r.shorter⟩

/-- What was read off a text is also read off one that is at least as long. -/
def Read.widen {α : Type} {s t : Text} (r : Read α s) (h : s.length ≤ t.length) : Read α t :=
  ⟨r.value, r.rest, Nat.lt_of_lt_of_le r.shorter h⟩

/-- What stands behind the first character that is left is shorter as well. -/
theorem Read.length_lt_of_rest_eq_cons {α : Type} {s : Text} {r : Read α s} {c : Char}
    {rest : Text} (h : r.rest = c :: rest) : rest.length < s.length := by
  have := r.shorter
  rw [h, List.length_cons] at this
  omega

/-- A way to read off the front of any text. -/
abbrev Reader (α : Type) := (s : Text) → Option (Read α s)

/-- A character that stands between the parts of a line. -/
def isBlank (c : Char) : Bool := c == ' ' || c == '\t'

/-- A character that a comment or a string may show as it is. -/
def isShown (c : Char) : Bool := c == '\t' || (' ' ≤ c && c != '\x7f')

/-- The text without the blanks at its front. -/
def skipBlanks (s : Text) : Text := s.dropWhile isBlank

/-- The text behind a line end. -/
def lineEnd? : Text → Option Text
  | '\n' :: rest => some rest
  | '\r' :: '\n' :: rest => some rest
  | _ => none

/-- The text behind a comment that may stand at its front. -/
def skipComment : Text → Text
  | '#' :: rest => rest.dropWhile isShown
  | s => s

/-- The text behind the end of a line, which may have blanks and a comment in front. The end of the
text ends a line too. -/
def endLine? (s : Text) : Option Text :=
  match skipComment (skipBlanks s) with
  | [] => some []
  | rest => lineEnd? rest

theorem length_dropWhile_le (p : Char → Bool) (s : Text) : (s.dropWhile p).length ≤ s.length :=
  (List.dropWhile_suffix p).length_le

theorem length_skipBlanks_le (s : Text) : (skipBlanks s).length ≤ s.length :=
  length_dropWhile_le isBlank s

theorem length_skipComment_le (s : Text) : (skipComment s).length ≤ s.length := by
  unfold skipComment
  split
  · rename_i rest
    have := length_dropWhile_le isShown rest
    simp only [List.length_cons]
    omega
  · exact Nat.le_refl _

theorem length_lt_of_lineEnd? {s rest : Text} (h : lineEnd? s = some rest) :
    rest.length < s.length := by
  unfold lineEnd? at h
  split at h
  · simp only [Option.some.injEq] at h
    simp [← h]
  · simp only [Option.some.injEq] at h
    simp only [← h, List.length_cons]
    omega
  · simp at h

theorem length_lt_of_endLine? {s rest : Text} (hs : s ≠ []) (h : endLine? s = some rest) :
    rest.length < s.length := by
  have hle := Nat.le_trans (length_skipComment_le (skipBlanks s)) (length_skipBlanks_le s)
  unfold endLine? at h
  split at h
  · simp only [Option.some.injEq] at h
    simpa [← h, List.length_pos_iff] using hs
  · exact Nat.lt_of_lt_of_le (length_lt_of_lineEnd? h) hle

/-- The text without the blanks, line ends and comments at its front. -/
def skipLines (s : Text) : Text :=
  match h : lineEnd? (skipComment (skipBlanks s)) with
  | some rest =>
    have := length_lt_of_lineEnd? h
    have := length_skipComment_le (skipBlanks s)
    have := length_skipBlanks_le s
    skipLines rest
  | none => skipComment (skipBlanks s)
termination_by s.length
decreasing_by omega

theorem length_skipLines_le (s : Text) : (skipLines s).length ≤ s.length := by
  fun_induction skipLines s with
  | case1 s rest _ _ _ _ ih => omega
  | case2 s _ => exact Nat.le_trans (length_skipComment_le _) (length_skipBlanks_le s)

end ScriptRunner.Toml
