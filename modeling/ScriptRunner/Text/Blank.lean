import ScriptRunner.Text.Basic

/-!
# White space

The characters of the Unicode property `White_Space`, and the removal of white space from the ends
of a text. A text is blank when nothing is left of it.
-/

namespace ScriptRunner.Text

/-- A character of the Unicode property `White_Space`. -/
def isBlankChar (c : Char) : Bool :=
  let n := c.toNat
  (0x09 ≤ n && n ≤ 0x0D) || n == 0x20 || n == 0x85 || n == 0xA0 || n == 0x1680
    || (0x2000 ≤ n && n ≤ 0x200A) || n == 0x2028 || n == 0x2029 || n == 0x202F || n == 0x205F
    || n == 0x3000

/-- The text without the white space it begins with. -/
def trimStart (s : Text) : Text := s.dropWhile isBlankChar

/-- The text without the white space it ends with. -/
def trimEnd (s : Text) : Text := (s.reverse.dropWhile isBlankChar).reverse

/-- The text without white space at either end. -/
def trim (s : Text) : Text := trimEnd (trimStart s)

/-- A blank text holds white space only. -/
def isBlank (s : Text) : Bool := s.all isBlankChar

/-- The text without the occurrences of `c` that it ends with. -/
def dropEnd (c : Char) (s : Text) : Text := (s.reverse.dropWhile (· == c)).reverse

theorem dropWhile_eq_nil_iff_all (p : Char → Bool) (s : Text) :
    s.dropWhile p = [] ↔ s.all p = true := by
  induction s with
  | nil => simp
  | cons c r ih => cases h : p c <;> simp [List.dropWhile, h, ih]

theorem trimStart_eq_nil_iff (s : Text) : trimStart s = [] ↔ isBlank s = true :=
  dropWhile_eq_nil_iff_all isBlankChar s

theorem trimEnd_eq_nil_iff (s : Text) : trimEnd s = [] ↔ isBlank s = true := by
  simp only [trimEnd, List.reverse_eq_nil_iff, dropWhile_eq_nil_iff_all, List.all_reverse, isBlank]

end ScriptRunner.Text
