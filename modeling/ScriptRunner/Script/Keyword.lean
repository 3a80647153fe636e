import ScriptRunner.Script.Directive
import ScriptRunner.Text.Lowercase
import ScriptRunner.Text.Utf8

/-!
# Looking for a keyword

A keyword at the beginning of a text can be looked for without knowing its letters: the characters
of both are compared in pairs by their lower case forms, as far as both go, and if these agree and
the text has enough bytes, it is cut behind as many of them as the keyword has.

This is not safe for every keyword. A character may have the lower case form of another one and yet
more bytes, and the cut can then fall inside of it.
-/

namespace ScriptRunner.Script

open Text

/-- What comes of looking for a keyword. -/
inductive KeywordSearch where
  | absent
  /-- The text behind the keyword. -/
  | found (behind : Text)
  /-- The cut falls inside of a character. -/
  | torn
  deriving DecidableEq, Repr

/-- The text behind so many bytes, unless they end inside of a character or go on behind the
text. -/
def behindBytes? : Nat → Text → Option Text
  | 0, s => some s
  | _ + 1, [] => none
  | n + 1, c :: s => if c.utf8Size ≤ n + 1 then behindBytes? (n + 1 - c.utf8Size) s else none

/-- Whether the characters of two texts have the same lower case forms, as far as both texts go. -/
def agreesInLowercase (s t : Text) : Bool :=
  (s.zip t).all fun pair => lowercase pair.1 == lowercase pair.2

/-- Look for a keyword at the beginning of a text. -/
def searchKeyword (word s : Text) : KeywordSearch :=
  if agreesInLowercase s word && (encode word).length ≤ (encode s).length then
    match behindBytes? (encode word).length s with
    | some behind => .found behind
    | none => .torn
  else .absent

/-- Look for a directive: white space, the keyword, and a gap. What is found is the text behind the
gap. -/
def searchDirective (line : Text) : KeywordSearch :=
  match searchKeyword keyword (line.dropWhile isLeadingBlank) with
  | .found (c :: rest) => if isGap c then .found (rest.dropWhile isGap) else .absent
  | .found [] => .absent
  | outcome => outcome

/-- The Kelvin sign is taken for a k, which has two bytes less. -/
example : searchKeyword ['k'] [kelvinSign] = .torn := by decide +kernel

end ScriptRunner.Script
