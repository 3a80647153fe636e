import ScriptRunner.Text.Direction
import ScriptRunner.Text.Joining
import ScriptRunner.Url.DomainName.Mapping
import ScriptRunner.Url.Punycode

/-!
# Domain names

A domain name is written in ASCII. Its characters are taken for what they mean, and labels that are
not in ASCII then are written in Punycode. A label that is in Punycode already must be the written
form of a label outside ASCII that is written as it is meant. Labels outside ASCII do not begin with
a mark, and have the two signs that join or separate letters only where they make a difference. In a
name with characters that are written from right to left all labels must keep to one direction.
-/

namespace ScriptRunner.Url

open Text

/-- Whether all characters are in ASCII. -/
def isAscii (s : Text) : Bool := s.all fun c => c.toNat < 0x80

/-! ## Signs between letters -/

/-- The sign that separates letters. -/
def separator : Char := '\u200c'

/-- The sign that joins letters. -/
def joiner : Char := '\u200d'

/-- Whether the first letter that is not passed over has a property. -/
def nextLetter (p : Char → Bool) (s : Text) : Bool :=
  ((s.dropWhile isTransparent).head?.map p).getD false

/-- Whether a sign is in its place between what is before it, last character first, and what is
behind it. Both signs may follow a sign that takes the vowel from a letter, and the one that
separates may stand between letters that would be joined otherwise. -/
def signFits (before : Text) (c : Char) (behind : Text) : Bool :=
  before.head?.any (combiningClass · == vowelKiller)
    || (c == separator && nextLetter joinsForward before && nextLetter joinsBackward behind)

/-- Whether all signs are in their places, behind characters that are given last one first. -/
def signsFit (before : Text) : Text → Bool
  | [] => true
  | c :: rest =>
    ((c != separator && c != joiner) || signFits before c rest) && signsFit (c :: before) rest

/-! ## Direction -/

/-- Whether a character asks for the rule of direction. -/
def isRightToLeft (c : Char) : Bool :=
  decide (0x590 ≤ c.toNat) && [.rightToLeft, .arabicDigit].contains (direction c)

/-- Whether a label keeps to one direction. It begins with a letter, and its last character that is
no mark is a letter of the same direction or a digit. -/
def keepsDirection (label : Text) : Bool :=
  match label.map direction with
  | [] => true
  | first :: others =>
    let others := (others.reverse.dropWhile (· == .mark)).reverse
    let last := others.getLast?.getD first
    let both := others.contains .europeanDigit && others.contains .arabicDigit
    match first with
    | .leftToRight =>
      [.leftToRight, .europeanDigit].contains last
        && others.all [.leftToRight, .europeanDigit, .neutral, .mark].contains
    | .rightToLeft =>
      [.rightToLeft, .europeanDigit, .arabicDigit].contains last && !both
        && others.all [.rightToLeft, .europeanDigit, .arabicDigit, .neutral, .mark].contains
    | _ => false

/-! ## Labels -/

/-- The most characters of a label outside ASCII. -/
def maxLabel : Nat := 1000

/-- The most characters that are read as Punycode. -/
def maxEncoded : Nat := 2000

/-- What a label in Punycode begins with. -/
def punycodeMark : Text := "xn--"

/-- A label as it is meant, and as it is written in ASCII. -/
structure Label where
  plain : Text
  written : Text
  deriving DecidableEq, Repr

/-- Whether a label outside ASCII is one, apart from the rule of direction. -/
def isLabel (label : Text) : Bool :=
  !label.head?.any isMark && signsFit [] label && label.length ≤ maxLabel

/-- The label that a text without characters to be replaced stands for. -/
def Label.ofText? (s : Text) : Option Label :=
  if punycodeMark.isPrefixOf s then
    let encoded := s.drop punycodeMark.length
    if !isAscii encoded ∨ maxEncoded < encoded.length then none
    else
      match Punycode.decode? encoded with
      | none => none
      | some plain =>
        if !isAscii plain ∧ domainChars? plain = some plain ∧ isLabel plain then some ⟨plain, s⟩
        else none
  else if isAscii s then some ⟨s, s⟩
  else if isLabel s then some ⟨s, punycodeMark ++ Punycode.encode s⟩
  else none

/-- The domain name that a decoded host stands for. -/
def domainName? (s : Text) : Option Text :=
  match (domainChars? s).bind fun name => (splitOnChar '.' name).mapM Label.ofText? with
  | none => none
  | some labels =>
    if (labels.any fun label => label.plain.any isRightToLeft)
        && !labels.all fun label => keepsDirection label.plain then
      none
    else some (join ['.'] (labels.map Label.written))

end ScriptRunner.Url
