import ScriptRunner.Text.Basic

/-!
# UTF-8

A character is encoded by a lead byte and up to three continuation bytes, each from a range that
the lead byte and the position fix. `decodeUnits` reads a byte string from left to right. Where no
character can be read, the longest beginning of one that stands there (at least one byte) is one
invalid unit; reading goes on behind it.
-/

namespace ScriptRunner.Text

/-- A range of bytes, with both ends. -/
structure ByteRange where
  low : UInt8
  high : UInt8

/-- Whether a byte lies in a range. -/
def ByteRange.holds (r : ByteRange) (b : UInt8) : Bool := r.low ≤ b && b ≤ r.high

/-- The continuation bytes that may stand in most places. -/
def anyTail : ByteRange := ⟨0x80, 0xBF⟩

/-- The value bits of a lead byte, and the ranges of the continuation bytes that must follow. -/
def lead? (b : UInt8) : Option (Nat × List ByteRange) :=
  let n := b.toNat
  if n < 0x80 then some (n, [])
  else if n < 0xC2 then none
  else if n < 0xE0 then some (n - 0xC0, [anyTail])
  else if n = 0xE0 then some (0, [⟨0xA0, 0xBF⟩, anyTail])
  else if n = 0xED then some (0xD, [⟨0x80, 0x9F⟩, anyTail])
  else if n < 0xF0 then some (n - 0xE0, [anyTail, anyTail])
  else if n = 0xF0 then some (0, [⟨0x90, 0xBF⟩, anyTail, anyTail])
  else if n < 0xF4 then some (n - 0xF0, [anyTail, anyTail, anyTail])
  else if n = 0xF4 then some (4, [⟨0x80, 0x8F⟩, anyTail, anyTail])
  else none

/-- Read continuation bytes from the given ranges, and return the value and the unread bytes. There
is no value when a byte does not fit; that byte is then unread. -/
def readTails (value : Nat) : List ByteRange → Bytes → Option Nat × Bytes
  | [], bs => (some value, bs)
  | _ :: _, [] => (none, [])
  | r :: rs, b :: bs =>
    if r.holds b then readTails (value * 64 + (b.toNat - 0x80)) rs bs else (none, b :: bs)

theorem length_readTails_le (value : Nat) (rs : List ByteRange) (bs : Bytes) :
    (readTails value rs bs).2.length ≤ bs.length := by
  induction rs generalizing value bs with
  | nil => simp [readTails]
  | cons r rs ih =>
    cases bs with
    | nil => simp [readTails]
    | cons b bs =>
      by_cases h : r.holds b = true
      · simp only [readTails, h, if_true, List.length_cons]
        exact Nat.le_succ_of_le (ih _ bs)
      · simp [readTails, h]

/-- Read one unit that begins with byte `b`. -/
def readUnit (b : UInt8) (bs : Bytes) : Option Nat × Bytes :=
  match lead? b with
  | none => (none, bs)
  | some (value, ranges) => readTails value ranges bs

theorem length_readUnit_le (b : UInt8) (bs : Bytes) :
    (readUnit b bs).2.length ≤ bs.length := by
  unfold readUnit
  split
  · exact Nat.le_refl _
  · exact length_readTails_le _ _ _

/-- The characters of a byte string, with `none` for each invalid unit. -/
def decodeUnits : Bytes → List (Option Char)
  | [] => []
  | b :: bs =>
    have := length_readUnit_le b bs
    (readUnit b bs).1.map Char.ofNat :: decodeUnits (readUnit b bs).2
termination_by bs => bs.length
decreasing_by simp only [List.length_cons]; omega

/-- The text that a byte string encodes, if it is valid. -/
def decode? (bs : Bytes) : Option Text := (decodeUnits bs).mapM id

/-- The text of a byte string, with U+FFFD for each invalid unit. -/
def decodeLossy (bs : Bytes) : Text := (decodeUnits bs).map (·.getD '\uFFFD')

/-- The bytes of a text. -/
def encode (s : Text) : Bytes := s.flatMap String.utf8EncodeChar

theorem encode_append (s t : Text) : encode (s ++ t) = encode s ++ encode t :=
  List.flatMap_append

end ScriptRunner.Text
