import Mathlib
import ScriptRunner.Text.Utf8

/-!
# The bytes of a text

A text can be told from its bytes (`encode_injective`). Bytes below 128 stand for characters of
ASCII, and for nothing else: among the bytes of a text they are these characters
(`toNat_of_mem_utf8EncodeChar`), and only they are decoded as such (`exists_of_decode?`). So a mark
of ASCII is found in a text wherever it is found in bytes of the text (`infix_of_infix_encode`,
`encode_prefix_of_decode?`).
-/

namespace ScriptRunner.Text

variable {c : Char} {s mark : Text} {bytes : Bytes}

/-! ## Encoding -/

/-- The number of bytes of a text is the sum of those of its characters. -/
lemma length_encode_cons (c : Char) (s : Text) :
    (encode (c :: s)).length = c.utf8Size + (encode s).length := by
  rw [encode, List.flatMap_cons, List.length_append, String.length_utf8EncodeChar]
  rfl

/-- Texts are told apart by their bytes. -/
lemma encode_injective : Function.Injective encode := by
  intro s t h
  have hbytes : s.utf8Encode = t.utf8Encode := congrArg List.toByteArray h
  have hdecoded := congrArg ByteArray.utf8Decode? hbytes
  rw [List.utf8Decode?_utf8Encode, List.utf8Decode?_utf8Encode] at hdecoded
  exact List.toArray_inj (Option.some.inj hdecoded)

/-- A byte of a character that could stand for an ASCII character by itself does so. -/
lemma toNat_of_mem_utf8EncodeChar {b : UInt8} (h : b ∈ String.utf8EncodeChar c)
    (hb : b.toNat < 0x80) : c.toNat = b.toNat := by
  have hlater : ∀ value : ℕ, 0x80 ≤ value → value < 0x100 → b ≠ UInt8.ofNat value := by
    rintro value hle hlt rfl
    rw [UInt8.toNat_ofNat', Nat.mod_eq_of_lt hlt] at hb
    omega
  rw [String.utf8EncodeChar] at h
  split at h
  · next hascii =>
    obtain rfl := List.mem_singleton.mp h
    rw [UInt8.toNat_ofNat', Nat.mod_eq_of_lt (by omega)]
    rfl
  -- The bytes of other characters are all of the upper half.
  · exfalso
    split at h
    · simp only [List.mem_cons, List.not_mem_nil, or_false] at h
      rcases h with h | h <;> exact hlater _ (by omega) (by omega) h
    split at h
    · simp only [List.mem_cons, List.not_mem_nil, or_false] at h
      rcases h with h | h | h <;> exact hlater _ (by omega) (by omega) h
    · simp only [List.mem_cons, List.not_mem_nil, or_false] at h
      rcases h with h | h | h | h <;> exact hlater _ (by omega) (by omega) h

/-- A character of ASCII is encoded by one byte. -/
lemma utf8EncodeChar_of_lt (hc : c.toNat < 0x80) :
    String.utf8EncodeChar c = [UInt8.ofNat c.toNat] := by
  rw [String.utf8EncodeChar]
  exact if_pos (Nat.le_of_lt_succ hc)

/-- The byte of a character of ASCII has its number. -/
lemma toNat_ofNat_of_lt (hc : c.toNat < 0x80) : (UInt8.ofNat c.toNat).toNat = c.toNat := by
  rw [UInt8.toNat_ofNat', Nat.mod_eq_of_lt (by omega)]

/-- The byte of a character of ASCII stands in the encoding of no other character. -/
lemma eq_of_mem_utf8EncodeChar {d : Char} (hc : c.toNat < 0x80)
    (h : UInt8.ofNat c.toNat ∈ String.utf8EncodeChar d) : d = c := by
  have hnumber := toNat_of_mem_utf8EncodeChar h (by rwa [toNat_ofNat_of_lt hc])
  rw [toNat_ofNat_of_lt hc] at hnumber
  exact Char.toNat_inj.mp hnumber

/-- A character has at least one byte. -/
lemma utf8EncodeChar_ne_nil (c : Char) : String.utf8EncodeChar c ≠ [] := by
  rw [ne_eq, ← List.length_eq_zero_iff, String.length_utf8EncodeChar]
  exact Nat.ne_of_gt c.utf8Size_pos

/-- The first character of a text is encoded in front of the others. -/
lemma encode_cons (c : Char) (s : Text) : encode (c :: s) = String.utf8EncodeChar c ++ encode s :=
  List.flatMap_cons

/-- A character of ASCII is encoded by one byte in front of the others. -/
lemma encode_cons_of_lt (hc : c.toNat < 0x80) (s : Text) :
    encode (c :: s) = UInt8.ofNat c.toNat :: encode s := by
  rw [encode_cons, utf8EncodeChar_of_lt hc]
  rfl

/-- A text begins with a mark of ASCII if its bytes do. -/
lemma prefix_of_prefix_encode (hmark : ∀ c ∈ mark, c.toNat < 0x80)
    (h : encode mark <+: encode s) : mark <+: s := by
  induction mark generalizing s with
  | nil => exact List.nil_prefix
  | cons c mark ih =>
    obtain ⟨hc, hrest⟩ := List.forall_mem_cons.mp hmark
    rw [encode_cons_of_lt hc] at h
    cases s with
    | nil => exact absurd h.length_le (by simp [encode])
    | cons d s =>
      -- The first byte is one of the first character, which is then the character of ASCII.
      have hmem : UInt8.ofNat c.toNat ∈ String.utf8EncodeChar d := by
        obtain ⟨first, bytes, hfirst⟩ := List.exists_cons_of_ne_nil (utf8EncodeChar_ne_nil d)
        rw [encode_cons, hfirst, List.cons_append, List.cons_prefix_cons] at h
        rw [hfirst, h.1]
        exact List.mem_cons_self
      obtain rfl := eq_of_mem_utf8EncodeChar hc hmem
      rw [encode_cons_of_lt hc, List.cons_prefix_cons] at h
      exact List.cons_prefix_cons.mpr ⟨rfl, ih hrest h.2⟩

/-- What begins with another byte than those of a list is found behind the list. -/
lemma infix_of_infix_append_of_notMem {α : Type} {a : α} {x y front : List α} (ha : a ∉ front)
    (h : a :: x <:+: front ++ y) : a :: x <:+: y := by
  induction front with
  | nil => exact h
  | cons first front ih =>
    rw [List.mem_cons, not_or] at ha
    rw [List.cons_append, List.infix_cons_iff] at h
    rcases h with h | h
    · exact absurd (List.cons_prefix_cons.mp h).1 ha.1
    · exact ih ha.2 h

/-- A mark of ASCII stands in a text if its bytes stand in those of the text. -/
lemma infix_of_infix_encode (hmark : ∀ c ∈ mark, c.toNat < 0x80)
    (h : encode mark <:+: encode s) : mark <:+: s := by
  cases mark with
  | nil => exact List.nil_infix
  | cons c mark =>
    have hc : c.toNat < 0x80 := hmark c List.mem_cons_self
    induction s with
    | nil =>
      rw [encode_cons_of_lt hc] at h
      cases List.infix_nil.mp h
    | cons d s ih =>
      rw [List.infix_cons_iff]
      by_cases hd : d = c
      · subst hd
        rw [encode_cons_of_lt hc s, List.infix_cons_iff] at h
        rcases h with h | h
        · rw [← encode_cons_of_lt hc s] at h
          exact .inl (prefix_of_prefix_encode hmark h)
        · exact .inr (ih h)
      · have hnot : UInt8.ofNat c.toNat ∉ String.utf8EncodeChar d :=
          fun hmem => hd (eq_of_mem_utf8EncodeChar hc hmem)
        rw [encode_cons_of_lt hc, encode_cons] at h
        refine .inr (ih ?_)
        rw [encode_cons_of_lt hc]
        exact infix_of_infix_append_of_notMem hnot h

/-! ## Decoding -/

/-- What is read from continuation bytes is no less than what the lead byte and the least of the
first ones make. -/
lemma le_of_readTails {value v : ℕ} {r : ByteRange} {rs : List ByteRange}
    (h : (readTails value (r :: rs) bytes).1 = some v) :
    (value * 64 + (r.low.toNat - 0x80)) * 64 ^ rs.length ≤ v := by
  induction rs generalizing value r bytes with
  | nil =>
    cases bytes with
    | nil => cases h
    | cons b bytes =>
      rw [readTails] at h
      split at h
      · next hholds =>
        rw [ByteRange.holds, Bool.and_eq_true, decide_eq_true_eq, UInt8.le_iff_toNat_le] at hholds
        rw [readTails, Option.some.injEq] at h
        rw [List.length_nil, Nat.pow_zero]
        omega
      · cases h
  | cons r' rs ih =>
    cases bytes with
    | nil => cases h
    | cons b bytes =>
      rw [readTails] at h
      split at h
      · next hholds =>
        rw [ByteRange.holds, Bool.and_eq_true, decide_eq_true_eq, UInt8.le_iff_toNat_le] at hholds
        refine le_trans ?_ (ih h)
        rw [List.length_cons, Nat.pow_succ', ← Nat.mul_assoc]
        exact Nat.mul_le_mul_right _ (by omega)
      · cases h

/-- A lead byte stands for a character of ASCII by itself, or begins a character of at least 128. -/
lemma lead?_cases {b : UInt8} {value : ℕ} {ranges : List ByteRange}
    (h : lead? b = some (value, ranges)) :
    (ranges = [] ∧ value = b.toNat) ∨
      ∃ r rs, ranges = r :: rs ∧
        0x80 ≤ (value * 64 + (r.low.toNat - 0x80)) * 64 ^ rs.length := by
  unfold lead? at h
  dsimp only at h
  split_ifs at h <;> simp only [Option.some.injEq, Prod.mk.injEq] at h <;> obtain ⟨rfl, rfl⟩ := h
  · exact .inl ⟨rfl, rfl⟩
  all_goals refine .inr ⟨_, _, rfl, ?_⟩; simp [anyTail]; try omega

/-- A number below 128 is read from the one byte that it is. -/
lemma readUnit_eq_of_lt {b : UInt8} {v : ℕ} (h : (readUnit b bytes).1 = some v) (hv : v < 0x80) :
    b.toNat = v ∧ (readUnit b bytes).2 = bytes := by
  unfold readUnit at h ⊢
  cases hlead : lead? b with
  | none =>
    rw [hlead] at h
    cases h
  | some lead =>
    obtain ⟨value, ranges⟩ := lead
    rw [hlead] at h
    dsimp only at h ⊢
    rcases lead?_cases hlead with ⟨rfl, rfl⟩ | ⟨r, rs, rfl, hle⟩
    · rw [readTails, Option.some.injEq] at h
      exact ⟨h, by rw [readTails]⟩
    · exact absurd (le_of_readTails h) (by omega)

/-- A text that is decoded and begins with a character of ASCII is decoded from the byte of this
character and those of the others. -/
lemma exists_of_decode? (hpos : 0 < c.toNat) (hc : c.toNat < 0x80)
    (h : decode? bytes = some (c :: s)) :
    ∃ rest, bytes = UInt8.ofNat c.toNat :: rest ∧ decode? rest = some s := by
  cases bytes with
  | nil => simp [decode?, decodeUnits] at h
  | cons b bytes =>
    rw [decode?, decodeUnits, List.mapM_cons] at h
    simp only [id_eq, Option.bind_eq_bind, Option.bind_eq_some_iff, Option.map_eq_some_iff,
      Option.pure_def, Option.some.injEq, List.cons.injEq] at h
    obtain ⟨-, ⟨v, hv, rfl⟩, s, hs, rfl, rfl⟩ := h
    have hnumber : (Char.ofNat v).toNat = v := by
      unfold Char.ofNat at hpos ⊢
      split
      · rfl
      · next hnot =>
        rw [dif_neg hnot] at hpos
        cases hpos
    rw [hnumber] at hc ⊢
    obtain ⟨rfl, hrest⟩ := readUnit_eq_of_lt hv hc
    refine ⟨bytes, by rw [UInt8.ofNat_toNat], ?_⟩
    rw [hrest] at hs
    exact hs

/-- Bytes from which a text with a mark of ASCII in front is decoded begin with the bytes of the
mark. -/
lemma encode_prefix_of_decode? (hmark : ∀ c ∈ mark, 0 < c.toNat ∧ c.toNat < 0x80)
    (h : decode? bytes = some s) (hs : mark <+: s) : encode mark <+: bytes := by
  induction mark generalizing bytes s with
  | nil => exact List.nil_prefix
  | cons c mark ih =>
    obtain ⟨⟨hpos, hc⟩, hrest⟩ := List.forall_mem_cons.mp hmark
    obtain ⟨behind, rfl⟩ := hs
    obtain ⟨rest, rfl, hdecoded⟩ := exists_of_decode? hpos hc h
    rw [encode_cons_of_lt hc, List.cons_prefix_cons]
    exact ⟨rfl, ih hrest hdecoded ⟨behind, rfl⟩⟩

end ScriptRunner.Text
