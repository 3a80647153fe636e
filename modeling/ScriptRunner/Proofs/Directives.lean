import Mathlib
import ScriptRunner.Proofs.EncodedTexts
import ScriptRunner.Proofs.LineKinds
import ScriptRunner.Script.Keyword

/-!
# What is read as a directive

A directive is read by looking for its keyword with the lower case forms of characters and cutting
the line at a number of bytes (`searchDirective`). For a word in capital letters of ASCII this finds
the same letters in any mix of upper and lower case and nothing else, and never cuts inside of a
character, unless the word has a K (`searchKeyword_cases`): only for a k there is a character
outside ASCII with the same lower case form. The keyword has no K. So directives have a simple form
(`HasDirectiveForm`), which says where their token begins (`searchDirective_grammar`).
-/

namespace ScriptRunner.Script

open Text

variable {c k : Char} {word capitals behind s line rest : Text}

/-! ## Capital letters -/

/-- A character of ASCII is one of few. -/
lemma exists_of_lt (hc : c.toNat < 0x80) : ∃ n : Fin 0x80, c = Char.ofNat n :=
  ⟨⟨c.toNat, hc⟩, (Char.ofNat_toNat c).symm⟩

/-- A capital letter of ASCII is one of few. -/
lemma exists_of_isUpper (hk : k.isUpper = true) : ∃ n : Fin 26, k = Char.ofNat (0x41 + n) := by
  delta Char.isUpper at hk
  have hnat : k.toNat = k.val.toNat := rfl
  have hA : ('A' : Char).val.toNat = 0x41 := rfl
  have hZ : ('Z' : Char).val.toNat = 0x5A := rfl
  simp only [decide_eq_true_eq, ge_iff_le, UInt32.le_iff_toNat_le] at hk
  refine ⟨⟨k.toNat - 0x41, by omega⟩, ?_⟩
  have hnumber : 0x41 + (k.toNat - 0x41) = k.toNat := by omega
  rw [hnumber, Char.ofNat_toNat]

/-- Both forms of a capital letter are characters of ASCII. -/
lemma toNat_lt_of_isUpper (hk : k.isUpper = true) : k.toNat < 0x80 ∧ k.toLower.toNat < 0x80 := by
  obtain ⟨n, rfl⟩ := exists_of_isUpper hk
  revert n
  decide +kernel

/-- Both forms of a capital letter have it as their upper case form, and the small one is a letter
as well. -/
lemma forms_of_isUpper (hk : k.isUpper = true) :
    k.toUpper = k ∧ k.toLower.toUpper = k ∧ k.toLower.toLower = k.toLower ∧
      k.toLower.isAlpha = true := by
  obtain ⟨n, rfl⟩ := exists_of_isUpper hk
  revert n
  decide +kernel

/-- In ASCII a character is its upper case form or the small form of this, and its lower case form
has the same upper case form. -/
lemma forms_of_lt (hc : c.toNat < 0x80) :
    (c = c.toUpper ∨ c = c.toUpper.toLower) ∧ c.toLower.toUpper = c.toUpper := by
  obtain ⟨n, rfl⟩ := exists_of_lt hc
  revert n
  decide +kernel

/-- A character outside ASCII is no form of a capital letter. -/
lemma not_form_of_le (hk : k.isUpper = true) (hc : ¬ c.toNat < 0x80) :
    ¬ (c = k ∨ c = k.toLower) := by
  obtain ⟨hcapital, hsmall⟩ := toNat_lt_of_isUpper hk
  rintro (rfl | rfl)
  · exact hc hcapital
  · exact hc hsmall

/-- The two forms of a capital letter are the characters that have it as their upper case form. -/
lemma toUpper_eq_iff (hk : k.isUpper = true) : c.toUpper = k ↔ c = k ∨ c = k.toLower := by
  by_cases hc : c.toNat < 0x80
  · constructor
    · rintro rfl
      exact (forms_of_lt hc).1
    · obtain ⟨hcapital, hsmall, -, -⟩ := forms_of_isUpper hk
      rintro (rfl | rfl)
      · exact hcapital
      · exact hsmall
  · have hupper : c.toUpper = c := by
      rw [Char.toUpper, dif_neg]
      rintro ⟨-, hz⟩
      exact hc (Nat.lt_of_le_of_lt (UInt32.le_iff_toNat_le.mp hz) (by decide))
    have hnot := not_form_of_le hk hc
    rw [hupper]
    exact iff_of_false (fun h => hnot (.inl h)) hnot

/-- A capital letter of ASCII whose lower case form no character outside ASCII has. -/
def IsPlainCapital (k : Char) : Prop := k.isUpper = true ∧ k ≠ 'K'

/-- Only the two forms of a plain capital letter have its lower case form. -/
lemma lowercase_eq_iff (hk : IsPlainCapital k) :
    lowercase c = lowercase k ↔ c = k ∨ c = k.toLower := by
  obtain ⟨hupper, hne⟩ := hk
  obtain ⟨-, hsmall, hlower, hletter⟩ := forms_of_isUpper hupper
  have hform : lowercase k = [k.toLower] := by
    rw [lowercase, if_pos (toNat_lt_of_isUpper hupper).1]
  rw [hform]
  by_cases hc : c.toNat < 0x80
  · have hform' : lowercase c = [c.toLower] := by rw [lowercase, if_pos hc]
    rw [hform', List.singleton_inj]
    constructor
    · intro h
      rw [← toUpper_eq_iff hupper, ← (forms_of_lt hc).2, h, hsmall]
    · rintro (rfl | rfl)
      · rfl
      · exact hlower
  · refine iff_of_false (fun h => hne ?_) (not_form_of_le hupper hc)
    rw [← hsmall, (eq_kelvinSign_of_lowercase (Nat.not_lt.mp hc) h hletter).2]
    rfl

/-! ## Words in any mix of upper and lower case -/

/-- The letters of a word are those of another one in capitals, in any mix of upper and lower
case. -/
def Spells (word capitals : Text) : Prop :=
  List.Forall₂ (fun c k => c = k ∨ c = k.toLower) word capitals

/-- A word of capital letters is spelled by the words that have it as their upper case form. -/
lemma spells_iff_map_toUpper (h : ∀ k ∈ capitals, k.isUpper = true) :
    Spells word capitals ↔ word.map Char.toUpper = capitals := by
  induction capitals generalizing word with
  | nil => simp [Spells]
  | cons k capitals ih =>
    obtain ⟨hk, hcapitals⟩ := List.forall_mem_cons.mp h
    cases word with
    | nil => simp [Spells]
    | cons c word =>
      rw [Spells, List.forall₂_cons, List.map_cons, List.cons.injEq, toUpper_eq_iff hk,
        ← ih hcapitals]
      rfl

/-- A character of ASCII is one byte. -/
lemma utf8Size_of_lt (hc : c.toNat < 0x80) : c.utf8Size = 1 :=
  Char.utf8Size_eq_one_iff.mpr (UInt32.le_iff_toNat_le.mpr (Nat.le_of_lt_succ hc))

/-- The two forms of a capital letter have one byte each. -/
lemma utf8Size_eq_one (hk : k.isUpper = true) (hc : c = k ∨ c = k.toLower) :
    c.utf8Size = 1 ∧ k.utf8Size = 1 := by
  obtain ⟨hcapital, hsmall⟩ := toNat_lt_of_isUpper hk
  refine ⟨?_, utf8Size_of_lt hcapital⟩
  rcases hc with rfl | rfl
  · exact utf8Size_of_lt hcapital
  · exact utf8Size_of_lt hsmall

/-- Behind no bytes stands the whole text. -/
lemma behindBytes?_zero (s : Text) : behindBytes? 0 s = some s := by
  cases s <;> rfl

/-- A word that is spelled at the beginning of a text agrees with it, and the cut falls behind
it. -/
lemma agrees_of_spells (h : Spells word capitals) (hplain : ∀ k ∈ capitals, IsPlainCapital k)
    (behind : Text) :
    agreesInLowercase (word ++ behind) capitals = true ∧
      (encode capitals).length ≤ (encode (word ++ behind)).length ∧
      behindBytes? (encode capitals).length (word ++ behind) = some behind := by
  induction h with
  | nil => exact ⟨by simp [agreesInLowercase], Nat.zero_le _, behindBytes?_zero behind⟩
  | @cons c k word capitals hc _ ih =>
    obtain ⟨hk, hcapitals⟩ := List.forall_mem_cons.mp hplain
    obtain ⟨hagrees, hle, hbehind⟩ := ih hcapitals
    obtain ⟨hsize, hsize'⟩ := utf8Size_eq_one hk.1 hc
    rw [List.cons_append, length_encode_cons, length_encode_cons, hsize, hsize']
    refine ⟨?_, Nat.add_le_add_left hle 1, ?_⟩
    · rw [agreesInLowercase, List.zip_cons_cons, List.all_cons, (lowercase_eq_iff hk).mpr hc,
        beq_self_eq_true, Bool.true_and]
      exact hagrees
    · rw [Nat.add_comm, behindBytes?, if_pos (by omega), hsize, Nat.add_sub_cancel]
      exact hbehind

/-- A text that agrees with a word of plain capital letters, and has as many bytes, begins with this
word in some mix of upper and lower case. -/
lemma exists_spells_of_agrees (hplain : ∀ k ∈ capitals, IsPlainCapital k)
    (hagrees : agreesInLowercase s capitals = true)
    (hle : (encode capitals).length ≤ (encode s).length) :
    ∃ word behind, s = word ++ behind ∧ Spells word capitals := by
  induction capitals generalizing s with
  | nil => exact ⟨[], s, rfl, .nil⟩
  | cons k capitals ih =>
    obtain ⟨hk, hcapitals⟩ := List.forall_mem_cons.mp hplain
    cases s with
    | nil =>
      -- The characters agree, since there are none, but the bytes are too few.
      have hpos := k.utf8Size_pos
      rw [length_encode_cons] at hle
      change _ ≤ 0 at hle
      omega
    | cons c s =>
      rw [agreesInLowercase, List.zip_cons_cons, List.all_cons, Bool.and_eq_true,
        beq_iff_eq] at hagrees
      have hc : c = k ∨ c = k.toLower := (lowercase_eq_iff hk).mp hagrees.1
      obtain ⟨hsize, hsize'⟩ := utf8Size_eq_one hk.1 hc
      rw [length_encode_cons, length_encode_cons, hsize, hsize'] at hle
      obtain ⟨word, behind, rfl, hspells⟩ :=
        ih hcapitals hagrees.2 (Nat.le_of_add_le_add_left hle)
      exact ⟨c :: word, behind, rfl, .cons hc hspells⟩

/-- A word of plain capital letters is found where it is spelled, and is absent elsewhere. -/
lemma searchKeyword_cases (hplain : ∀ k ∈ capitals, IsPlainCapital k) (s : Text) :
    (∃ word behind, s = word ++ behind ∧ Spells word capitals ∧
      searchKeyword capitals s = .found behind) ∨
    (∀ word behind, s = word ++ behind → ¬ Spells word capitals) ∧
      searchKeyword capitals s = .absent := by
  unfold searchKeyword
  split
  · next htest =>
    rw [Bool.and_eq_true, decide_eq_true_eq] at htest
    obtain ⟨word, behind, rfl, hspells⟩ := exists_spells_of_agrees hplain htest.1 htest.2
    rw [(agrees_of_spells hspells hplain behind).2.2]
    exact .inl ⟨word, behind, rfl, hspells, rfl⟩
  · next htest =>
    refine .inr ⟨?_, rfl⟩
    rintro word behind rfl hspells
    obtain ⟨hagrees, hle, -⟩ := agrees_of_spells hspells hplain behind
    exact htest (by rw [hagrees, decide_eq_true hle]; rfl)

/-! ## The keyword -/

/-- The keyword is in capital letters, and none of them is a K. -/
lemma isPlainCapital_of_mem_keyword : ∀ k ∈ keyword, IsPlainCapital k := by
  have hall : keyword.all (fun k => k.isUpper && k != 'K') = true := by decide +kernel
  intro k hk
  simpa [IsPlainCapital] using List.all_eq_true.mp hall k hk

/-- The beginning of a text is compared with the keyword in its upper case form. -/
lemma spells_keyword_iff : Spells word keyword ↔ word.map Char.toUpper = keyword :=
  spells_iff_map_toUpper fun k hk => (isPlainCapital_of_mem_keyword k hk).1

/-- Looking for the keyword is comparing as many characters as it has with it. -/
lemma searchKeyword_keyword (s : Text) :
    searchKeyword keyword s =
      if (s.take keyword.length).map Char.toUpper = keyword then .found (s.drop keyword.length)
      else .absent := by
  rcases searchKeyword_cases isPlainCapital_of_mem_keyword s with
    ⟨word, behind, rfl, hspells, hsearch⟩ | ⟨hnot, hsearch⟩
  · have hlength : word.length = keyword.length := List.Forall₂.length_eq hspells
    rw [hsearch, ← hlength, List.take_left, List.drop_left,
      if_pos (spells_keyword_iff.mp hspells)]
  · rw [hsearch, if_neg]
    intro hword
    exact hnot _ _ (List.take_append_drop _ s).symm (spells_keyword_iff.mpr hword)

/-- Looking for a directive finds what is read as one, and never tears a character. -/
lemma searchDirective_eq (line : Text) :
    searchDirective line = (directiveRest? line).elim .absent .found := by
  unfold searchDirective directiveRest?
  rw [searchKeyword_keyword]
  dsimp only
  by_cases hword :
      ((line.dropWhile isLeadingBlank).take keyword.length).map Char.toUpper = keyword
  · rw [if_pos hword, if_pos hword]
    cases (line.dropWhile isLeadingBlank).drop keyword.length with
    | nil => rfl
    | cons c rest =>
      dsimp only
      cases isGap c <;> rfl
  · rw [if_neg hword, if_neg hword]
    rfl

/-! ## The form of a directive -/

/-- The form of a directive, with the text behind a part of its gap: white space, the keyword in any
mix of upper and lower case, and at least one blank or tab. -/
inductive HasDirectiveForm : Text → Text → Prop
  | mk (lead word gap rest : Text) (hlead : ∀ c ∈ lead, c ∈ [' ', '\t', '\r', '\n'])
      (hword : Spells word keyword) (hgap : ∀ c ∈ gap, c ∈ [' ', '\t']) (hne : gap ≠ []) :
      HasDirectiveForm (lead ++ word ++ gap ++ rest) rest

/-- White space in front of the keyword, character by character. -/
lemma isLeadingBlank_iff : isLeadingBlank c = true ↔ c ∈ [' ', '\t', '\r', '\n'] := by
  simp [isLeadingBlank, or_assoc]

/-- A gap, character by character. -/
lemma isGap_iff : isGap c = true ↔ c ∈ [' ', '\t'] := by
  simp [isGap]

/-- A directive has this form, and what is read behind its gap does not go on with the gap. -/
lemma hasDirectiveForm_of_directiveRest? (h : directiveRest? line = some rest) :
    HasDirectiveForm line rest ∧ ∀ c ∈ rest.head?, isGap c = false := by
  unfold directiveRest? at h
  dsimp only at h
  split at h
  · next hword =>
    split at h
    · cases h
    · next c behind hdrop =>
      split at h
      · next hc =>
        obtain rfl : behind.dropWhile isGap = rest := Option.some.inj h
        have hline : line = line.takeWhile isLeadingBlank ++
            (line.dropWhile isLeadingBlank).take keyword.length ++ (c :: behind.takeWhile isGap) ++
            behind.dropWhile isGap := by
          rw [List.append_assoc, List.cons_append, List.takeWhile_append_dropWhile, ← hdrop,
            List.append_assoc, List.take_append_drop, List.takeWhile_append_dropWhile]
        refine ⟨?_, fun d hd => ?_⟩
        · rw [hline]
          refine .mk _ _ _ _ (fun d hd => ?_) (spells_keyword_iff.mpr hword) (fun d hd => ?_)
            (List.cons_ne_nil _ _)
          · exact isLeadingBlank_iff.mp (List.mem_takeWhile_imp hd)
          · rcases List.mem_cons.mp hd with rfl | hd
            · exact isGap_iff.mp hc
            · exact isGap_iff.mp (List.mem_takeWhile_imp hd)
        · have hhead := List.head?_dropWhile_not isGap behind
          rw [Option.mem_def.mp hd] at hhead
          exact hhead
      · cases h
  · cases h

/-- The first letter of the keyword is no white space. -/
lemma head_of_spells (h : Spells word keyword) :
    ∃ c more, word = c :: more ∧ isLeadingBlank c = false := by
  rw [keyword_eq] at h
  cases h with
  | cons hc _ =>
    refine ⟨_, _, rfl, ?_⟩
    rcases hc with rfl | rfl <;> decide

/-- A line of this form is a directive, and what is read of it is the text behind the whole gap. -/
lemma HasDirectiveForm.directiveRest?_eq (h : HasDirectiveForm line rest) :
    directiveRest? line = some (rest.dropWhile isGap) := by
  obtain ⟨lead, word, gap, rest, hlead, hword, hgap, hne⟩ := h
  obtain ⟨c, more, rfl, hc⟩ := head_of_spells hword
  obtain ⟨d, gap, rfl⟩ := List.exists_cons_of_ne_nil hne
  obtain ⟨hd, hgap⟩ := List.forall_mem_cons.mp hgap
  have hlength : (c :: more).length = keyword.length := List.Forall₂.length_eq hword
  have hdrop : (lead ++ (c :: more) ++ (d :: gap) ++ rest).dropWhile isLeadingBlank =
      (c :: more) ++ (d :: (gap ++ rest)) := by
    rw [List.append_assoc, List.append_assoc, List.dropWhile_append_of_pos
      fun e he => isLeadingBlank_iff.mpr (hlead e he)]
    exact List.dropWhile_cons_of_neg (by rw [hc]; exact Bool.false_ne_true)
  have hskip : (gap ++ rest).dropWhile isGap = rest.dropWhile isGap :=
    List.dropWhile_append_of_pos fun e he => isGap_iff.mpr (hgap e he)
  unfold directiveRest?
  rw [hdrop]
  dsimp only
  rw [← hlength, List.take_left, List.drop_left, if_pos (spells_keyword_iff.mp hword)]
  dsimp only
  rw [if_pos (isGap_iff.mpr hd), hskip]

/-- **A directive is read by its grammar.** Looking for a directive by lower case forms and bytes
finds what is read as one, and neither here nor in any other text does the cut behind the keyword
fall inside of a character; no character but a letter of the keyword and its small form is taken for
this letter. A line is a directive exactly if it has the form of one. The token is what stands
behind the gap, without white space at its ends, and there is none if this is blank; where there is
no directive there is none either. -/
theorem searchDirective_grammar (line : Text) :
    (searchDirective line = (directiveRest? line).elim .absent .found ∧
      (∀ s, searchKeyword keyword s ≠ .torn) ∧
      ∀ k ∈ keyword, ∀ c, lowercase c = lowercase k → c = k ∨ c = k.toLower) ∧
    (isDirective line = true ↔ ∃ rest, HasDirectiveForm line rest) ∧
    (∀ rest, HasDirectiveForm line rest → (∀ c ∈ rest.head?, c ∉ [' ', '\t']) →
      directiveToken? line = if isBlank rest then none else some (trim rest)) ∧
    (isDirective line = false → directiveToken? line = none) := by
  refine ⟨⟨searchDirective_eq line, fun s => ?_, fun k hk c h => ?_⟩, ?_,
    fun rest h hrest => ?_, fun h => ?_⟩
  · rcases searchKeyword_cases isPlainCapital_of_mem_keyword s with
      ⟨word, behind, -, -, hsearch⟩ | ⟨-, hsearch⟩
    · rw [hsearch]
      exact KeywordSearch.noConfusion
    · rw [hsearch]
      exact KeywordSearch.noConfusion
  · exact (lowercase_eq_iff (isPlainCapital_of_mem_keyword k hk)).mp h
  · rw [isDirective, Option.isSome_iff_exists]
    constructor
    · rintro ⟨rest, hrest⟩
      exact ⟨rest, (hasDirectiveForm_of_directiveRest? hrest).1⟩
    · rintro ⟨rest, h⟩
      exact ⟨_, h.directiveRest?_eq⟩
  · have hwhole : rest.dropWhile isGap = rest := by
      cases rest with
      | nil => rfl
      | cons c rest =>
        exact List.dropWhile_cons_of_neg fun hc => hrest c rfl (isGap_iff.mp hc)
    rw [directiveToken?, h.directiveRest?_eq, hwhole]
  · rw [isDirective, Option.isSome_eq_false_iff, Option.isNone_iff_eq_none] at h
    rw [directiveToken?, h]

/-- Any mix of upper and lower case is read as the keyword, and inner white space stays. -/
example : directiveToken? "  DeLimiter\t $$ x  " = some "$$ x".toList := by decide +kernel

end ScriptRunner.Script
