import Mathlib
import ScriptRunner.Proofs.ClosedComments

/-!
# What stripping takes out of a line

There is one way to read a line as comments and what stands between them, if each comment begins
with the first opener from the end of the one before it on, and ends with the first closer behind
its own opener (`Decomposes`). The place of a first occurrence is said without searching: no
occurrence of the mark lies further to the left (`IsFirst`). This reading is the scan of the line
(`decomposes_iff_isScan`), and stripping leaves what it puts outside of the comments.
-/

namespace ScriptRunner.Text

variable {c : Char} {mark s front behind : Text}

/-- The first occurrence of a mark in a text, by what stands in front of it and behind it. The mark
does not stand further to the left, even where it overlaps this occurrence. -/
structure IsFirst (mark s front behind : Text) : Prop where
  eq : s = front ++ mark ++ behind
  le : ∀ front' behind', s = front' ++ mark ++ behind' → front.length ≤ front'.length

/-- Where a text begins with a mark, this is its first occurrence. -/
lemma isFirst_append_iff (mark s : Text) :
    IsFirst mark (mark ++ s) front behind ↔ front = [] ∧ behind = s := by
  constructor
  · rintro ⟨heq, hle⟩
    obtain rfl : front = [] := List.length_eq_zero_iff.mp (Nat.le_zero.mp (hle [] s rfl))
    exact ⟨rfl, (List.append_cancel_left heq).symm⟩
  · rintro ⟨rfl, rfl⟩
    exact ⟨rfl, fun front' behind' _ => Nat.zero_le _⟩

/-- Where a text does not begin with a mark, it is looked for behind the first character. -/
lemma isFirst_cons_iff (h : ¬ mark <+: c :: s) :
    IsFirst mark (c :: s) front behind ↔
      ∃ rest, front = c :: rest ∧ IsFirst mark s rest behind := by
  constructor
  · rintro ⟨heq, hle⟩
    cases front with
    | nil => exact absurd ⟨behind, heq.symm⟩ h
    | cons d rest =>
      obtain ⟨rfl, htail⟩ := List.cons.inj heq
      refine ⟨rest, rfl, htail, fun front' behind' heq' => ?_⟩
      exact Nat.le_of_succ_le_succ (hle (c :: front') behind' (congrArg (c :: ·) heq'))
  · rintro ⟨rest, rfl, rfl, hle⟩
    refine ⟨rfl, fun front' behind' heq' => ?_⟩
    cases front' with
    | nil => exact absurd ⟨behind', heq'.symm⟩ h
    | cons d front' =>
      exact Nat.succ_le_succ (hle front' behind' (List.cons.inj heq').2)

/-- A text is cut at the first occurrence of a mark. -/
lemma cut_eq_some_iff (hm : mark ≠ []) :
    cut mark s = some (front, behind) ↔ IsFirst mark s front behind := by
  induction s generalizing front with
  | nil =>
    rw [cut, if_neg hm]
    refine iff_of_false (fun h => by cases h) fun h => hm ?_
    have hnil := List.append_eq_nil_iff.mp h.eq.symm
    exact (List.append_eq_nil_iff.mp hnil.1).2
  | cons c s ih =>
    rw [cut]
    split
    · next hstart =>
      obtain ⟨more, hmore⟩ := List.isPrefixOf_iff_prefix.mp hstart
      rw [← hmore, List.drop_left, isFirst_append_iff, Option.some.injEq, Prod.mk.injEq]
      exact and_congr eq_comm eq_comm
    · next hstart =>
      rw [List.isPrefixOf_iff_prefix] at hstart
      rw [isFirst_cons_iff hstart, Option.map_eq_some_iff]
      constructor
      · rintro ⟨⟨rest, behind'⟩, hcut, heq⟩
        obtain ⟨rfl, rfl⟩ := Prod.mk.inj heq
        exact ⟨rest, rfl, ih.mp hcut⟩
      · rintro ⟨rest, rfl, hfirst⟩
        exact ⟨(rest, behind), ih.mpr hfirst, rfl⟩

end ScriptRunner.Text

namespace ScriptRunner.Script

open Text

variable {line rest : Text} {comments : List ClosedComment}

/-- A reading of a line as comments, each with what stands in front of it, and a rest. -/
inductive Decomposes : Text → List ClosedComment → Text → Prop
  /-- In a rest without an opener, or without a closer behind its first opener, there is no
  comment. -/
  | rest (rest : Text)
      (h : ∀ front behind, IsFirst blockOpen rest front behind → ¬ blockClose <:+: behind) :
      Decomposes rest [] rest
  /-- A comment goes from the first opener to the first closer behind this. -/
  | comment {line body behind rest : Text} {comment : ClosedComment}
      {comments : List ClosedComment} (hopen : IsFirst blockOpen line comment.before body)
      (hclose : IsFirst blockClose body comment.inside behind)
      (h : Decomposes behind comments rest) : Decomposes line (comment :: comments) rest

/-- Reading a line in this way is scanning it. -/
lemma decomposes_iff_isScan : Decomposes line comments rest ↔ IsScan line comments rest := by
  have hopen {s front behind : Text} :
      cut blockOpen s = some (front, behind) ↔ IsFirst blockOpen s front behind :=
    cut_eq_some_iff (by decide)
  have hclose {s front behind : Text} :
      cut blockClose s = some (front, behind) ↔ IsFirst blockClose s front behind :=
    cut_eq_some_iff (by decide)
  have hnone {s : Text} : cut blockClose s = none ↔ ¬ blockClose <:+: s := by
    rw [cut_eq_none_iff, ← contains_eq_true_iff, Bool.not_eq_true]
  constructor
  · intro h
    induction h with
    | rest rest h =>
      exact isScan_nil_iff.mpr
        ⟨rfl, fun front behind hcut => hnone.mpr (h front behind (hopen.mp hcut))⟩
    | comment hfirst hend _ ih =>
      exact isScan_cons_iff.mpr ⟨_, _, hopen.mpr hfirst, hclose.mpr hend, ih⟩
  · intro h
    induction comments generalizing line with
    | nil =>
      obtain ⟨rfl, hcuts⟩ := isScan_nil_iff.mp h
      exact .rest _ fun front behind hfirst => hnone.mp (hcuts front behind (hopen.mpr hfirst))
    | cons comment comments ih =>
      obtain ⟨body, behind, hfirst, hend, hscan⟩ := isScan_cons_iff.mp h
      exact .comment (hopen.mp hfirst) (hclose.mp hend) (ih hscan)

/-- The pieces outside of the comments, joined to each other. -/
lemma flatten_pieces (comments : List ClosedComment) (rest : Text) :
    (pieces comments rest).flatten = comments.flatMap ClosedComment.before ++ rest := by
  rw [pieces, List.flatten_append, List.flatten_singleton]
  rfl

/-- **Stripping takes out the comments of the one reading of a line.** There is exactly one way to
read a line as comments from the first opener to the first closer behind it and a rest without a
comment, and stripping leaves what stands in front of these comments and the rest. So nothing is
taken out of a line without an opener, an opener without a closer stays with all that follows it,
and an opener and a closer that share their star are no comment. -/
theorem stripComments_decomposes (line : Text) :
    (∃! reading : List ClosedComment × Text, Decomposes line reading.1 reading.2) ∧
    (∀ comments rest, Decomposes line comments rest →
      line = comments.flatMap ClosedComment.text ++ rest ∧
      stripComments line = comments.flatMap ClosedComment.before ++ rest) ∧
    (¬ blockOpen <:+: line → stripComments line = line) ∧
    (∀ comments front behind, Decomposes line comments (front ++ blockOpen ++ behind) →
      blockOpen ++ behind <:+ stripComments line) ∧
    stripComments "/*/" = "/*/".toList := by
  have hstrips {comments : List ClosedComment} {rest : Text} (h : Decomposes line comments rest) :
      stripComments line = comments.flatMap ClosedComment.before ++ rest := by
    rw [(decomposes_iff_isScan.mp h).stripComments_eq, flatten_pieces]
  refine ⟨?_, fun comments rest h => ⟨(decomposes_iff_isScan.mp h).line_eq, hstrips h⟩,
    fun hopen => ?_, fun comments front behind h => ?_, by decide +kernel⟩
  · obtain ⟨comments, rest, hscan, -⟩ := exists_isScan line
    refine ⟨(comments, rest), decomposes_iff_isScan.mpr hscan, ?_⟩
    rintro ⟨comments', rest'⟩ h
    obtain ⟨rfl, rfl⟩ := hscan.eq_of_isScan (decomposes_iff_isScan.mp h)
    rfl
  · rw [← contains_eq_true_iff, Bool.not_eq_true] at hopen
    exact stripComments_of_not_contains hopen
  · rw [hstrips h, ← List.append_assoc, ← List.append_assoc, List.append_assoc _ blockOpen]
    exact List.suffix_append _ _

/-- Comments next to each other, and an opener without a closer. -/
example : stripComments "/*/ a *//**/b /* c" = "b /* c".toList := by decide +kernel

end ScriptRunner.Script
