import Mathlib
import ScriptRunner.Proofs.LineKinds

/-!
# Comments that are closed on their line

A line is read from left to right: an opener belongs with the first closer behind it, and reading
goes on behind that closer. What is read are the comments that are closed on the line, each with
what stands in front of it, and a rest in which none is closed (`IsScan`). Every line has one such
reading and no other (`exists_isScan`, `IsScan.eq_of_isScan`).

Stripping leaves the pieces that stand outside of these comments, each joined to the next
(`IsScan.stripComments_eq`). No piece but the rest has an opener. Yet a mark of two characters also
occurs where pieces are joined, if the first of them ends with the one character and the next begins
with the other (`HasSeam`, `contains_flatten_iff`).
-/

namespace ScriptRunner.Text

variable {c d : Char} {mark a b s : Text}

/-! ## Marks of two characters -/

/-- A mark does not occur in front of the place where it is found first. -/
lemma contains_eq_false_of_cut (hm : mark ≠ []) (h : cut mark s = some (a, b)) :
    contains mark a = false := by
  induction s generalizing a with
  | nil =>
    rw [cut, if_neg hm] at h
    cases h
  | cons e s ih =>
    rw [cut] at h
    split at h
    · obtain ⟨rfl, -⟩ := Prod.mk.inj (Option.some.inj h)
      rw [contains, cut, if_neg hm]
      rfl
    · next hstart =>
      obtain ⟨⟨front, back⟩, hcut, hparts⟩ := Option.map_eq_some_iff.mp h
      obtain ⟨rfl, rfl⟩ := Prod.mk.inj hparts
      have hnot : ¬ mark <+: e :: front := by
        intro hprefix
        apply hstart
        rw [List.isPrefixOf_iff_prefix, append_of_cut hcut, List.append_assoc, ← List.cons_append]
        exact hprefix.trans (List.prefix_append _ _)
      rw [Bool.eq_false_iff, ne_eq, contains_eq_true_iff, List.infix_cons_iff, not_or,
        ← contains_eq_true_iff, ← ne_eq, ← Bool.eq_false_iff]
      exact ⟨hnot, ih hcut⟩

/-- A mark of two different characters is found where it stands, if it does not occur before. -/
lemma cut_append_pair (hne : c ≠ d) (b : Text) (ha : contains [c, d] a = false) :
    cut [c, d] (a ++ [c, d] ++ b) = some (a, b) := by
  induction a with
  | nil => exact cut_append_self (by simp) b
  | cons e a ih =>
    have hstart : ¬ [c, d].isPrefixOf (e :: (a ++ [c, d] ++ b)) = true := by
      rw [List.isPrefixOf_iff_prefix, List.cons_prefix_cons]
      rintro ⟨rfl, hnext⟩
      cases a with
      | nil => exact hne ((List.cons_prefix_cons.mp hnext).1).symm
      | cons f a =>
        obtain rfl : d = f := (List.cons_prefix_cons.mp hnext).1
        have hthere : [c, d] <:+: c :: d :: a := (List.prefix_append [c, d] a).isInfix
        rw [contains_eq_true_iff.mpr hthere] at ha
        cases ha
    have htail : contains [c, d] a = false :=
      contains_eq_false_of_infix (List.suffix_cons e a).isInfix ha
    rw [List.cons_append, List.cons_append, cut, if_neg hstart, ih htail]
    rfl

/-- A mark of two characters occurs in one of two texts, or where they are joined. -/
lemma contains_append_pair_iff (a b : Text) :
    contains [c, d] (a ++ b) = true ↔
      contains [c, d] a = true ∨ contains [c, d] b = true ∨
        a.getLast? = some c ∧ b.head? = some d := by
  simp only [contains_eq_true_iff, List.infix_append_iff]
  constructor
  · rintro (ha | hb | ⟨front, back, hmark, hfront, hback⟩)
    · exact .inl ha
    · exact .inr (.inl hb)
    · rcases List.append_eq_cons_iff.mp hmark.symm with ⟨rfl, rfl⟩ | ⟨front', rfl, hback'⟩
      · exact .inr (.inl hback.isInfix)
      rcases List.append_eq_cons_iff.mp hback'.symm with ⟨rfl, rfl⟩ | ⟨front'', rfl, hnil⟩
      · -- One character stands on either side.
        obtain ⟨a, rfl⟩ := hfront
        obtain ⟨b, rfl⟩ := hback
        exact .inr (.inr ⟨List.getLast?_concat, rfl⟩)
      · obtain ⟨rfl, -⟩ := List.append_eq_nil_iff.mp hnil.symm
        exact .inl hfront.isInfix
  · rintro (ha | hb | ⟨hlast, hhead⟩)
    · exact .inl ha
    · exact .inr (.inl hb)
    · obtain ⟨front, rfl⟩ := List.getLast?_eq_some_iff.mp hlast
      obtain ⟨back, rfl⟩ := List.head?_eq_some_iff.mp hhead
      exact .inr (.inr ⟨[c], [d], rfl, ⟨front, rfl⟩, ⟨back, rfl⟩⟩)

/-- Where some pieces are joined, one character comes to stand in front of another one. -/
def HasSeam (c d : Char) (pieces : List Text) : Prop :=
  ∃ front back, pieces = front ++ back ∧
    front.flatten.getLast? = some c ∧ back.flatten.head? = some d

/-- A mark of two characters occurs in joined pieces if it occurs in one of them, or its characters
meet where they are joined. -/
lemma contains_flatten_iff (c d : Char) (pieces : List Text) :
    contains [c, d] pieces.flatten = true ↔
      (∃ piece ∈ pieces, contains [c, d] piece = true) ∨ HasSeam c d pieces := by
  constructor
  · intro h
    induction pieces with
    | nil => cases h
    | cons piece pieces ih =>
      rw [List.flatten_cons, contains_append_pair_iff] at h
      rcases h with hpiece | hmore | ⟨hlast, hhead⟩
      · exact .inl ⟨piece, List.mem_cons_self, hpiece⟩
      · rcases ih hmore with ⟨other, hmem, hother⟩ | ⟨front, back, rfl, hlast, hhead⟩
        · exact .inl ⟨other, List.mem_cons_of_mem _ hmem, hother⟩
        · refine .inr ⟨piece :: front, back, rfl, ?_, hhead⟩
          rw [List.flatten_cons, List.getLast?_append, hlast]
          rfl
      · refine .inr ⟨[piece], pieces, rfl, ?_, hhead⟩
        rw [List.flatten_singleton, hlast]
  · rintro (⟨piece, hmem, hpiece⟩ | ⟨front, back, rfl, hlast, hhead⟩)
    · obtain ⟨front, back, rfl⟩ := List.append_of_mem hmem
      rw [contains_eq_true_iff] at hpiece ⊢
      rw [List.flatten_append, List.flatten_cons, ← List.append_assoc]
      exact hpiece.trans (List.infix_append _ _ _)
    · rw [List.flatten_append, contains_append_pair_iff]
      exact .inr (.inr ⟨hlast, hhead⟩)

end ScriptRunner.Text

namespace ScriptRunner.Script

open Text

/-! ## Scans -/

/-- A comment that is closed on its line, with what stands in front of it. -/
structure ClosedComment where
  before : Text
  inside : Text
  deriving DecidableEq, Repr

/-- A closed comment as it is written, behind what stands in front of it. -/
def ClosedComment.text (comment : ClosedComment) : Text :=
  comment.before ++ blockOpen ++ comment.inside ++ blockClose

/-- What is read from left to right: the comments that are closed on a line, each from the first
opener to the first closer behind it, and the rest, in which no closer stands behind the first
opener. -/
structure IsScan (line : Text) (comments : List ClosedComment) (rest : Text) : Prop where
  line_eq : line = comments.flatMap ClosedComment.text ++ rest
  before : ∀ comment ∈ comments, contains blockOpen comment.before = false
  inside : ∀ comment ∈ comments, contains blockClose comment.inside = false
  rest : ∀ front behind, rest = front ++ blockOpen ++ behind → contains blockOpen front = false →
    contains blockClose behind = false

/-- The pieces of a line that stand outside of its closed comments. -/
def pieces (comments : List ClosedComment) (rest : Text) : List Text :=
  comments.map ClosedComment.before ++ [rest]

variable {line rest rest' : Text} {comment : ClosedComment}
  {comments comments' : List ClosedComment}

/-- An opener is found where it stands, if none stands before. -/
lemma cut_blockOpen {front : Text} (behind : Text) (h : contains blockOpen front = false) :
    cut blockOpen (front ++ blockOpen ++ behind) = some (front, behind) :=
  cut_append_pair (by decide) behind h

/-- A closer is found where it stands, if none stands before. -/
lemma cut_blockClose {front : Text} (behind : Text) (h : contains blockClose front = false) :
    cut blockClose (front ++ blockClose ++ behind) = some (front, behind) :=
  cut_append_pair (by decide) behind h

/-- A line is its own rest if no closer stands behind its first opener. -/
lemma isScan_nil_iff :
    IsScan line [] rest ↔ line = rest ∧
      ∀ front behind, cut blockOpen line = some (front, behind) → cut blockClose behind = none := by
  constructor
  · rintro ⟨rfl, -, -, hrest⟩
    refine ⟨rfl, fun front behind hcut => ?_⟩
    exact cut_eq_none_iff.mpr
      (hrest front behind (append_of_cut hcut) (contains_eq_false_of_cut (by decide) hcut))
  · rintro ⟨rfl, hcuts⟩
    refine ⟨rfl, by simp, by simp, ?_⟩
    rintro front behind rfl hfront
    exact cut_eq_none_iff.mp (hcuts front behind (cut_blockOpen behind hfront))

/-- The first comment of a line is found by cutting at the first opener, and then at the first
closer behind it. The others are those of what stands behind. -/
lemma isScan_cons_iff :
    IsScan line (comment :: comments) rest ↔
      ∃ body behind, cut blockOpen line = some (comment.before, body) ∧
        cut blockClose body = some (comment.inside, behind) ∧ IsScan behind comments rest := by
  constructor
  · rintro ⟨hline, hbefore, hinside, hrest⟩
    rw [List.forall_mem_cons] at hbefore hinside
    refine ⟨comment.inside ++ blockClose ++ (comments.flatMap ClosedComment.text ++ rest), _, ?_,
      cut_blockClose _ hinside.1, rfl, hbefore.2, hinside.2, hrest⟩
    rw [hline, ← cut_blockOpen _ hbefore.1]
    simp [ClosedComment.text]
  · rintro ⟨body, behind, hopen, hclose, ⟨rfl, hbefore, hinside, hrest⟩⟩
    refine ⟨?_, ?_, ?_, hrest⟩
    · rw [append_of_cut hopen, append_of_cut hclose]
      simp [ClosedComment.text]
    · exact List.forall_mem_cons.mpr ⟨contains_eq_false_of_cut (by decide) hopen, hbefore⟩
    · exact List.forall_mem_cons.mpr ⟨contains_eq_false_of_cut (by decide) hclose, hinside⟩

/-- Every line can be scanned, and stripping it leaves the pieces outside of its comments. -/
lemma exists_isScan (line : Text) :
    ∃ comments rest, IsScan line comments rest ∧
      stripComments line = (pieces comments rest).flatten := by
  fun_induction stripComments line with
  | case1 line hopen =>
    refine ⟨[], line, isScan_nil_iff.mpr ⟨rfl, fun front behind hcut => ?_⟩, by simp [pieces]⟩
    rw [hopen] at hcut
    cases hcut
  | case2 line before body hopen hclose =>
    refine ⟨[], line, isScan_nil_iff.mpr ⟨rfl, fun front behind hcut => ?_⟩, by simp [pieces]⟩
    rw [hopen] at hcut
    cases hcut
    exact hclose
  | case3 line before body hopen inside behind hclose hlt ih =>
    obtain ⟨comments, rest, hscan, hstrip⟩ := ih
    refine ⟨⟨before, inside⟩ :: comments, rest,
      isScan_cons_iff.mpr ⟨body, behind, hopen, hclose, hscan⟩, ?_⟩
    rw [hstrip]
    rfl

/-- There is one scan of a line. -/
lemma IsScan.eq_of_isScan (h : IsScan line comments rest) (h' : IsScan line comments' rest') :
    comments = comments' ∧ rest = rest' := by
  induction comments generalizing line comments' with
  | nil =>
    obtain ⟨rfl, hcuts⟩ := isScan_nil_iff.mp h
    cases comments' with
    | nil => exact ⟨rfl, (isScan_nil_iff.mp h').1⟩
    | cons comment' comments' =>
      obtain ⟨body, behind, hopen, hclose, -⟩ := isScan_cons_iff.mp h'
      rw [hcuts _ _ hopen] at hclose
      cases hclose
  | cons comment comments ih =>
    obtain ⟨body, behind, hopen, hclose, hscan⟩ := isScan_cons_iff.mp h
    cases comments' with
    | nil =>
      rw [(isScan_nil_iff.mp h').2 _ _ hopen] at hclose
      cases hclose
    | cons comment' comments' =>
      obtain ⟨body', behind', hopen', hclose', hscan'⟩ := isScan_cons_iff.mp h'
      obtain ⟨hbefore, rfl⟩ := Prod.mk.inj (Option.some.inj (hopen.symm.trans hopen'))
      obtain ⟨hinside, rfl⟩ := Prod.mk.inj (Option.some.inj (hclose.symm.trans hclose'))
      obtain ⟨rfl, rfl⟩ := ih hscan hscan'
      obtain ⟨before, inside⟩ := comment
      obtain rfl : before = comment'.before := hbefore
      obtain rfl : inside = comment'.inside := hinside
      exact ⟨rfl, rfl⟩

/-- What holds of some scan of a line holds of the one that is at hand. -/
lemma IsScan.exists_iff (h : IsScan line comments rest) (p : List ClosedComment → Text → Prop) :
    (∃ comments rest, IsScan line comments rest ∧ p comments rest) ↔ p comments rest := by
  constructor
  · rintro ⟨comments', rest', hscan, hp⟩
    obtain ⟨rfl, rfl⟩ := h.eq_of_isScan hscan
    exact hp
  · intro hp
    exact ⟨comments, rest, h, hp⟩

/-- Stripping leaves the pieces outside of the comments, each joined to the next. -/
lemma IsScan.stripComments_eq (h : IsScan line comments rest) :
    stripComments line = (pieces comments rest).flatten := by
  obtain ⟨comments', rest', hscan, hstrip⟩ := exists_isScan line
  obtain ⟨rfl, rfl⟩ := h.eq_of_isScan hscan
  exact hstrip

/-- Of the pieces of a line only the rest can have an opener. -/
lemma IsScan.exists_blockOpen_iff (h : IsScan line comments rest) :
    (∃ piece ∈ pieces comments rest, contains blockOpen piece = true) ↔
      contains blockOpen rest = true := by
  constructor
  · rintro ⟨piece, hmem, hpiece⟩
    rcases List.mem_append.mp hmem with hmem | hmem
    · obtain ⟨comment, hcomment, rfl⟩ := List.mem_map.mp hmem
      rw [h.before comment hcomment] at hpiece
      cases hpiece
    · rwa [← List.mem_singleton.mp hmem]
  · intro hrest
    exact ⟨rest, List.mem_append_right _ (List.mem_singleton_self rest), hrest⟩

end ScriptRunner.Script
