import Mathlib
import ScriptRunner.FileTree.Basic

/-!
# The names on a path

A path is read as the names on it, which are its parts other than the empty ones (`Path.names`).
The path of an entry has one name more than that of its directory (`names_child`). From the path to
the position of a directory, the path of an entry is that to its own position (`child_ofLocation`).
-/

namespace ScriptRunner

open Text

namespace Path

variable {a b directory path : Path} {name : Name} {location : Location}

/-- The names on a path, from the top on. -/
def names (path : Path) : Location := (parts path).filter (· ≠ [])

/-- A path has a part, even if it is empty. -/
lemma parts_ne_nil (path : Path) : parts path ≠ [] := by
  fun_cases parts path with
  | case1 => exact List.cons_ne_nil _ _
  | case2 => exact List.cons_ne_nil _ _
  | case3 => exact List.cons_ne_nil _ _
  | case4 => exact List.cons_ne_nil _ _

/-- A slash ends an empty part. -/
lemma parts_cons_slash (path : Path) : parts (slash :: path) = [] :: parts path := by
  rw [parts, if_pos rfl]

/-- A byte other than the slash belongs to the first part. -/
lemma parts_cons_of_ne {c : UInt8} (h : c ≠ slash) (path : Path) :
    parts (c :: path) = (c :: (parts path).head (parts_ne_nil path)) :: (parts path).tail := by
  obtain ⟨part, more, hparts⟩ := List.exists_cons_of_ne_nil (parts_ne_nil path)
  rw [parts, if_neg h]
  simp only [hparts, List.head_cons, List.tail_cons]

/-- A slash divides a path into the parts in front of it and those behind it. -/
lemma parts_append_slash (a b : Path) : parts (a ++ slash :: b) = parts a ++ parts b := by
  induction a with
  | nil => exact parts_cons_slash b
  | cons c a ih =>
    rw [List.cons_append]
    by_cases hc : c = slash
    · rw [hc, parts_cons_slash, parts_cons_slash, ih, List.cons_append]
    · obtain ⟨part, more, hparts⟩ := List.exists_cons_of_ne_nil (parts_ne_nil a)
      rw [parts_cons_of_ne hc, parts_cons_of_ne hc]
      simp only [ih, hparts, List.cons_append, List.head_cons, List.tail_cons]

/-- A name without a slash is its only part. -/
lemma parts_of_notMem (h : slash ∉ name) : parts name = [name] := by
  induction name with
  | nil => rfl
  | cons c name ih =>
    rw [List.mem_cons, not_or] at h
    rw [parts_cons_of_ne (Ne.symm h.1)]
    simp only [ih h.2, List.head_cons, List.tail_cons]

/-- A slash divides a path into the names in front of it and those behind it. -/
lemma names_append_slash (a b : Path) : names (a ++ slash :: b) = names a ++ names b := by
  rw [names, parts_append_slash, List.filter_append, names, names]

/-- A name is the only one on the path that it is. -/
lemma names_of_isValid (h : name.IsValid) : names name = [name] := by
  rw [names, parts_of_notMem h.slash_notMem, List.filter_singleton]
  simp [h.ne_nil]

/-- The path of an entry has the names of its directory, and the name of the entry behind them. -/
lemma names_child (directory : Path) (h : name.IsValid) :
    names (child directory name) = names directory ++ [name] := by
  rw [child]
  split
  next hslash =>
    -- The path of the directory ends with the slash that divides it from the name.
    obtain ⟨front, rfl⟩ := List.getLast?_eq_some_iff.1 hslash.1
    have hempty : names ([] : Path) = [] := rfl
    rw [List.append_assoc, List.singleton_append, names_append_slash, names_append_slash, hempty,
      List.append_nil, names_of_isValid h]
  next => rw [names_append_slash, names_of_isValid h]

/-- Slashes with names behind them have these names as their parts. -/
lemma parts_append_flatMap (a : Path) (h : ∀ name ∈ location, name.IsValid) :
    parts (a ++ location.flatMap (slash :: ·)) = parts a ++ location := by
  induction location generalizing a with
  | nil => rw [List.flatMap_nil, List.append_nil, List.append_nil]
  | cons name rest ih =>
    have hname : parts name = [name] := parts_of_notMem (h name List.mem_cons_self).slash_notMem
    rw [List.flatMap_cons, ← List.append_assoc, ih _ fun n hn => h n (List.mem_cons_of_mem _ hn),
      parts_append_slash, hname, List.append_assoc, List.singleton_append]

/-- The parts of the path to a position other than the top. -/
lemma parts_ofLocation (hne : location ≠ []) (h : ∀ name ∈ location, name.IsValid) :
    parts (ofLocation location) = [] :: location := by
  obtain ⟨name, rest, rfl⟩ := List.exists_cons_of_ne_nil hne
  exact parts_append_flatMap [] h

/-- The path to a position starts at the top. -/
lemma isAbsolute_ofLocation (location : Location) : isAbsolute (ofLocation location) = true := by
  cases location <;> rfl

/-- The path of an entry starts at the top if that of its directory does. -/
lemma isAbsolute_child (h : isAbsolute directory = true) (name : Name) :
    isAbsolute (child directory name) = true := by
  cases directory with
  | nil => cases h
  | cons c rest =>
    rw [child]
    split
    · exact h
    · exact h

/-- The path of an entry of a directory is the path to its position. -/
lemma child_ofLocation (h : ∀ part ∈ location ++ [name], part.IsValid) :
    child (ofLocation location) name = ofLocation (location ++ [name]) := by
  have hname : name ≠ [] := (h name (by simp)).ne_nil
  cases location using List.reverseRecOn with
  | nil => simp [child, ofLocation, hname]
  | append_singleton location last =>
    have hlast : last.IsValid := h last (by simp)
    have hof : ∀ front : Location, ∀ part : Name,
        ofLocation (front ++ [part]) = front.flatMap (slash :: ·) ++ slash :: part := by
      intro front part
      have hne : front ++ [part] ≠ [] := by simp
      rw [ofLocation, List.flatMap_append, List.flatMap_singleton]
      exact hne
    -- The path to a position other than the top ends with the last byte of a name.
    have hslash : (ofLocation (location ++ [last])).getLast? ≠ some slash := by
      intro hend
      obtain ⟨part, byte, rfl⟩ := (List.eq_nil_or_concat' last).resolve_left hlast.ne_nil
      rw [hof, ← List.cons_append, ← List.append_assoc, List.getLast?_concat] at hend
      exact hlast.slash_notMem (by rw [← Option.some.inj hend]; simp)
    rw [child, if_neg fun hboth => hslash hboth.1, hof (location ++ [last]) name, hof,
      List.flatMap_append, List.flatMap_singleton]

end Path

end ScriptRunner
