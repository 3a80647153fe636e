import ScriptRunner.FileTree.Basic

/-!
# The order of siblings

Of the entries of a directory, files and links come first, then directories, each in the order of
their names as byte strings. `inOrder` brings entries into this order whatever order they are listed
in (`inOrder_perm`, `pairwise_inOrder`).
-/

namespace ScriptRunner.Walk

/-- The order of siblings: directories last, then by name. -/
def siblingLe (a b : Name × Kind) : Bool :=
  if (a.2 = .directory) = (b.2 = .directory) then decide (a.1 ≤ b.1)
  else decide (b.2 = .directory)

/-- Siblings in order, with one more where it belongs among them. -/
def insertSibling (e : Name × Kind) : List (Name × Kind) → List (Name × Kind)
  | [] => [e]
  | f :: rest => if siblingLe e f then e :: f :: rest else f :: insertSibling e rest

/-- The entries of a directory in the order of the walk. -/
def inOrder (entries : List (Name × Kind)) : List (Name × Kind) := entries.foldr insertSibling []

theorem insertSibling_perm (e : Name × Kind) (es : List (Name × Kind)) :
    (insertSibling e es).Perm (e :: es) := by
  induction es with
  | nil => exact .refl _
  | cons f rest ih =>
    unfold insertSibling
    split
    · exact .refl _
    · exact (ih.cons f).trans (.swap e f rest)

/-- No entry is lost, and none is added. -/
theorem inOrder_perm (entries : List (Name × Kind)) : (inOrder entries).Perm entries := by
  induction entries with
  | nil => exact .refl _
  | cons e rest ih => exact (insertSibling_perm e _).trans (ih.cons e)

theorem siblingLe_total (a b : Name × Kind) : siblingLe a b ∨ siblingLe b a := by
  unfold siblingLe
  by_cases ha : a.2 = .directory <;> by_cases hb : b.2 = .directory <;>
    simp [ha, hb, Std.le_total]

theorem siblingLe_trans {a b c : Name × Kind} (hab : siblingLe a b) (hbc : siblingLe b c) :
    siblingLe a c := by
  unfold siblingLe at *
  by_cases ha : a.2 = .directory <;> by_cases hb : b.2 = .directory <;>
    by_cases hc : c.2 = .directory <;> simp [ha, hb, hc] at * <;> exact Std.le_trans hab hbc

theorem pairwise_insertSibling {e : Name × Kind} {es : List (Name × Kind)}
    (h : es.Pairwise (siblingLe · ·)) : (insertSibling e es).Pairwise (siblingLe · ·) := by
  induction es with
  | nil => exact List.pairwise_singleton _ _
  | cons f rest ih =>
    obtain ⟨hf, hrest⟩ := List.pairwise_cons.1 h
    unfold insertSibling
    split
    next he =>
      refine List.pairwise_cons.2 ⟨fun x hx => ?_, h⟩
      rcases List.mem_cons.1 hx with rfl | hx
      · exact he
      · exact siblingLe_trans he (hf x hx)
    next he =>
      refine List.pairwise_cons.2 ⟨fun x hx => ?_, ih hrest⟩
      rcases List.mem_cons.1 ((insertSibling_perm e rest).subset hx) with rfl | hx
      · exact (siblingLe_total x f).resolve_left he
      · exact hf x hx

/-- Each entry comes before those that are greater. -/
theorem pairwise_inOrder (entries : List (Name × Kind)) :
    (inOrder entries).Pairwise (siblingLe · ·) := by
  induction entries with
  | nil => exact .nil
  | cons e rest ih => exact pairwise_insertSibling ih

end ScriptRunner.Walk
