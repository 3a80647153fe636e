import Mathlib
import ScriptRunner.Locator.Root

/-!
# The items of a walk

`Walk.items` takes as many items as the budget of the walk allows. Each step of a walk through a
tree that stays as it is uses up some of the budget (`budget_lt_of_next`), because the item it
yields is one of the entries that the budget counts. So the budget never cuts a walk short, and the
items are those that one step after the other yields (`items_eq`).
-/

namespace ScriptRunner

open Text

namespace Walk

variable {tree : FileTree} {extension : Text} {directory : Path} {name : Name} {kind : Kind}
  {rest listed : List (Name × Kind)} {item : Item} {frames : List Frame} {walk behind : Walk}

/-! ## Looking for an item -/

/-- No entries, no item. -/
lemma search_nil : search tree extension directory [] = none := by
  rw [search, searchWith]

/-- A directory that cannot be opened is an item itself. -/
lemma search_cons_of_error {e : FileError}
    (h : enter tree (Path.child directory name) = .error e) :
    search tree extension directory ((name, .directory) :: rest) =
      some (failed (Path.child directory name) e, [⟨directory, rest⟩]) := by
  rw [search, searchWith, if_pos rfl]
  split
  · simp_all
  · simp_all

/-- A directory is searched before what comes behind it. -/
lemma search_cons_of_ok (h : enter tree (Path.child directory name) = .ok listed) :
    search tree extension directory ((name, .directory) :: rest) =
      match search tree extension (Path.child directory name) listed with
      | some (item, frames) => some (item, frames ++ [⟨directory, rest⟩])
      | none => search tree extension directory rest := by
  rw [search, searchWith, if_pos rfl]
  split
  · simp_all
  · next opened hopened =>
    obtain rfl : opened = listed := by rw [h] at hopened; exact (Except.ok.inj hopened).symm
    rewrite [search]
    rfl

/-- An entry that is no directory is an item if it is a script. -/
lemma search_cons_of_ne (h : kind ≠ .directory) :
    search tree extension directory ((name, kind) :: rest) =
      if isScript tree extension (Path.child directory name) name kind then
        some (.ok ⟨Path.child directory name, name⟩, [⟨directory, rest⟩])
      else search tree extension directory rest := by
  rw [search, searchWith, if_neg h]

/-! ## Counting entries -/

/-- One more count adds to the sum. -/
lemma total_cons (count : ℕ) (counts : List ℕ) : total (count :: counts) = count + total counts :=
  rfl

/-- The counts of two lists add up. -/
lemma total_append (counts more : List ℕ) :
    total (counts ++ more) = total counts + total more := by
  induction counts with
  | nil => exact (Nat.zero_add _).symm
  | cons count counts ih => rw [List.cons_append, total_cons, ih, total_cons, Nat.add_assoc]

/-- How many entries there are in some frames and below them. -/
def framesExtent (tree : FileTree) (frames : List Frame) : ℕ :=
  total (frames.map fun f => extent tree f.directory f.entries)

/-- The entries of two lists of frames add up. -/
lemma framesExtent_append (tree : FileTree) (inner outer : List Frame) :
    framesExtent tree (inner ++ outer) = framesExtent tree inner + framesExtent tree outer := by
  rw [framesExtent, List.map_append, total_append]
  rfl

/-- The entries of a single frame. -/
lemma framesExtent_singleton (tree : FileTree) (frame : Frame) :
    framesExtent tree [frame] = extent tree frame.directory frame.entries := rfl

/-- Every entry counts. -/
lemma extent_lt_extent_cons (tree : FileTree) (directory : Path) (entry : Name × Kind)
    (rest : List (Name × Kind)) :
    extent tree directory rest < extent tree directory (entry :: rest) := by
  rw [extent, extent, List.map_cons, total_cons]
  have hentry : ∀ n m : ℕ, 0 < n → m < n + m := fun n m h => by omega
  refine hentry _ _ ?_
  split
  · split
    · exact Nat.one_pos
    · exact Nat.add_pos_left Nat.one_pos _
  · exact Nat.one_pos

/-- A directory counts with all that is listed in it. -/
lemma extent_cons_of_ok (h : enter tree (Path.child directory name) = .ok listed) :
    extent tree directory ((name, .directory) :: rest) =
      1 + extent tree (Path.child directory name) listed + extent tree directory rest := by
  rw [extent, List.map_cons, total_cons, if_pos rfl, ← extent]
  congr 1
  split
  · simp_all
  · next opened hopened =>
    obtain rfl : opened = listed := by rw [h] at hopened; exact (Except.ok.inj hopened).symm
    rfl

/-! ## Steps use up the budget -/

/-- Fewer entries remain behind an item than were searched for it. -/
lemma framesExtent_lt_of_search {entries : List (Name × Kind)}
    (h : search tree extension directory entries = some (item, frames)) :
    framesExtent tree frames < extent tree directory entries := by
  -- The induction is on the room below the directory, and within it on the entries.
  induction hroom : room directory using Nat.strong_induction_on
    generalizing directory entries item frames with
  | _ n ih =>
  induction entries generalizing item frames with
  | nil => simp [search_nil] at h
  | cons entry rest ihrest =>
    obtain ⟨name, kind⟩ := entry
    have hrest := extent_lt_extent_cons tree directory (name, kind) rest
    by_cases hkind : kind = .directory
    · subst hkind
      cases henter : enter tree (Path.child directory name) with
      | error e =>
        rw [search_cons_of_error henter] at h
        obtain ⟨-, rfl⟩ := Prod.mk.inj (Option.some.inj h)
        rwa [framesExtent_singleton]
      | ok listed =>
        rw [search_cons_of_ok henter] at h
        rw [extent_cons_of_ok henter] at hrest ⊢
        cases hbelow : search tree extension (Path.child directory name) listed with
        | none =>
          rw [hbelow] at h
          exact (ihrest h).trans hrest
        | some found =>
          obtain ⟨foundItem, inner⟩ := found
          rw [hbelow] at h
          obtain ⟨-, rfl⟩ := Prod.mk.inj (Option.some.inj h)
          have hinner : framesExtent tree inner < extent tree (Path.child directory name) listed :=
            ih _ (hroom ▸ room_child_lt henter) hbelow rfl
          rw [framesExtent_append, framesExtent_singleton]
          dsimp only
          omega
    · rw [search_cons_of_ne hkind] at h
      split at h
      · obtain ⟨-, rfl⟩ := Prod.mk.inj (Option.some.inj h)
        rwa [framesExtent_singleton]
      · exact (ihrest h).trans hrest

/-- Fewer entries remain behind an item than there were in the frames. -/
lemma framesExtent_lt_of_searchFrames {outer : List Frame}
    (h : searchFrames tree extension outer = some (item, frames)) :
    framesExtent tree frames < framesExtent tree outer := by
  induction outer with
  | nil => cases h
  | cons frame outer ih =>
    have hcons : framesExtent tree (frame :: outer) =
        extent tree frame.directory frame.entries + framesExtent tree outer := rfl
    rw [searchFrames] at h
    rw [hcons]
    cases hsearch : search tree extension frame.directory frame.entries with
    | none =>
      rw [hsearch] at h
      exact (ih h).trans_le (Nat.le_add_left _ _)
    | some found =>
      obtain ⟨foundItem, inner⟩ := found
      rw [hsearch] at h
      obtain ⟨-, rfl⟩ := Prod.mk.inj (Option.some.inj h)
      rw [framesExtent_append]
      exact Nat.add_lt_add_right (framesExtent_lt_of_search hsearch) _

/-- A root that is opened without an item is searched like any directory. -/
lemma next_unopened {root : Path} (h : openRoot tree extension root = (none, frames)) :
    (unopened root).next tree extension = (within frames).next tree extension := by
  rw [next, h]
  rfl

/-- A step that yields an item uses up some of the budget. -/
lemma budget_lt_of_next (h : walk.next tree extension = (some item, behind)) :
    behind.budget tree extension < walk.budget tree extension := by
  have hframes : ∀ frames : List Frame, (within frames).next tree extension = (some item, behind) →
      behind.budget tree extension < framesExtent tree frames := by
    intro frames h
    rw [next] at h
    rcases hsearch : searchFrames tree extension frames with _ | ⟨found, behindFrames⟩
    · simp [hsearch] at h
    · simp only [hsearch] at h
      obtain ⟨-, rfl⟩ := Prod.mk.inj h
      exact framesExtent_lt_of_searchFrames hsearch
  cases walk with
  | within frames => exact hframes frames h
  | unopened root =>
    rw [budget]
    rcases hopen : openRoot tree extension root with ⟨_ | found, frames⟩
    · rw [next_unopened hopen] at h
      exact (hframes frames h).trans (Nat.lt_add_of_pos_left Nat.one_pos)
    · rw [next, hopen] at h
      obtain ⟨-, rfl⟩ := Prod.mk.inj h
      exact Nat.lt_add_of_pos_left Nat.one_pos

/-! ## All items -/

/-- What the first step yields comes first. -/
lemma takeItems_succ (fuel : ℕ) (walk : Walk) :
    takeItems tree extension (fuel + 1) walk =
      match walk.next tree extension with
      | (none, _) => []
      | (some item, behind) => item :: takeItems tree extension fuel behind := rfl

/-- One more item than the budget allows makes no difference. -/
lemma takeItems_succ_eq {fuel : ℕ} (h : walk.budget tree extension ≤ fuel) :
    takeItems tree extension (fuel + 1) walk = takeItems tree extension fuel walk := by
  induction fuel generalizing walk with
  | zero =>
    rw [takeItems_succ]
    rcases hnext : walk.next tree extension with ⟨_ | item, behind⟩
    · rfl
    · have hlt := budget_lt_of_next hnext
      omega
  | succ fuel ih =>
    rw [takeItems_succ, takeItems_succ]
    rcases hnext : walk.next tree extension with ⟨_ | item, behind⟩
    · rfl
    · have hlt := budget_lt_of_next hnext
      exact congrArg (item :: ·) (ih (by omega))

/-- As many items as the budget allows are all items. -/
lemma takeItems_eq_items {fuel : ℕ} (h : walk.budget tree extension ≤ fuel) :
    takeItems tree extension fuel walk = walk.items tree extension := by
  induction fuel, h using Nat.le_induction with
  | base => rfl
  | succ fuel h ih => rw [takeItems_succ_eq h, ih]

/-- **The items of a walk are those that it yields step by step.** -/
theorem items_eq (tree : FileTree) (extension : Text) (walk : Walk) :
    walk.items tree extension =
      match walk.next tree extension with
      | (none, _) => []
      | (some item, behind) => item :: behind.items tree extension := by
  rw [← takeItems_eq_items (Nat.le_succ _), takeItems_succ]
  rcases hnext : walk.next tree extension with ⟨_ | item, behind⟩
  · rfl
  · exact congrArg (item :: ·) (takeItems_eq_items (budget_lt_of_next hnext).le)

end Walk

namespace Locator

variable {locator : Locator} {tree : FileTree} {root : Path}

/-- There are no scripts under a root that is rejected. -/
lemma scripts_of_error {error : LocateError} (h : locator.resolveRoot tree = .error error) :
    locator.scripts tree = .error error := by
  rw [scripts, start, h]
  rfl

/-- The scripts under a root are the items of a walk that starts there. -/
lemma scripts_of_ok (h : locator.resolveRoot tree = .ok root) :
    locator.scripts tree = .ok ((Walk.unopened root).items tree locator.extension) := by
  rw [scripts, start, h]
  rfl

end Locator

end ScriptRunner
