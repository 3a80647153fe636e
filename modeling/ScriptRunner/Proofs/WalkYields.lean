import Mathlib
import ScriptRunner.Proofs.Lookups
import ScriptRunner.Proofs.WalkItems

/-!
# What a walk can yield

A walk comes to every entry of a directory once, and finds it in the tree as it is at that time. Of
each entry it then yields nothing, one item, or all that it yields of the directory that the entry
is. `Walk.Yields` says which items it can yield of some entries if it may see any of certain trees
each time it looks at one. The steps of a walk in trees that change from call to call are such a
yield, once the walk is at its end (`framesYield_of_none_mem_answers`).

A yield says nothing of the order of steps, nor of the directories that the walk has yet to come
back to. Whatever holds of all yields, by induction on them, holds of all walks.
-/

namespace ScriptRunner

open Text

namespace Walk

/-- The items that a walk can yield of some entries of a directory, where it sees the tree as one
of `seen` whenever it comes to an entry. -/
inductive Yields (seen : FileTree → Prop) (extension : Text) :
    Path → List (Name × Kind) → List Item → Prop
  /-- There are no entries. -/
  | nil (directory : Path) : Yields seen extension directory [] []
  /-- An entry is no script. -/
  | skipped {directory : Path} {name : Name} {kind : Kind} {rest : List (Name × Kind)}
      {items : List Item} (tree : FileTree) (hseen : seen tree) (hkind : kind ≠ .directory)
      (hscript : isScript tree extension (Path.child directory name) name kind = false)
      (hrest : Yields seen extension directory rest items) :
      Yields seen extension directory ((name, kind) :: rest) items
  /-- An entry is a script. -/
  | script {directory : Path} {name : Name} {kind : Kind} {rest : List (Name × Kind)}
      {items : List Item} (tree : FileTree) (hseen : seen tree) (hkind : kind ≠ .directory)
      (hscript : isScript tree extension (Path.child directory name) name kind = true)
      (hrest : Yields seen extension directory rest items) :
      Yields seen extension directory ((name, kind) :: rest)
        (.ok ⟨Path.child directory name, name⟩ :: items)
  /-- A directory cannot be opened. -/
  | unopened {directory : Path} {name : Name} {rest : List (Name × Kind)} {items : List Item}
      (tree : FileTree) (hseen : seen tree) {error : FileError}
      (henter : enter tree (Path.child directory name) = .error error)
      (hrest : Yields seen extension directory rest items) :
      Yields seen extension directory ((name, .directory) :: rest)
        (failed (Path.child directory name) error :: items)
  /-- A directory is listed, and comes before what is behind it. -/
  | entered {directory : Path} {name : Name} {rest listed : List (Name × Kind)}
      {items inner : List Item} (tree : FileTree) (hseen : seen tree)
      (henter : enter tree (Path.child directory name) = .ok listed)
      (hinner : Yields seen extension (Path.child directory name) listed inner)
      (hrest : Yields seen extension directory rest items) :
      Yields seen extension directory ((name, .directory) :: rest) (inner ++ items)

/-- The items that a walk can yield of all the entries in some frames. -/
inductive FramesYield (seen : FileTree → Prop) (extension : Text) : List Frame → List Item → Prop
  | nil : FramesYield seen extension [] []
  | cons {frame : Frame} {frames : List Frame} {items more : List Item}
      (hframe : Yields seen extension frame.directory frame.entries items)
      (hframes : FramesYield seen extension frames more) :
      FramesYield seen extension (frame :: frames) (items ++ more)

variable {seen : FileTree → Prop} {tree : FileTree} {extension : Text} {directory root : Path}
  {entries rest listed : List (Name × Kind)} {item : Item} {items : List Item}
  {frames inner outer : List Frame} {walk : Walk} {trees : List FileTree}

/-- What the entries of a single frame yield. -/
lemma framesYield_singleton :
    FramesYield seen extension [⟨directory, entries⟩] items ↔
      Yields seen extension directory entries items := by
  constructor
  · intro h
    cases h with
    | cons hframe hframes =>
      cases hframes
      rwa [List.append_nil]
  · intro h
    rw [← List.append_nil items]
    exact .cons h .nil

/-- What frames yield is what the inner ones yield, and behind it what the outer ones do. -/
lemma exists_of_framesYield_append (h : FramesYield seen extension (inner ++ outer) items) :
    ∃ first last, items = first ++ last ∧ FramesYield seen extension inner first ∧
      FramesYield seen extension outer last := by
  induction inner generalizing items with
  | nil => exact ⟨[], items, rfl, .nil, h⟩
  | cons frame inner ih =>
    cases h with
    | cons hframe hframes =>
      obtain ⟨first, last, rfl, hinner, houter⟩ := ih hframes
      exact ⟨_, last, (List.append_assoc _ _ _).symm, .cons hframe hinner, houter⟩

/-! ## Opening a directory -/

/-- The entries of a directory are those that are listed, in the order of siblings. -/
lemma enter_of_list (h : tree.list directory = .ok entries) :
    enter tree directory = .ok (inOrder entries) := by
  rw [enter, h]
  rfl

/-- A directory that can be opened is listed. -/
lemma exists_list_of_enter (h : enter tree directory = .ok listed) :
    ∃ entries, tree.list directory = .ok entries ∧ listed = inOrder entries := by
  rw [enter] at h
  cases hlist : tree.list directory with
  | error error =>
    rw [hlist] at h
    cases h
  | ok entries =>
    rw [hlist] at h
    exact ⟨entries, rfl, (Except.ok.inj h).symm⟩

/-- A root that can be listed is opened without an item. -/
lemma openRoot_of_enter (h : enter tree root = .ok listed) :
    openRoot tree extension root = (none, [⟨root, listed⟩]) := by
  obtain ⟨entries, hlist, -⟩ := exists_list_of_enter h
  obtain ⟨location, below, access, hfind, -⟩ := FileTree.exists_of_list_eq_ok hlist
  rw [openRoot]
  rcases FileTree.find_without_last hfind with hlast | ⟨place, target, hlast⟩
  · rw [hlast, h]
    rfl
  · rw [hlast, hfind, h]
    rfl

/-- A root that cannot be listed is an item itself, or there is none. -/
lemma openRoot_of_error {error : FileError} (h : enter tree root = .error error) :
    ∃ found, openRoot tree extension root = (found, []) := by
  rw [openRoot, h]
  dsimp only
  split
  · exact ⟨_, rfl⟩
  split
  · exact ⟨_, rfl⟩
  · split
    · exact ⟨_, rfl⟩
    split
    · exact ⟨_, rfl⟩
    · exact ⟨_, rfl⟩
  · exact ⟨_, rfl⟩

/-! ## One search -/

/-- What holds of entries if it holds of those that a search looks at before: those behind, and in
front of them those of a directory that can be listed. -/
@[elab_as_elim]
lemma entries_induction (tree : FileTree) {motive : Path → List (Name × Kind) → Prop}
    (nil : ∀ directory, motive directory [])
    (other : ∀ directory name kind rest, kind ≠ .directory → motive directory rest →
      motive directory ((name, kind) :: rest))
    (unopened : ∀ directory name rest error, enter tree (Path.child directory name) = .error error →
      motive directory rest → motive directory ((name, .directory) :: rest))
    (entered : ∀ directory name rest listed, enter tree (Path.child directory name) = .ok listed →
      motive (Path.child directory name) listed → motive directory rest →
      motive directory ((name, .directory) :: rest))
    (directory : Path) (entries : List (Name × Kind)) : motive directory entries := by
  -- The induction is on the room below the directory, and within it on the entries.
  induction hroom : room directory using Nat.strong_induction_on generalizing directory entries with
  | _ n ih =>
  induction entries with
  | nil => exact nil directory
  | cons entry rest ihrest =>
    obtain ⟨name, kind⟩ := entry
    by_cases hkind : kind = .directory
    · subst hkind
      cases henter : enter tree (Path.child directory name) with
      | error error => exact unopened directory name rest error henter ihrest
      | ok listed =>
        exact entered directory name rest listed henter
          (ih _ (hroom ▸ room_child_lt henter) _ listed rfl) ihrest
    · exact other directory name kind rest hkind ihrest

/-- A search that finds nothing has come to all entries, and one that finds an item has come to
those in front of it. -/
lemma yields_of_search (hseen : seen tree) (extension : Text) (directory : Path)
    (entries : List (Name × Kind)) :
    match search tree extension directory entries with
    | none => Yields seen extension directory entries []
    | some (item, frames) => ∀ items, FramesYield seen extension frames items →
        Yields seen extension directory entries (item :: items) := by
  induction directory, entries using entries_induction tree with
  | nil directory =>
    rw [search_nil]
    exact .nil directory
  | other directory name kind rest hkind ih =>
    rw [search_cons_of_ne hkind]
    cases hscript : isScript tree extension (Path.child directory name) name kind with
    | true =>
      intro items hitems
      exact .script tree hseen hkind hscript (framesYield_singleton.1 hitems)
    | false =>
      rw [if_neg Bool.false_ne_true]
      cases hsearch : search tree extension directory rest with
      | none =>
        rw [hsearch] at ih
        exact .skipped tree hseen hkind hscript ih
      | some found =>
        rw [hsearch] at ih
        exact fun items hitems => .skipped tree hseen hkind hscript (ih items hitems)
  | unopened directory name rest error henter ih =>
    rw [search_cons_of_error henter]
    exact fun items hitems => .unopened tree hseen henter (framesYield_singleton.1 hitems)
  | entered directory name rest listed henter ihinner ih =>
    rw [search_cons_of_ok henter]
    cases hinner : search tree extension (Path.child directory name) listed with
    | some found =>
      rw [hinner] at ihinner
      intro items hitems
      -- The rest of the inner directory comes first, and then the rest of this one.
      obtain ⟨first, last, rfl, hfirst, hlast⟩ := exists_of_framesYield_append hitems
      exact .entered tree hseen henter (ihinner first hfirst) (framesYield_singleton.1 hlast)
    | none =>
      rw [hinner] at ihinner
      cases hsearch : search tree extension directory rest with
      | none =>
        rw [hsearch] at ih
        exact .entered tree hseen henter ihinner ih
      | some found =>
        rw [hsearch] at ih
        exact fun items hitems => .entered tree hseen henter ihinner (ih items hitems)

/-- The same of a search through frames. -/
lemma framesYield_of_searchFrames (hseen : seen tree) (extension : Text) (frames : List Frame) :
    match searchFrames tree extension frames with
    | none => FramesYield seen extension frames []
    | some (item, behind) => ∀ items, FramesYield seen extension behind items →
        FramesYield seen extension frames (item :: items) := by
  induction frames with
  | nil => exact .nil
  | cons frame outer ih =>
    have hframe := yields_of_search hseen extension frame.directory frame.entries
    rw [searchFrames]
    cases hsearch : search tree extension frame.directory frame.entries with
    | some found =>
      rw [hsearch] at hframe
      intro items hitems
      obtain ⟨first, last, rfl, hfirst, hlast⟩ := exists_of_framesYield_append hitems
      exact .cons (hframe first hfirst) hlast
    | none =>
      rw [hsearch] at hframe
      cases houter : searchFrames tree extension outer with
      | none =>
        rw [houter] at ih
        exact .cons hframe ih
      | some found =>
        rw [houter] at ih
        exact fun items hitems => .cons hframe (ih items hitems)

/-! ## Many calls -/

/-- What the calls of a walk give one after the other, each in the tree as it is then. -/
def answers (extension : Text) : Walk → List FileTree → List (Option Item)
  | _, [] => []
  | walk, tree :: trees =>
    (walk.next tree extension).1 :: answers extension (walk.next tree extension).2 trees

/-- The walk behind some calls. -/
def after (extension : Text) : Walk → List FileTree → Walk
  | walk, [] => walk
  | walk, tree :: trees => after extension (walk.next tree extension).2 trees

/-- Calls give what they would give if no others came behind them. -/
lemma answers_append (walk : Walk) (trees more : List FileTree) :
    answers extension walk (trees ++ more) =
      answers extension walk trees ++ answers extension (after extension walk trees) more := by
  induction trees generalizing walk with
  | nil => rfl
  | cons tree trees ih => exact congrArg _ (ih _)

/-- A call in some frames gives what a search through them finds. -/
lemma next_within (tree : FileTree) (extension : Text) (frames : List Frame) :
    (within frames).next tree extension =
      match searchFrames tree extension frames with
      | some (item, behind) => (some item, within behind)
      | none => (none, within []) := rfl

/-- Behind its end a walk gives nothing any more. -/
lemma reduceOption_answers_nil (extension : Text) (trees : List FileTree) :
    (answers extension (within []) trees).reduceOption = [] := by
  induction trees with
  | nil => rfl
  | cons tree trees ih => exact ih

/-- A walk that has come to its end has yielded what the entries in its frames can yield. -/
lemma framesYield_of_none_mem_answers (hseen : ∀ tree ∈ trees, seen tree)
    (hend : none ∈ answers extension (within frames) trees) :
    FramesYield seen extension frames (answers extension (within frames) trees).reduceOption := by
  induction trees generalizing frames with
  | nil => cases hend
  | cons tree trees ih =>
    have hsearch := framesYield_of_searchFrames (hseen tree List.mem_cons_self) extension frames
    rw [answers, next_within] at hend ⊢
    cases hfound : searchFrames tree extension frames with
    | none =>
      rw [hfound] at hsearch
      simpa [reduceOption_answers_nil] using hsearch
    | some found =>
      obtain ⟨item, behind⟩ := found
      rw [hfound] at hsearch hend
      have hbehind : none ∈ answers extension (within behind) trees := by simpa using hend
      simpa using hsearch _ (ih (fun t ht => hseen t (List.mem_cons_of_mem _ ht)) hbehind)

end Walk

end ScriptRunner
