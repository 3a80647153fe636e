import Mathlib
import ScriptRunner.Locator.Contents
import ScriptRunner.Proofs.WalkOrder

/-!
# A walk yields the contents of its root

In a tree that stays as it is a walk yields the contents of its root
(`Locator.scripts_eq_contents`). Two things are to be shown. Entries in the order of siblings are
the scripts by name with the directories by name behind them, whatever order the operating system
lists them in (`contents_eq`). And a walk that sees only one tree can yield nothing but what each
entry stands for in it, one after the other (`eq_of_yields`).

Which items these are is then a matter of the recursion alone: they come from the directories that
are reached from the root through listings (`mem_contents_iff`). So is what a directory costs that
refuses to be listed: its contents, with one error in their place (`contents_of_refuses`).
-/

namespace ScriptRunner

open Text

namespace Walk

variable {tree : FileTree} {extension : Text} {directory below root : Path} {name : Name}
  {kind : Kind} {entries listed : List (Name × Kind)} {item : Item} {items : List Item}

/-! ## Siblings in order -/

/-- Names are sorted. -/
lemma pairwise_byName (names : List Name) : (byName names).Pairwise (· ≤ ·) := by
  have hsorted : (byName names).Pairwise fun a b => decide (a ≤ b) = true := by
    refine List.pairwise_mergeSort (fun a b c hab hbc => ?_) (fun a b => ?_) names
    · rw [decide_eq_true_iff] at hab hbc ⊢
      exact Std.le_trans hab hbc
    · rw [Bool.or_eq_true, decide_eq_true_iff, decide_eq_true_iff]
      exact Std.le_total
  exact hsorted.imp fun hab => of_decide_eq_true hab

/-- There is one order for the same names. -/
lemma byName_eq (hperm : listed.Perm entries) (hsorted : (listed.map Prod.fst).Pairwise (· ≤ ·)) :
    byName (entries.map Prod.fst) = listed.map Prod.fst := by
  refine List.Perm.eq_of_pairwise (fun a b _ _ => Std.le_antisymm) (pairwise_byName _) hsorted ?_
  exact (List.mergeSort_perm _ _).trans (hperm.map Prod.fst).symm

/-- Siblings of one kind, directory or not, are in the order of their names. -/
lemma pairwise_map_fst_filter (h : listed.Pairwise (siblingLe · ·)) (p : Name × Kind → Bool)
    (hp : ∀ a b, p a = true → p b = true → (a.2 = .directory ↔ b.2 = .directory)) :
    ((listed.filter p).map Prod.fst).Pairwise (· ≤ ·) := by
  rw [List.pairwise_map, List.pairwise_filter]
  refine h.imp fun {a b} hab ha hb => ?_
  rw [siblingLe, if_pos (propext (hp a b ha hb))] at hab
  exact of_decide_eq_true hab

/-- Of siblings in order, all directories come last. -/
lemma filter_append_filter (h : listed.Pairwise (siblingLe · ·)) :
    listed.filter (fun e => decide (e.2 ≠ .directory)) ++
      listed.filter (fun e => decide (e.2 = .directory)) = listed := by
  induction listed with
  | nil => rfl
  | cons e rest ih =>
    obtain ⟨hfirst, hrest⟩ := List.pairwise_cons.1 h
    by_cases he : e.2 = .directory
    · have hall : ∀ f ∈ rest, f.2 = .directory := by
        intro f hf
        by_contra hne
        have hle := hfirst f hf
        rw [siblingLe, he] at hle
        simp [hne] at hle
      have hnone : rest.filter (fun e => decide (e.2 ≠ .directory)) = [] := by
        simpa [List.filter_eq_nil_iff] using hall
      have hsome : rest.filter (fun e => decide (e.2 = .directory)) = rest := by
        simpa [List.filter_eq_self] using hall
      rw [List.filter_cons_of_neg (by simpa using he), List.filter_cons_of_pos (by simpa using he),
        hnone, hsome, List.nil_append]
    · rw [List.filter_cons_of_pos (by simpa using he), List.filter_cons_of_neg (by simpa using he),
        List.cons_append, ih hrest]

/-! ## What entries stand for -/

/-- What an entry of a directory stands for: its contents if it is a directory, else itself if it
is a script. -/
def entryItems (tree : FileTree) (extension : Text) (directory : Path) (entry : Name × Kind) :
    List Item :=
  if entry.2 = .directory then contents tree extension (Path.child directory entry.1)
  else if isScript tree extension (Path.child directory entry.1) entry.1 entry.2 then
    [.ok ⟨Path.child directory entry.1, entry.1⟩]
  else []

/-- A directory is no script. -/
lemma isScript_directory (tree : FileTree) (extension : Text) (path : Path) (name : Name) :
    isScript tree extension path name .directory = false := Bool.and_false _

/-- Entries that are no directories stand for the scripts among them. -/
lemma flatMap_entryItems_of_ne (tree : FileTree) (extension : Text) (directory : Path)
    (entries : List (Name × Kind)) :
    (entries.filter fun e => decide (e.2 ≠ .directory)).flatMap
        (entryItems tree extension directory) =
      ((entries.filter fun e =>
        isScript tree extension (Path.child directory e.1) e.1 e.2).map Prod.fst).map
          fun name => .ok ⟨Path.child directory name, name⟩ := by
  induction entries with
  | nil => rfl
  | cons e rest ih =>
    rw [List.filter_cons, List.filter_cons]
    by_cases hkind : e.2 = .directory
    · have hscript : isScript tree extension (Path.child directory e.1) e.1 e.2 = false := by
        rw [hkind, isScript_directory]
      rw [if_neg (by simpa using hkind), hscript, if_neg Bool.false_ne_true, ih]
    · rw [if_pos (by simpa using hkind), List.flatMap_cons, ih, entryItems, if_neg hkind]
      split
      · rfl
      · rfl

/-- Entries that are directories stand for their contents. -/
lemma flatMap_entryItems_of_eq (tree : FileTree) (extension : Text) (directory : Path)
    (entries : List (Name × Kind)) :
    (entries.filter fun e => decide (e.2 = .directory)).flatMap
        (entryItems tree extension directory) =
      ((entries.filter fun e => decide (e.2 = .directory)).map Prod.fst).flatMap fun name =>
        contents tree extension (Path.child directory name) := by
  rw [List.flatMap_map]
  refine List.flatMap_congr fun e he => ?_
  rw [entryItems, if_pos (of_decide_eq_true (List.mem_filter.1 he).2)]

/-- The contents of a directory are what its entries stand for, in the order of siblings. -/
lemma contents_eq (tree : FileTree) (extension : Text) (directory : Path) :
    contents tree extension directory =
      match enter tree directory with
      | .error error => [failed directory error]
      | .ok listed => listed.flatMap (entryItems tree extension directory) := by
  rw [contents, enter]
  split
  next error hlist =>
    rw [hlist]
    rfl
  next entries hlist =>
    have hsorted := pairwise_inOrder entries
    have hscripts : scriptNames tree extension directory entries =
        ((inOrder entries).filter fun e =>
          isScript tree extension (Path.child directory e.1) e.1 e.2).map Prod.fst := by
      refine byName_eq ((inOrder_perm entries).filter _) (pairwise_map_fst_filter hsorted _ ?_)
      have hfile : ∀ a : Name × Kind,
          isScript tree extension (Path.child directory a.1) a.1 a.2 = true → a.2 ≠ .directory := by
        intro a ha hkind
        rw [hkind, isScript_directory] at ha
        cases ha
      exact fun a b ha hb => iff_of_false (hfile a ha) (hfile b hb)
    have hdirectories : directoryNames entries =
        ((inOrder entries).filter fun e => decide (e.2 = .directory)).map Prod.fst := by
      refine byName_eq ((inOrder_perm entries).filter _) (pairwise_map_fst_filter hsorted _ ?_)
      exact fun a b ha hb => iff_of_true (of_decide_eq_true ha) (of_decide_eq_true hb)
    have henter : (tree.list directory).map inOrder = .ok (inOrder entries) := by
      rw [hlist]
      rfl
    rw [henter, hscripts, hdirectories, ← flatMap_entryItems_of_ne, ← flatMap_entryItems_of_eq,
      ← List.flatMap_append, filter_append_filter hsorted]

/-! ## The items of a walk -/

/-- In one tree entries yield what they stand for. -/
lemma eq_of_yields (h : Yields (· = tree) extension directory entries items) :
    items = entries.flatMap (entryItems tree extension directory) := by
  induction h with
  | nil => rfl
  | skipped _ htree hkind hscript _ ih =>
    subst htree
    rw [List.flatMap_cons, entryItems, if_neg hkind, hscript, ih]
    rfl
  | script _ htree hkind hscript _ ih =>
    subst htree
    rw [List.flatMap_cons, entryItems, if_neg hkind, if_pos hscript, ih]
    rfl
  | unopened _ htree henter _ ih =>
    subst htree
    rw [List.flatMap_cons, entryItems, if_pos rfl, contents_eq, henter, ih]
    rfl
  | entered _ htree henter _ _ ihinner ih =>
    subst htree
    rw [List.flatMap_cons, entryItems, if_pos rfl, contents_eq, henter, ihinner, ih]

/-- The items of a walk through one tree are what the entries in its frames yield. -/
lemma framesYield_items (tree : FileTree) (extension : Text) (frames : List Frame) :
    FramesYield (· = tree) extension frames ((within frames).items tree extension) := by
  induction hbudget : (within frames).budget tree extension using Nat.strong_induction_on
    generalizing frames with
  | _ n ih =>
  have hsearch := @framesYield_of_searchFrames (· = tree) tree rfl extension frames
  rw [items_eq]
  cases hfound : searchFrames tree extension frames with
  | none =>
    rw [hfound] at hsearch
    rw [next_within, hfound]
    exact hsearch
  | some found =>
    obtain ⟨item, behind⟩ := found
    rw [hfound] at hsearch
    have hnext : (within frames).next tree extension = (some item, within behind) := by
      rw [next_within, hfound]
    rw [hnext]
    exact hsearch _ (ih _ (hbudget ▸ budget_lt_of_next hnext) behind rfl)

/-- The entries of a directory that can be listed yield its contents. -/
lemma yields_contents (h : enter tree directory = .ok listed) :
    Yields (· = tree) extension directory listed (contents tree extension directory) := by
  have hyields := framesYield_singleton.1 (framesYield_items tree extension [⟨directory, listed⟩])
  rw [contents_eq, h]
  rwa [eq_of_yields hyields] at hyields

/-- No frames, no items. -/
lemma items_nil (tree : FileTree) (extension : Text) : (within []).items tree extension = [] := by
  rw [items_eq, next_within, searchFrames]

/-- A walk from a directory yields its contents. -/
lemma items_unopened {location : Location} {entries : List (Name × Node)} {access : Access}
    (htree : tree.top.WellFormed) (h : tree.top.get? location = some (.directory entries access))
    (extension : Text) :
    (unopened (Path.ofLocation location)).items tree extension =
      contents tree extension (Path.ofLocation location) := by
  rw [contents_eq]
  cases henter : enter tree (Path.ofLocation location) with
  | ok listed =>
    rw [items_eq, next_unopened (openRoot_of_enter henter), ← items_eq]
    exact eq_of_yields (framesYield_singleton.1 (framesYield_items tree extension _))
  | error error =>
    -- The path cannot be looked up at all, or it leads to the directory, which refuses the listing.
    have hopen : openRoot tree extension (Path.ofLocation location) =
        (some (failed (Path.ofLocation location) error), []) := by
      obtain ⟨outcome, hfind, rfl | ⟨cause, rfl⟩⟩ := FileTree.find_ofLocation htree h
      · rw [openRoot, hfind, henter]
        rfl
      · obtain rfl : cause = error := by
          rw [enter, FileTree.list, hfind] at henter
          exact Except.error.inj henter
        rw [openRoot, hfind]
    have hnext : (unopened (Path.ofLocation location)).next tree extension =
        (some (failed (Path.ofLocation location) error), within []) := by
      rw [next, hopen]
    rw [items_eq, hnext]
    exact congrArg _ (items_nil tree extension)

/-! ## Directories that are reached -/

/-- The directories that are reached from a root through the entries that are listed as
directories, whether they can be listed in turn or not. -/
inductive Reaches (tree : FileTree) (root : Path) : Path → Prop
  | root : Reaches tree root root
  | child {directory : Path} {name : Name} {entries : List (Name × Kind)}
      (habove : Reaches tree root directory) (hlist : tree.list directory = .ok entries)
      (hname : (name, .directory) ∈ entries) : Reaches tree root (Path.child directory name)

/-- What is reached from a directory is reached from above it. -/
lemma Reaches.trans (habove : Reaches tree root directory) (h : Reaches tree directory below) :
    Reaches tree root below := by
  induction h with
  | root => exact habove
  | child _ hlist hname ih => exact ih.child hlist hname

/-- Paths among which the root is, and with each directory those that are listed in it, are all that
is reached. -/
lemma Reaches.mem_of_closed {paths : List Path} (hroot : root ∈ paths)
    (hclosed : ∀ path ∈ paths, ∀ entries ∈ (tree.list path).toOption, ∀ entry ∈ entries,
      entry.2 = .directory → Path.child path entry.1 ∈ paths)
    (h : Reaches tree root directory) : directory ∈ paths := by
  induction h with
  | root => exact hroot
  | child _ hlist hname ih =>
    refine hclosed _ ih _ ?_ _ hname rfl
    rw [hlist]
    rfl

/-- The path of a directory that is reached starts at the top, and goes through the root. -/
lemma Reaches.path_under_root (htree : tree.top.WellFormed)
    (hroot : Path.isAbsolute root = true) (h : Reaches tree root directory) :
    Path.isAbsolute directory = true ∧ Path.names root <+: Path.names directory := by
  induction h with
  | root => exact ⟨hroot, List.prefix_rfl⟩
  | child _ hlist hname ih =>
    have hvalid := (FileTree.isListing_of_list htree hlist).valid _ hname
    refine ⟨Path.isAbsolute_child ih.1 _, ?_⟩
    rw [Path.names_child _ hvalid]
    exact ih.2.trans (List.prefix_append _ _)

/-- What an entry stands for is among the contents of its directory. -/
lemma entryItems_subset (extension : Text) (hlist : tree.list directory = .ok entries)
    (hname : (name, kind) ∈ entries) :
    entryItems tree extension directory (name, kind) ⊆ contents tree extension directory := by
  intro item hitem
  rw [contents_eq, enter_of_list hlist]
  exact List.mem_flatMap.2 ⟨_, (inOrder_perm entries).mem_iff.2 hname, hitem⟩

/-- The contents of a directory that is reached are among those of the root. -/
lemma contents_subset (h : Reaches tree root directory) :
    contents tree extension directory ⊆ contents tree extension root := by
  induction h with
  | root => exact List.Subset.refl _
  | child _ hlist hname ih =>
    refine List.Subset.trans ?_ ih
    have hchild := entryItems_subset extension hlist hname
    rwa [entryItems, if_pos rfl] at hchild

/-- An entry is a script if it has the right extension and is a regular file or a link to one. -/
lemma isScript_iff {path : Path} : isScript tree extension path name kind = true ↔
    hasExtension extension name = true ∧
      (kind = .file ∨ kind = .link ∧ tree.isFile path = true) := by
  unfold isScript
  rw [Bool.and_eq_true]
  cases kind <;> simp

/-- An item is a script in a directory that is reached, or a directory that is reached and cannot
be listed. -/
inductive IsFrom (tree : FileTree) (extension : Text) (root : Path) : Item → Prop
  | script {directory : Path} {name : Name} {kind : Kind} {entries : List (Name × Kind)}
      (hreached : Reaches tree root directory) (hlist : tree.list directory = .ok entries)
      (hname : (name, kind) ∈ entries) (hextension : hasExtension extension name = true)
      (hkind : kind = .file ∨ kind = .link ∧ tree.isFile (Path.child directory name) = true) :
      IsFrom tree extension root (.ok ⟨Path.child directory name, name⟩)
  | failed {directory : Path} {error : FileError} (hreached : Reaches tree root directory)
      (hlist : tree.list directory = .error error) :
      IsFrom tree extension root (failed directory error)

/-- An item from a directory that is reached is one from the root. -/
lemma IsFrom.trans (habove : Reaches tree root directory)
    (h : IsFrom tree extension directory item) : IsFrom tree extension root item := by
  cases h with
  | script hreached hlist hname hextension hkind =>
    exact .script (habove.trans hreached) hlist hname hextension hkind
  | failed hreached hlist => exact .failed (habove.trans hreached) hlist

/-- The contents of a directory are the scripts in all directories that are reached from it, and
those of these directories that cannot be listed. -/
lemma mem_contents_iff : item ∈ contents tree extension root ↔ IsFrom tree extension root item := by
  constructor
  · intro h
    induction root using contents.induct tree with
    | case1 root error hlist =>
      rw [contents_eq, enter, hlist] at h
      rw [List.mem_singleton.1 h]
      exact .failed .root hlist
    | case2 root entries hlist _ ih =>
      rw [contents_eq, enter_of_list hlist] at h
      obtain ⟨⟨name, kind⟩, hentry, hitem⟩ := List.mem_flatMap.1 h
      have hname := (inOrder_perm entries).mem_iff.1 hentry
      rw [entryItems] at hitem
      split at hitem
      next hkind =>
        obtain rfl : kind = .directory := hkind
        exact .trans (.child .root hlist hname) (ih name hitem)
      split at hitem
      next hscript =>
        obtain ⟨hextension, hkind⟩ := isScript_iff.1 hscript
        rw [List.mem_singleton.1 hitem]
        exact .script .root hlist hname hextension hkind
      next => cases hitem
  · intro h
    cases h with
    | @script directory name kind entries hreached hlist hname hextension hkind =>
      refine contents_subset hreached (entryItems_subset extension hlist hname ?_)
      have hne : kind ≠ .directory := by
        rcases hkind with rfl | ⟨rfl, -⟩ <;> decide
      rw [entryItems, if_neg hne, if_pos (isScript_iff.2 ⟨hextension, hkind⟩)]
      exact List.mem_singleton_self _
    | failed hreached hlist =>
      refine contents_subset hreached ?_
      rw [contents_eq, enter, hlist]
      exact List.mem_singleton_self _

/-- The path of an item starts at the top, and goes through the root. -/
lemma IsFrom.path_under_root (htree : tree.top.WellFormed)
    (hroot : Path.isAbsolute root = true) (h : IsFrom tree extension root item) :
    Path.isAbsolute item.path = true ∧ Path.names root <+: Path.names item.path := by
  cases h with
  | @script directory name kind entries hreached hlist hname _ _ =>
    obtain ⟨habsolute, hprefix⟩ := hreached.path_under_root htree hroot
    have hvalid := (FileTree.isListing_of_list htree hlist).valid _ hname
    refine ⟨Path.isAbsolute_child habsolute _, ?_⟩
    rw [Item.path, Path.names_child _ hvalid]
    exact hprefix.trans (List.prefix_append _ _)
  | failed hreached _ => exact hreached.path_under_root htree hroot

/-! ## Directories that refuse to be listed -/

/-- All links in the directories that are reached from the root lead to regular files in both trees
or in neither. -/
def AgreeOnLinks (tree other : FileTree) (root : Path) : Prop :=
  ∀ path entries name, Reaches tree root path → tree.list path = .ok entries →
    (name, .link) ∈ entries →
      other.isFile (Path.child path name) = tree.isFile (Path.child path name)

/-- Another tree has a directory that refuses to be listed. All else that a walk from the root looks
at is as in this tree: what is listed, and which links lead to regular files. -/
structure Refuses (tree other : FileTree) (root directory : Path) (error : FileError) : Prop where
  refused : other.list directory = .error error
  listed : ∀ path, Reaches tree root path → path ≠ directory → other.list path = tree.list path
  linked : AgreeOnLinks tree other root

/-- Links below a directory that is reached are links below the root. -/
lemma AgreeOnLinks.of_reaches {other : FileTree} (h : AgreeOnLinks tree other root)
    (hreached : Reaches tree root directory) : AgreeOnLinks tree other directory :=
  fun path entries name hpath => h path entries name (hreached.trans hpath)

/-- An entry stands for the same in two trees that agree on what is below it and on where links
lead. -/
lemma entryItems_congr {other : FileTree}
    (hbelow : kind = .directory → contents other extension (Path.child directory name) =
      contents tree extension (Path.child directory name))
    (hlinked : kind = .link → other.isFile (Path.child directory name) =
      tree.isFile (Path.child directory name)) :
    entryItems other extension directory (name, kind) =
      entryItems tree extension directory (name, kind) := by
  by_cases hkind : kind = .directory
  · rw [entryItems, entryItems, if_pos hkind, if_pos hkind, hbelow hkind]
  · have hscript : isScript other extension (Path.child directory name) name kind =
        isScript tree extension (Path.child directory name) name kind := by
      cases kind with
      | link => rw [isScript, isScript, hlinked rfl]
      | _ => rfl
    rw [entryItems, entryItems, if_neg hkind, if_neg hkind, hscript]

/-- The contents of a directory depend only on what a walk from it looks at. -/
lemma contents_congr {other : FileTree}
    (hlisted : ∀ path, Reaches tree root path → other.list path = tree.list path)
    (hlinked : AgreeOnLinks tree other root) :
    contents other extension root = contents tree extension root := by
  induction root using contents.induct tree with
  | case1 root error hlist =>
    rw [contents_eq, contents_eq, enter, enter, hlisted root .root, hlist]
    rfl
  | case2 root entries hlist _ ih =>
    rw [contents_eq, contents_eq, enter_of_list hlist,
      enter_of_list ((hlisted root .root).trans hlist)]
    refine List.flatMap_congr fun entry hentry => ?_
    obtain ⟨name, kind⟩ := entry
    have hmem : (name, kind) ∈ entries := (inOrder_perm entries).mem_iff.1 hentry
    refine entryItems_congr ?_ ?_
    · rintro rfl
      have hchild : Reaches tree root (Path.child root name) := .child .root hlist hmem
      exact ih name (fun path h => hlisted path (hchild.trans h)) (hlinked.of_reaches hchild)
    · rintro rfl
      exact hlinked root entries name .root hlist hmem

/-- A directory that is reached is the root, or it is reached from a directory in the root. -/
lemma Reaches.eq_or_exists (h : Reaches tree root directory) :
    directory = root ∨ ∃ entries name, tree.list root = .ok entries ∧
      (name, .directory) ∈ entries ∧ Reaches tree (Path.child root name) directory := by
  induction h with
  | root => exact .inl rfl
  | child _ hlist hname ih =>
    rcases ih with rfl | ⟨entries, first, hroot, hfirst, hbelow⟩
    · exact .inr ⟨_, _, hlist, hname, .root⟩
    · exact .inr ⟨entries, first, hroot, hfirst, hbelow.child hlist hname⟩

/-- Nothing is reached from two directories in the same one. -/
lemma Reaches.name_eq {other : Name} (htree : tree.top.WellFormed)
    (hroot : Path.isAbsolute root = true) (hlist : tree.list root = .ok entries)
    (hname : (name, .directory) ∈ entries) (hother : (other, .directory) ∈ entries)
    (h : Reaches tree (Path.child root name) directory)
    (h' : Reaches tree (Path.child root other) directory) : name = other := by
  have hvalid := (FileTree.isListing_of_list htree hlist).valid
  obtain ⟨-, hbegins⟩ := h.path_under_root htree (Path.isAbsolute_child hroot name)
  obtain ⟨-, hbegins'⟩ := h'.path_under_root htree (Path.isAbsolute_child hroot other)
  rw [Path.names_child _ (hvalid _ hname)] at hbegins
  rw [Path.names_child _ (hvalid _ hother)] at hbegins'
  have hsame := List.prefix_of_prefix_length_le hbegins hbegins' (by simp)
  simpa using hsame

/-- A directory that refuses to be listed in one entry of the root changes nothing in the others. -/
lemma Refuses.flatMap_entryItems {other : FileTree} {error : FileError}
    {part : List (Name × Kind)} (h : Refuses tree other root directory error)
    (htree : tree.top.WellFormed) (hroot : Path.isAbsolute root = true)
    (hlist : tree.list root = .ok entries) (hname : (name, .directory) ∈ entries)
    (hbelow : Reaches tree (Path.child root name) directory) (hpart : part ⊆ entries)
    (hnot : (name, .directory) ∉ part) :
    part.flatMap (entryItems other extension root) =
      part.flatMap (entryItems tree extension root) := by
  refine List.flatMap_congr fun entry hentry => ?_
  obtain ⟨apart, kind⟩ := entry
  refine entryItems_congr ?_ ?_
  · rintro rfl
    have hchild : Reaches tree root (Path.child root apart) := .child .root hlist (hpart hentry)
    -- A walk from this entry does not come to the directory.
    refine contents_congr (fun path hpath => h.listed path (hchild.trans hpath) ?_)
      (h.linked.of_reaches hchild)
    rintro rfl
    obtain rfl := hbelow.name_eq htree hroot hlist hname (hpart hentry) hpath
    exact hnot hentry
  · rintro rfl
    exact h.linked root entries apart .root hlist (hpart hentry)

/-- Among the entries of a directory in order, a directory stands in one place. -/
lemma exists_split_of_mem (htree : tree.top.WellFormed) (hlist : tree.list root = .ok entries)
    (hname : (name, .directory) ∈ entries) :
    ∃ before after, inOrder entries = before ++ (name, .directory) :: after ∧
      (name, .directory) ∉ before ∧ (name, .directory) ∉ after := by
  obtain ⟨before, after, hsplit, hbefore⟩ :=
    List.eq_append_cons_of_mem ((inOrder_perm entries).mem_iff.2 hname)
  have hnodup : (before ++ (name, .directory) :: after).Nodup := by
    rw [← hsplit, (inOrder_perm entries).nodup_iff]
    exact .of_map _ (FileTree.isListing_of_list htree hlist).distinct
  exact ⟨before, after, hsplit, hbefore,
    (List.nodup_cons.1 (List.nodup_append.1 hnodup).2.1).1⟩

/-- The contents of a directory in a directory stand among those of its siblings. -/
lemma contents_eq_append {before after : List (Name × Kind)} (extension : Text)
    (hlist : tree.list root = .ok entries)
    (hsplit : inOrder entries = before ++ (name, .directory) :: after) :
    contents tree extension root =
      before.flatMap (entryItems tree extension root) ++
        contents tree extension (Path.child root name) ++
        after.flatMap (entryItems tree extension root) := by
  have hname : entryItems tree extension root (name, .directory) =
      contents tree extension (Path.child root name) := if_pos rfl
  rw [contents_eq, enter_of_list hlist, ← hname, List.append_assoc, ← List.flatMap_cons,
    ← List.flatMap_append, ← hsplit]

/-- A directory that refuses to be listed costs its own contents. In their place there is one error,
and all other items are there as before. -/
lemma contents_of_refuses {other : FileTree} {error : FileError}
    (htree : tree.top.WellFormed) (hroot : Path.isAbsolute root = true)
    (hreached : Reaches tree root directory) (h : Refuses tree other root directory error)
    (extension : Text) :
    ∃ front behind,
      contents tree extension root = front ++ contents tree extension directory ++ behind ∧
      contents other extension root = front ++ failed directory error :: behind := by
  have hitself : contents other extension directory = [failed directory error] := by
    rw [contents_eq, enter, h.refused]
    rfl
  induction root using contents.induct tree with
  | case1 root cause hlist =>
    rcases hreached.eq_or_exists with rfl | ⟨entries, name, hentries, -, -⟩
    · exact ⟨[], [], by simp, by simp [hitself]⟩
    · rw [hlist] at hentries
      cases hentries
  | case2 root entries hlist _ ih =>
    by_cases hdirectory : directory = root
    · subst hdirectory
      exact ⟨[], [], by simp, by simp [hitself]⟩
    obtain ⟨listed, name, hlisted, hname, hbelow⟩ := hreached.eq_or_exists.resolve_left hdirectory
    obtain rfl : entries = listed := Except.ok.inj (hlist.symm.trans hlisted)
    have hchild : Reaches tree root (Path.child root name) := .child .root hlist hname
    obtain ⟨front, behind, hcontents, hother⟩ :=
      ih name (Path.isAbsolute_child hroot name) hbelow
        { h with
          listed := fun path hpath => h.listed path (hchild.trans hpath)
          linked := h.linked.of_reaches hchild }
    obtain ⟨before, after, hsplit, hbefore, hafter⟩ := exists_split_of_mem htree hlist hname
    have hsame : ∀ part : List (Name × Kind), part ⊆ inOrder entries →
        (name, .directory) ∉ part → part.flatMap (entryItems other extension root) =
          part.flatMap (entryItems tree extension root) := fun part hpart hnot =>
      h.flatMap_entryItems htree hroot hlist hname hbelow
        (List.Subset.trans hpart (inOrder_perm entries).subset) hnot
    refine ⟨before.flatMap (entryItems tree extension root) ++ front,
      behind ++ after.flatMap (entryItems tree extension root), ?_, ?_⟩
    · rw [contents_eq_append extension hlist hsplit, hcontents]
      simp only [List.append_assoc]
    · have hlistOther : other.list root = .ok entries :=
        (h.listed root .root (Ne.symm hdirectory)).trans hlist
      rw [contents_eq_append extension hlistOther hsplit, hother,
        hsame before (by simp [hsplit]) hbefore, hsame after (by simp [hsplit]) hafter]
      simp only [List.append_assoc, List.cons_append]

/-! ## Order -/

/-- The contents of a directory come in order. -/
lemma pairwise_contents (htree : tree.top.WellFormed) (extension : Text) (directory : Path) :
    (contents tree extension directory).Pairwise fun x y => Precedes x.way y.way := by
  cases henter : enter tree directory with
  | error error =>
    rw [contents_eq, henter]
    exact List.pairwise_singleton _ _
  | ok listed =>
    obtain ⟨hlisting, hsorted⟩ := isListing_of_enter htree henter
    have hseen : ∀ other, other = tree → other.top.WellFormed := by
      rintro _ rfl
      exact htree
    exact (followEntries_of_yields hseen (yields_contents henter) hlisting hsorted).precede

end Walk

namespace Locator

variable {locator : Locator} {tree : FileTree} {root : Path}

/-- A root that is resolved leads to a directory, and its path is that of the directory. -/
lemma canonical_of_resolveRoot (h : locator.resolveRoot tree = .ok root) :
    ∃ location entries access, root = Path.ofLocation location ∧
      tree.canonical locator.root = .ok ⟨location, .directory entries access⟩ := by
  rw [resolveRoot] at h
  split at h
  next location entries access hcanonical =>
    split at h
    · exact ⟨location, entries, access, (Except.ok.inj h).symm, hcanonical⟩
    · cases h
  all_goals cases h

/-- A root that is resolved is the path to a directory. -/
lemma exists_of_resolveRoot (h : locator.resolveRoot tree = .ok root) :
    ∃ location entries access, root = Path.ofLocation location ∧
      tree.top.get? location = some (.directory entries access) := by
  obtain ⟨location, entries, access, hroot, hcanonical⟩ := canonical_of_resolveRoot h
  exact ⟨location, entries, access, hroot, FileTree.canonical_get? hcanonical⟩

/-- **The items of a walk are the contents of the root.** They come in the order of a walk, and no
path comes twice. They are the scripts in all directories that are reached from the root, and those
of these directories that cannot be listed, all of them with an absolute path under the root. If one
of these directories refuses to be listed, then that costs its contents and no other item. -/
theorem scripts_eq_contents (locator : Locator) (htree : tree.top.WellFormed)
    (hroot : locator.resolveRoot tree = .ok root) :
    locator.scripts tree = .ok (Walk.contents tree locator.extension root) ∧
    Walk.IsOrdered (Walk.contents tree locator.extension root) ∧
    ((Walk.contents tree locator.extension root).map Item.path).Nodup ∧
    (∀ item, item ∈ Walk.contents tree locator.extension root ↔
      Walk.IsFrom tree locator.extension root item) ∧
    (∀ item ∈ Walk.contents tree locator.extension root,
      Path.isAbsolute item.path = true ∧ Path.names root <+: Path.names item.path) ∧
    ∀ other directory error, Walk.Reaches tree root directory →
      Walk.Refuses tree other root directory error →
        ∃ front behind,
          Walk.contents tree locator.extension root =
            front ++ Walk.contents tree locator.extension directory ++ behind ∧
          Walk.contents other locator.extension root =
            front ++ Walk.failed directory error :: behind := by
  have hpairwise := Walk.pairwise_contents htree locator.extension root
  obtain ⟨location, entries, access, rfl, hget⟩ := exists_of_resolveRoot hroot
  have habsolute := Path.isAbsolute_ofLocation location
  refine ⟨?_, Walk.isOrdered_of_pairwise hpairwise, Walk.nodup_path_of_pairwise hpairwise,
    fun item => Walk.mem_contents_iff, fun item hitem => ?_, fun other directory error h hrefuses =>
      Walk.contents_of_refuses htree habsolute h hrefuses locator.extension⟩
  · rw [scripts_of_ok hroot, Walk.items_unopened htree hget]
  · exact (Walk.mem_contents_iff.1 hitem).path_under_root htree habsolute

end Locator

/-! ## An example -/

/-- A directory with a script, with links and a pipe that are named like scripts, and with four
directories. The first one is named like a script. The second one permits nothing, and a link leads
into it. The third one is on a disk of its own. -/
def treeWithDisk (disk : Access) : FileTree where
  top := .directory
    [(encode "db", .directory
      [(encode "m", .directory [(encode "w.sql", .file (encode "W;\n"))]),
        (encode "z.sql", .file (encode "Z;\n")),
        (encode "l", .directory [(encode "v.sql", .file (encode "V;\n"))] disk),
        (encode "k", .directory [(encode "u.sql", .file (encode "U;\n"))]
          { listing := some .permissionDenied, search := some .permissionDenied }),
        (encode "d.sql", .directory [(encode "y.SQL", .file []), (encode "x.txt", .file [])]),
        (encode "e.sql", .link (encode "d.sql")),
        (encode "a.sql", .link (encode "z.sql")),
        (encode "b.sql", .link (encode "k/u.sql")),
        (encode "p.sql", .special [])])]

/-- The answer of a disk that fails. -/
def diskError : FileError := .other "Input/output error (os error 5)"

/-- This tree with a disk that fails. -/
def lockedTree : FileTree := treeWithDisk { listing := some diskError }

/-- The locator for the scripts in the directory. -/
def lockedLocator : Locator := { root := encode "/db" }

/-- No two entries in one of its directories have the same name. -/
lemma wellFormed_treeWithDisk (disk : Access) : (treeWithDisk disk).top.WellFormed := by
  have hscript : ∀ (name : Name) (content : Bytes) (access : Access), name.IsValid →
      (Node.directory [(name, .file content)] access).WellFormed := by
    intro name content access hname
    exact .directory _ (by simpa using hname) (by simp) (by simp [Node.WellFormed.file])
  have hscripts : (Node.directory
      [(encode "y.SQL", .file []), (encode "x.txt", .file [])]).WellFormed :=
    .directory _ (by decide +kernel) (by decide +kernel) (by simp [Node.WellFormed.file])
  refine .directory _ (by simp only [List.forall_mem_singleton]; decide +kernel)
    (List.nodup_singleton _) ?_
  rw [List.forall_mem_singleton]
  refine .directory _ (by simp only [List.forall_mem_cons]; decide +kernel)
    (by simp only [List.map_cons]; decide +kernel) ?_
  simp only [List.forall_mem_cons]
  exact ⟨hscript _ _ _ (by decide +kernel), .file _, hscript _ _ _ (by decide +kernel),
    hscript _ _ _ (by decide +kernel), hscripts, .link _, .link _, .link _, .special _,
    List.forall_mem_nil _⟩

/-- The directories that are reached from the root of the walk. -/
def diskPaths : List Path :=
  [encode "/db", encode "/db/d.sql", encode "/db/k", encode "/db/l", encode "/db/m"]

/-- The directory on the disk is reached, and it refuses to be listed if the disk fails. -/
lemma refuses_lockedTree :
    Walk.Reaches (treeWithDisk {}) (encode "/db") (encode "/db/l") ∧
    Walk.Refuses (treeWithDisk {}) lockedTree (encode "/db") (encode "/db/l") diskError := by
  have hreached : ∀ path, Walk.Reaches (treeWithDisk {}) (encode "/db") path → path ∈ diskPaths :=
    fun path h => h.mem_of_closed (by decide +kernel) (by decide +kernel)
  have hlisted : ∀ path ∈ diskPaths, path ≠ encode "/db/l" →
      lockedTree.list path = (treeWithDisk {}).list path := by
    decide +kernel
  have hlinked : ∀ path ∈ diskPaths, ∀ entries ∈ ((treeWithDisk {}).list path).toOption,
      ∀ entry ∈ entries, entry.2 = .link →
        lockedTree.isFile (Path.child path entry.1) =
          (treeWithDisk {}).isFile (Path.child path entry.1) := by
    decide +kernel
  constructor
  · have hlist : (treeWithDisk {}).list (encode "/db") = .ok
        [(encode "m", .directory), (encode "z.sql", .file), (encode "l", .directory),
          (encode "k", .directory), (encode "d.sql", .directory), (encode "e.sql", .link),
          (encode "a.sql", .link), (encode "b.sql", .link), (encode "p.sql", .special)] := by
      decide +kernel
    exact Walk.Reaches.child .root hlist (by decide +kernel)
  · refine ⟨by decide +kernel, fun path h => hlisted path (hreached path h), ?_⟩
    intro path entries name h hlist hname
    exact hlinked path (hreached path h) entries (by rw [hlist]; rfl) _ hname rfl

/-- The root of this tree is resolved, and a walk yields its contents: two scripts, then those of
the first directory, an error each for the two that cannot be listed, and the script of the last
one. Were the disk to work, only its directory would be listed differently. -/
theorem scripts_eq_contents_lockedTree :
    lockedLocator.resolveRoot lockedTree = .ok (encode "/db") ∧
    (lockedLocator.scripts lockedTree =
        .ok (Walk.contents lockedTree lockedLocator.extension (encode "/db")) ∧
      Walk.IsOrdered (Walk.contents lockedTree lockedLocator.extension (encode "/db")) ∧
      ((Walk.contents lockedTree lockedLocator.extension (encode "/db")).map Item.path).Nodup ∧
      (∀ item, item ∈ Walk.contents lockedTree lockedLocator.extension (encode "/db") ↔
        Walk.IsFrom lockedTree lockedLocator.extension (encode "/db") item) ∧
      (∀ item ∈ Walk.contents lockedTree lockedLocator.extension (encode "/db"),
        Path.isAbsolute item.path = true ∧
          Path.names (encode "/db") <+: Path.names item.path) ∧
      ∀ other directory error, Walk.Reaches lockedTree (encode "/db") directory →
        Walk.Refuses lockedTree other (encode "/db") directory error →
          ∃ front behind,
            Walk.contents lockedTree lockedLocator.extension (encode "/db") =
              front ++ Walk.contents lockedTree lockedLocator.extension directory ++ behind ∧
            Walk.contents other lockedLocator.extension (encode "/db") =
              front ++ Walk.failed directory error :: behind) ∧
    lockedLocator.scripts lockedTree = .ok
      [.ok ⟨encode "/db/a.sql", encode "a.sql"⟩, .ok ⟨encode "/db/z.sql", encode "z.sql"⟩,
        .ok ⟨encode "/db/d.sql/y.SQL", encode "y.SQL"⟩,
        .error (.discoveryFailed (encode "/db/k") (.entry (encode "/db/k") .permissionDenied)),
        .error (.discoveryFailed (encode "/db/l") (.entry (encode "/db/l") diskError)),
        .ok ⟨encode "/db/m/w.sql", encode "w.sql"⟩] ∧
    Walk.Reaches (treeWithDisk {}) (encode "/db") (encode "/db/l") ∧
    Walk.Refuses (treeWithDisk {}) lockedTree (encode "/db") (encode "/db/l") diskError :=
  ⟨by decide +kernel,
    lockedLocator.scripts_eq_contents (wellFormed_treeWithDisk _) (by decide +kernel),
    by decide +kernel, refuses_lockedTree⟩

end ScriptRunner
