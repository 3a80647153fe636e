import Mathlib
import ScriptRunner.Proofs.WalkOrder

/-!
# Walks while the tree changes

Between two calls of a walk anything may happen to the tree: each call sees a tree of its own
(`Walk.answers`). What the calls yield still comes in the order of a walk, without any path twice,
and no script that is there all the time is left out (`Walk.answers_safe`).

The listings of a walk come from different trees, but each of them is the listing of one directory,
made once. The order only depends on that, and so does what is found: a directory that all trees
list is listed when the walk comes to it, whatever the tree is then, and the walk comes to it
because the directory above it is listed as well (`mem_of_yields`).

A walk that is not at its end yet comes to it in any tree that changes no more, so what it has
yielded is the beginning of what a walk yields to its end (`exists_none_mem_answers`).
-/

namespace ScriptRunner

open Text

namespace Walk

variable {seen : FileTree → Prop} {tree : FileTree} {trees : List FileTree} {extension : Text}
  {directory root : Path} {name : Name} {names : List Name} {entries listed : List (Name × Kind)}
  {items : List Item}

/-! ## Walks that are not at their end -/

/-- In a tree that stays as it is a walk comes to its end. -/
lemma exists_none_mem_answers (tree : FileTree) (extension : Text) (walk : Walk) :
    ∃ n, none ∈ answers extension walk (List.replicate n tree) := by
  induction hbudget : walk.budget tree extension using Nat.strong_induction_on
    generalizing walk with
  | _ n ih =>
  rcases hnext : walk.next tree extension with ⟨_ | item, behind⟩
  · refine ⟨1, ?_⟩
    rw [List.replicate_one, answers, hnext]
    exact List.mem_cons_self
  · obtain ⟨m, hm⟩ := ih _ (hbudget ▸ budget_lt_of_next hnext) behind rfl
    refine ⟨m + 1, ?_⟩
    rw [List.replicate_succ, answers, hnext]
    exact List.mem_cons_of_mem _ hm

/-- The calls of a walk are the first ones of a walk that comes to its end. -/
lemma exists_answers_append (extension : Text) (walk : Walk)
    (htrees : ∀ tree ∈ trees, tree.top.WellFormed) :
    ∃ more, (∀ tree ∈ trees ++ more, tree.top.WellFormed) ∧
      none ∈ answers extension walk (trees ++ more) := by
  obtain ⟨n, hn⟩ := exists_none_mem_answers {} extension (after extension walk trees)
  refine ⟨List.replicate n {}, fun tree htree => ?_, ?_⟩
  · rcases List.mem_append.1 htree with htree | htree
    · exact htrees tree htree
    · rw [List.eq_of_mem_replicate htree]
      exact .directory [] (by simp) .nil (by simp)
  · rw [answers_append]
    exact List.mem_append_right _ hn

/-! ## The order of what the calls yield -/

/-- A walk from a root that is listed yields what comes from the entries of the root. -/
lemma answers_unopened_of_enter (h : enter tree root = .ok listed) :
    answers extension (unopened root) (tree :: trees) =
      answers extension (within [⟨root, listed⟩]) (tree :: trees) := by
  rw [answers, answers, next_unopened (openRoot_of_enter h)]

/-- The items of a walk to its end come in order. -/
lemma pairwise_of_none_mem_answers (htrees : ∀ tree ∈ trees, tree.top.WellFormed)
    (hend : none ∈ answers extension (unopened root) trees) :
    ((answers extension (unopened root) trees).reduceOption).Pairwise
      fun x y => Precedes x.way y.way := by
  cases trees with
  | nil => cases hend
  | cons tree trees =>
    cases henter : enter tree root with
    | ok listed =>
      rw [answers_unopened_of_enter henter] at hend ⊢
      have hyields : Yields (·.top.WellFormed) extension root listed _ :=
        framesYield_singleton.1 (framesYield_of_none_mem_answers htrees hend)
      obtain ⟨hlisting, hsorted⟩ := isListing_of_enter (htrees _ List.mem_cons_self) henter
      exact (followEntries_of_yields (fun _ h => h) hyields hlisting hsorted).precede
    | error error =>
      -- Behind what the root is itself there is nothing.
      obtain ⟨found, hopen⟩ :
          ∃ found, openRoot tree extension root = (found, []) := openRoot_of_error henter
      have hnext : (unopened root).next tree extension = (found, within []) := by
        cases found with
        | none => rw [next_unopened hopen, next_within, searchFrames]
        | some item => rw [next, hopen]
      rw [answers, hnext]
      cases found with
      | none =>
        rw [List.reduceOption_cons_of_none, reduceOption_answers_nil]
        exact .nil
      | some item =>
        rw [List.reduceOption_cons_of_some, reduceOption_answers_nil]
        exact List.pairwise_singleton _ _

/-- Whatever happens to the tree, items come in order. -/
lemma pairwise_answers (extension : Text) (root : Path)
    (htrees : ∀ tree ∈ trees, tree.top.WellFormed) :
    ((answers extension (unopened root) trees).reduceOption).Pairwise
      fun x y => Precedes x.way y.way := by
  obtain ⟨more, hmore, hend⟩ := exists_answers_append extension (unopened root) htrees
  have hpairwise := pairwise_of_none_mem_answers hmore hend
  rw [answers_append, List.reduceOption_append] at hpairwise
  exact (List.pairwise_append.1 hpairwise).1

/-! ## What is there all the time -/

/-- A tree has a regular file at the end of some names, where each name is listed in the directory
that the ones before it lead to. -/
inductive Holds (tree : FileTree) : Path → List Name → Prop
  | file {directory : Path} {name : Name} {entries : List (Name × Kind)}
      (hlist : tree.list directory = .ok entries) (hname : (name, .file) ∈ entries) :
      Holds tree directory [name]
  | directory {directory : Path} {name : Name} {rest : List Name} {entries : List (Name × Kind)}
      (hlist : tree.list directory = .ok entries) (hname : (name, .directory) ∈ entries)
      (hrest : Holds tree (Path.child directory name) rest) : Holds tree directory (name :: rest)

/-- What is at the end of some names is in a directory that can be listed. -/
lemma Holds.exists_list (h : Holds tree directory names) :
    ∃ entries, tree.list directory = .ok entries := by
  cases h with
  | file hlist _ => exact ⟨_, hlist⟩
  | directory hlist _ _ => exact ⟨_, hlist⟩

/-- The first of several names is that of a directory with the rest below it. -/
lemma Holds.cons_concat {rest : List Name} (h : Holds tree directory (name :: (names ++ rest)))
    (hrest : rest ≠ []) :
    ∃ entries, tree.list directory = .ok entries ∧ (name, .directory) ∈ entries ∧
      Holds tree (Path.child directory name) (names ++ rest) := by
  generalize hall : names ++ rest = all at h
  cases h with
  | file _ _ => exact absurd (List.append_eq_nil_iff.1 hall).2 hrest
  | directory hlist hname hbelow => exact ⟨_, hlist, hname, hbelow⟩

/-- A regular file that is listed is yielded if its name has the right extension. -/
lemma mem_of_yields_file (h : Yields seen extension directory entries items)
    (hname : (name, .file) ∈ entries) (hextension : hasExtension extension name = true) :
    .ok ⟨Path.child directory name, name⟩ ∈ items := by
  induction h with
  | nil => cases hname
  | @skipped directory found kind _ _ tree _ hkind hscript _ ih =>
    rcases List.mem_cons.1 hname with heq | hname
    · obtain ⟨rfl, rfl⟩ := Prod.mk.inj heq
      rw [isScript, hextension] at hscript
      cases hscript
    · exact ih hname
  | script tree _ hkind hscript _ ih =>
    rcases List.mem_cons.1 hname with heq | hname
    · obtain ⟨rfl, rfl⟩ := Prod.mk.inj heq
      exact List.mem_cons_self
    · exact List.mem_cons_of_mem _ (ih hname)
  | unopened _ _ _ _ ih =>
    rcases List.mem_cons.1 hname with heq | hname
    · cases heq
    · exact List.mem_cons_of_mem _ (ih hname)
  | entered _ _ _ _ _ _ ih =>
    rcases List.mem_cons.1 hname with heq | hname
    · cases heq
    · exact List.mem_append_right _ (ih hname)

/-- Among some items are those of a directory, as one of the trees lists it. -/
def YieldsListed (seen : FileTree → Prop) (extension : Text) (directory : Path)
    (items : List Item) : Prop :=
  ∃ tree listed inner, seen tree ∧ tree.list directory = .ok listed ∧
    Yields seen extension directory (inOrder listed) inner ∧ inner ⊆ items

/-- They are among more items as well. -/
lemma YieldsListed.mono {more : List Item} (h : YieldsListed seen extension directory items)
    (hsubset : items ⊆ more) : YieldsListed seen extension directory more := by
  obtain ⟨tree, listed, inner, htree, hlist, hinner, hitems⟩ := h
  exact ⟨tree, listed, inner, htree, hlist, hinner, List.Subset.trans hitems hsubset⟩

/-- A directory that is listed as an entry, and that all trees list, yields its entries. -/
lemma yieldsListed_of_yields (h : Yields seen extension directory entries items)
    (hname : (name, .directory) ∈ entries)
    (hopens : ∀ tree, seen tree → ∃ listed, tree.list (Path.child directory name) = .ok listed) :
    YieldsListed seen extension (Path.child directory name) items := by
  induction h with
  | nil => cases hname
  | skipped _ _ hkind _ _ ih =>
    rcases List.mem_cons.1 hname with heq | hname
    · exact absurd (Prod.mk.inj heq).2.symm hkind
    · exact ih hname hopens
  | script _ _ hkind _ _ ih =>
    rcases List.mem_cons.1 hname with heq | hname
    · exact absurd (Prod.mk.inj heq).2.symm hkind
    · exact (ih hname hopens).mono (List.subset_cons_self _ _)
  | unopened tree htree henter _ ih =>
    rcases List.mem_cons.1 hname with heq | hname
    · obtain ⟨rfl, -⟩ := Prod.mk.inj heq
      obtain ⟨listed, hlist⟩ := hopens tree htree
      rw [enter_of_list hlist] at henter
      cases henter
    · exact (ih hname hopens).mono (List.subset_cons_self _ _)
  | entered tree htree henter hinner _ _ ih =>
    rcases List.mem_cons.1 hname with heq | hname
    · obtain ⟨rfl, -⟩ := Prod.mk.inj heq
      obtain ⟨listed, hlist, rfl⟩ := exists_list_of_enter henter
      exact ⟨tree, listed, _, htree, hlist, hinner, List.subset_append_left _ _⟩
    · exact (ih hname hopens).mono (List.subset_append_right _ _)

/-- A regular file that all trees have is yielded if its name has the right extension. -/
lemma mem_of_yields (h : Yields seen extension directory (inOrder listed) items)
    (htree : seen tree) (hlist : tree.list directory = .ok listed)
    (hholds : ∀ tree, seen tree → Holds tree directory (names ++ [name]))
    (hextension : hasExtension extension name = true) :
    .ok ⟨Path.child (names.foldl Path.child directory) name, name⟩ ∈ items := by
  induction names generalizing tree directory listed items with
  | nil =>
    have hfile : (name, .file) ∈ listed := by
      cases hholds tree htree with
      | @file _ _ entries hentries hname =>
        obtain rfl : entries = listed := Except.ok.inj (hentries.symm.trans hlist)
        exact hname
      | directory _ _ hrest => cases hrest
    exact mem_of_yields_file h ((inOrder_perm listed).mem_iff.2 hfile) hextension
  | cons first names ih =>
    have hbelow : ∀ tree, seen tree → ∃ entries, tree.list directory = .ok entries ∧
        (first, .directory) ∈ entries ∧
        Holds tree (Path.child directory first) (names ++ [name]) := fun tree htree =>
      (hholds tree htree).cons_concat (List.cons_ne_nil _ _)
    obtain ⟨entries, hentries, hfirst, -⟩ := hbelow tree htree
    obtain rfl : entries = listed := Except.ok.inj (hentries.symm.trans hlist)
    have hopens : ∀ tree, seen tree →
        ∃ listed, tree.list (Path.child directory first) = .ok listed := by
      intro tree htree
      obtain ⟨_, _, _, hrest⟩ := hbelow tree htree
      exact hrest.exists_list
    obtain ⟨tree, listed, inner, htree, hlist, hinner, hsubset⟩ :=
      yieldsListed_of_yields h ((inOrder_perm entries).mem_iff.2 hfirst) hopens
    refine hsubset (ih hinner htree hlist fun tree htree => ?_)
    obtain ⟨_, _, _, hrest⟩ := hbelow tree htree
    exact hrest

/-- **A walk is safe while the tree changes.** Between two calls anything may happen to the tree.
No path is yielded twice, and what is yielded comes in the order of a walk. Once the walk has come
to its end, a script that is a regular file in all the trees, at the end of names that they all list
as those of directories, was yielded, and its path just once. -/
theorem answers_safe (extension : Text) (root : Path)
    (htrees : ∀ tree ∈ trees, tree.top.WellFormed) :
    (((answers extension (unopened root) trees).reduceOption).map Item.path).Nodup ∧
    IsOrdered ((answers extension (unopened root) trees).reduceOption) ∧
    ∀ names name, none ∈ answers extension (unopened root) trees →
      (∀ tree ∈ trees, Holds tree root (names ++ [name])) → hasExtension extension name = true →
      some (.ok ⟨Path.child (names.foldl Path.child root) name, name⟩) ∈
          answers extension (unopened root) trees ∧
        (((answers extension (unopened root) trees).reduceOption).map Item.path).count
          (Path.child (names.foldl Path.child root) name) = 1 := by
  have hpairwise := pairwise_answers extension root htrees
  have hnodup := nodup_path_of_pairwise hpairwise
  refine ⟨hnodup, isOrdered_of_pairwise hpairwise, fun names name hend hholds hextension => ?_⟩
  have hmem : .ok ⟨Path.child (names.foldl Path.child root) name, name⟩ ∈
      (answers extension (unopened root) trees).reduceOption := by
    cases trees with
    | nil => cases hend
    | cons tree trees =>
      obtain ⟨entries, hlist⟩ := (hholds tree List.mem_cons_self).exists_list
      rw [answers_unopened_of_enter (enter_of_list hlist)] at hend ⊢
      exact mem_of_yields
        (framesYield_singleton.1 (framesYield_of_none_mem_answers (fun _ h => h) hend))
        List.mem_cons_self hlist hholds hextension
  exact ⟨List.reduceOption_mem_iff.1 hmem,
    List.count_eq_one_of_mem hnodup (List.mem_map_of_mem hmem)⟩

/-! ## An example -/

/-- A tree with scripts in a directory and in one below it. -/
def nestedTree (outer inner : List Name) : FileTree where
  top := .directory
    [(encode "db", .directory
      ((encode "d", .directory (inner.map (·, .file []))) :: outer.map (·, .file [])))]

/-- Such a tree is well formed if all names of scripts are valid and differ. -/
lemma wellFormed_nestedTree {outer inner : List Name} (hinner : ∀ name ∈ inner, name.IsValid)
    (hdistinctInner : inner.Nodup) (houter : ∀ name ∈ outer, name.IsValid)
    (hdistinct : (encode "d" :: outer).Nodup) : (nestedTree outer inner).top.WellFormed := by
  have hfiles : ∀ names : List Name, (names.map fun name => (name, Node.file [])).map Prod.fst =
      names := by
    intro names
    rw [List.map_map]
    exact List.map_id names
  have hbelow : (Node.directory (inner.map (·, .file []))).WellFormed := by
    refine .directory _ (by simpa using hinner) (by rwa [hfiles]) ?_
    simp [Node.WellFormed.file]
  have hd : Name.IsValid (encode "d") := by decide +kernel
  have hdb : Name.IsValid (encode "db") := by decide +kernel
  refine .directory _ (by simpa using hdb) (by simp) ?_
  rw [List.forall_mem_singleton]
  refine .directory _ ?_ (by rwa [List.map_cons, hfiles]) ?_
  · rw [List.forall_mem_cons]
    exact ⟨hd, by simpa using houter⟩
  · rw [List.forall_mem_cons]
    exact ⟨hbelow, by simp [Node.WellFormed.file]⟩

/-- Such a tree has all scripts that are in the inner directory. -/
lemma holds_nestedTree (outer : List Name) {inner : List Name} (h : name ∈ inner) :
    Holds (nestedTree outer inner) (encode "/db") ([encode "d"] ++ [name]) := by
  have hlist : (nestedTree outer inner).list (encode "/db") =
      .ok ((encode "d", .directory) ::
        (outer.map (·, Node.file [])).map fun e => (e.1, e.2.kind)) := rfl
  have hlistInner : (nestedTree outer inner).list (encode "/db/d") =
      .ok ((inner.map (·, Node.file [])).map fun e => (e.1, e.2.kind)) := rfl
  have hpath : Path.child (encode "/db") (encode "d") = encode "/db/d" := by decide +kernel
  refine .directory hlist List.mem_cons_self (.file (hpath ▸ hlistInner) ?_)
  rw [List.map_map]
  exact List.mem_map.2 ⟨name, h, rfl⟩

/-- The trees that four calls see: scripts are created and removed between the calls. -/
def fourTrees : List FileTree :=
  [nestedTree [encode "b.sql"] [encode "k.sql"],
    nestedTree [encode "a.sql"] [encode "c.sql", encode "k.sql"],
    nestedTree [] [encode "k.sql"], nestedTree [] [encode "b.sql", encode "k.sql"]]

/-- Each of the four trees is well formed. -/
lemma wellFormed_fourTrees : ∀ tree ∈ fourTrees, tree.top.WellFormed := by
  simp only [fourTrees, List.forall_mem_cons]
  refine ⟨?_, ?_, ?_, ?_, List.forall_mem_nil _⟩ <;>
    exact wellFormed_nestedTree (by decide +kernel) (by decide +kernel) (by decide +kernel)
      (by decide +kernel)

/-- Each of the four trees has the script that is never removed. -/
lemma holds_fourTrees : ∀ tree ∈ fourTrees,
    Holds tree (encode "/db") ([encode "d"] ++ [encode "k.sql"]) := by
  simp only [fourTrees, List.forall_mem_cons]
  refine ⟨?_, ?_, ?_, ?_, List.forall_mem_nil _⟩ <;>
    exact holds_nestedTree _ (by decide +kernel)

/-- Four calls yield three scripts and come to the end. They are in order, and the script that is
there all the time is one of them. -/
theorem answers_safe_fourTrees :
    ((((answers "sql" (unopened (encode "/db")) fourTrees).reduceOption).map Item.path).Nodup ∧
      IsOrdered ((answers "sql" (unopened (encode "/db")) fourTrees).reduceOption) ∧
      some (.ok ⟨encode "/db/d/k.sql", encode "k.sql"⟩) ∈
          answers "sql" (unopened (encode "/db")) fourTrees ∧
        (((answers "sql" (unopened (encode "/db")) fourTrees).reduceOption).map Item.path).count
          (encode "/db/d/k.sql") = 1) ∧
    answers "sql" (unopened (encode "/db")) fourTrees =
      [some (.ok ⟨encode "/db/b.sql", encode "b.sql"⟩),
        some (.ok ⟨encode "/db/d/c.sql", encode "c.sql"⟩),
        some (.ok ⟨encode "/db/d/k.sql", encode "k.sql"⟩), none] := by
  obtain ⟨hnodup, hordered, hkept⟩ := answers_safe "sql" (encode "/db") wellFormed_fourTrees
  have hpath : Path.child ([encode "d"].foldl Path.child (encode "/db")) (encode "k.sql") =
      encode "/db/d/k.sql" := by decide +kernel
  have hscript := hkept [encode "d"] (encode "k.sql") (by decide +kernel) holds_fourTrees
    (by decide +kernel)
  rw [hpath] at hscript
  exact ⟨⟨hnodup, hordered, hscript⟩, by decide +kernel⟩

end Walk

end ScriptRunner
