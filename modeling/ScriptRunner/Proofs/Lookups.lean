import Mathlib
import ScriptRunner.FileTree.Resolve
import ScriptRunner.Proofs.PathNames

/-!
# Looking up directories

What a look-up finds is in the tree at the position that it gives (`find_get?`). So in a tree that
is well formed a directory lists valid names, each of them once (`isListing_of_list`). The path to a
position leads there without any link, or not at all (`find_ofLocation`), and a path that leads to
something with all links followed leads to it or to a link without following the last one
(`find_without_last`).
-/

namespace ScriptRunner

open Text

/-! ## Positions below a node -/

namespace Node

variable {node below : Node} {name : Name} {location rest : Location}
  {entries : List (Name × Node)} {access : Access}

/-- A position below another one is looked up from there. -/
lemma get?_append (node : Node) (location rest : Location) :
    node.get? (location ++ rest) = (node.get? location).bind (·.get? rest) := by
  induction location generalizing node with
  | nil => rfl
  | cons name location ih =>
    rw [List.cons_append, get?, get?, Option.bind_assoc]
    exact congrArg _ (funext fun child => ih child)

/-- An entry that is looked up is one of those of the directory. -/
lemma mem_of_lookup (h : entries.lookup name = some node) : (name, node) ∈ entries := by
  obtain ⟨front, back, rfl, -⟩ := List.lookup_eq_some_iff.1 h
  exact List.mem_append_right front List.mem_cons_self

/-- An entry of a directory is one step below it. -/
lemma get?_concat_of_lookup (h : node.get? location = some (directory entries access))
    (hname : entries.lookup name = some below) :
    node.get? (location ++ [name]) = some below := by
  have hchild : (directory entries access).get? [name] = some below := by
    change (entries.lookup name).bind some = some below
    rw [hname]
    rfl
  rw [get?_append, h]
  exact hchild

/-- What is below a node is below an entry of it, and the node is a directory. -/
lemma exists_of_get?_cons (h : node.get? (name :: rest) = some below) :
    ∃ entries access child, node = directory entries access ∧ entries.lookup name = some child ∧
      child.get? rest = some below := by
  rw [get?] at h
  obtain ⟨child, hchild, hbelow⟩ := Option.bind_eq_some_iff.1 h
  cases node with
  | file content refusal => cases hchild
  | link target => cases hchild
  | directory entries access => exact ⟨entries, access, child, rfl, hchild, hbelow⟩
  | special content refusal => cases hchild

/-- What stands above a directory is a directory. -/
lemma exists_directory_of_get? {below : List (Name × Node)} {belowAccess : Access}
    (h : node.get? location = some (.directory below belowAccess)) :
    ∃ entries access, node = .directory entries access := by
  cases location with
  | nil => exact ⟨below, belowAccess, Option.some.inj h⟩
  | cons name rest =>
    obtain ⟨entries, access, -, hnode, -⟩ := exists_of_get?_cons h
    exact ⟨entries, access, hnode⟩

/-- What is below a position has a directory there, with an entry that leads on. -/
lemma exists_of_get?_append_cons (h : node.get? (location ++ name :: rest) = some below) :
    ∃ entries access child, node.get? location = some (directory entries access) ∧
      entries.lookup name = some child ∧ child.get? rest = some below := by
  rw [get?_append] at h
  obtain ⟨above, habove, hrest⟩ := Option.bind_eq_some_iff.1 h
  obtain ⟨entries, access, child, rfl, hchild, hbelow⟩ := exists_of_get?_cons hrest
  exact ⟨entries, access, child, habove, hchild, hbelow⟩

/-- What is below a well-formed node is well formed, and the names on the way are valid. -/
lemma WellFormed.get? (h : node.WellFormed) (hbelow : node.get? location = some below) :
    below.WellFormed ∧ ∀ name ∈ location, name.IsValid := by
  induction location generalizing node with
  | nil =>
    obtain rfl : node = below := Option.some.inj hbelow
    exact ⟨h, by simp⟩
  | cons name rest ih =>
    obtain ⟨entries, access, child, rfl, hchild, hrest⟩ := exists_of_get?_cons hbelow
    cases h with
    | directory _ hvalid _ hentries =>
      obtain ⟨hwell, hnames⟩ := ih (hentries _ (mem_of_lookup hchild)) hrest
      refine ⟨hwell, fun n hn => ?_⟩
      rcases List.mem_cons.1 hn with rfl | hn
      · exact hvalid _ (mem_of_lookup hchild)
      · exact hnames n hn

end Node

namespace FileTree

variable {tree : FileTree} {how : Lookup} {here location : Location} {parts : List Name}
  {found : Found} {path : Path} {links : ℕ}

/-! ## What is found -/

/-- What is found without a link is at its position, if what is found behind links is. -/
lemma followWith_get? {jump : Location → List Name → Except FileError Found}
    (hjump : ∀ here parts, jump here parts = .ok found →
      tree.top.get? found.location = some found.node)
    (h : tree.followWith how jump here parts = .ok found) :
    tree.top.get? found.location = some found.node := by
  fun_induction followWith tree how jump here parts with
  | case2 here node hnode =>
    obtain rfl := Except.ok.inj h
    exact hnode
  | case3 _ _ _ _ _ ih => exact ih h
  | case5 _ _ _ _ _ _ _ ih => exact ih h
  | case6 _ _ _ _ _ _ _ _ ih => exact ih h
  | case8 here part rest entries access hhere _ _ _ _ target hlookup _ =>
    obtain rfl := Except.ok.inj h
    exact Node.get?_concat_of_lookup hhere hlookup
  | case10 => exact hjump _ _ h
  | case12 _ _ _ _ _ _ _ _ _ _ _ _ _ _ ih => exact ih h
  | case13 here part entries access hhere _ _ _ _ file _ _ hlookup =>
    obtain rfl := Except.ok.inj h
    exact Node.get?_concat_of_lookup hhere hlookup
  | _ => cases h

/-- What is found behind any number of links is at its position. -/
lemma follow_get? (h : tree.follow how links here parts = .ok found) :
    tree.top.get? found.location = some found.node := by
  induction links generalizing here parts with
  | zero =>
    rw [follow] at h
    refine followWith_get? (fun _ _ hjump => ?_) h
    cases hjump
  | succ links ih => exact followWith_get? (fun _ _ hjump => ih hjump) h

/-- A path leads somewhere if it is a path that is not too long, and its parts lead there. -/
lemma find_eq_ok_iff {followLast : Bool} :
    tree.find path followLast = .ok found ↔
      0 ∉ path ∧ path ≠ [] ∧ path.length ≤ maxPath ∧
        tree.follow { followLast := followLast } maxLinks (tree.start path) (Path.parts path) =
          .ok found := by
  rw [find]
  by_cases hnul : 0 ∈ path
  · simp [hnul]
  by_cases hempty : path = []
  · simp [hempty]
  by_cases hlong : maxPath < path.length
  · simp [hnul, hempty, hlong]
  · simp [hnul, hempty, hlong, Nat.le_of_not_lt hlong]

/-- What a path leads to is at its position. -/
lemma find_get? {followLast : Bool} (h : tree.find path followLast = .ok found) :
    tree.top.get? found.location = some found.node := by
  obtain ⟨-, -, -, hfollow⟩ := find_eq_ok_iff.1 h
  exact follow_get? hfollow

/-- What a path leads to with all links followed is at its position. -/
lemma canonical_get? (h : tree.canonical path = .ok found) :
    tree.top.get? found.location = some found.node := by
  rw [canonical] at h
  split at h
  · cases h
  split at h
  · cases h
  · exact follow_get? h

/-! ## Listings -/

/-- Entries of a directory as they are listed: their names are valid, and no two are the same. -/
structure IsListing (entries : List (Name × Kind)) : Prop where
  valid : ∀ e ∈ entries, e.1.IsValid
  distinct : (entries.map Prod.fst).Nodup

/-- Entries behind the first one are a listing as well. -/
lemma IsListing.tail {e : Name × Kind} {rest : List (Name × Kind)} (h : IsListing (e :: rest)) :
    IsListing rest :=
  ⟨fun f hf => h.valid f (List.mem_cons_of_mem _ hf), (List.nodup_cons.1 h.distinct).2⟩

/-- Where a path leads to a directory, its entries are listed, unless it refuses that. -/
lemma list_of_find {entries : List (Name × Node)} {access : Access}
    (h : tree.find path true = .ok ⟨location, .directory entries access⟩) :
    tree.list path =
      match access.listing with
      | some error => .error error
      | none => .ok (entries.map fun e => (e.1, e.2.kind)) := by
  rw [list, h]
  rfl

/-- What is listed for a path are the entries of a directory in the tree, which does not refuse
it. -/
lemma exists_of_list_eq_ok {entries : List (Name × Kind)} (h : tree.list path = .ok entries) :
    ∃ location below access, tree.find path true = .ok ⟨location, .directory below access⟩ ∧
      access.listing = none ∧ entries = below.map fun e => (e.1, e.2.kind) := by
  cases hfind : tree.find path true with
  | error e =>
    rw [list, hfind] at h
    cases h
  | ok found =>
    obtain ⟨location, node⟩ := found
    cases node with
    | directory below access =>
      rw [list_of_find hfind] at h
      split at h
      · cases h
      · next haccess => exact ⟨location, below, access, rfl, haccess, (Except.ok.inj h).symm⟩
    | _ =>
      rw [list, hfind] at h
      cases h

/-- A directory of a well-formed tree lists valid names, each of them once. -/
lemma isListing_of_list {entries : List (Name × Kind)} (htree : tree.top.WellFormed)
    (h : tree.list path = .ok entries) : IsListing entries := by
  obtain ⟨location, below, access, hfind, -, rfl⟩ := exists_of_list_eq_ok h
  have hdirectory : (Node.directory below access).WellFormed := (htree.get? (find_get? hfind)).1
  cases hdirectory with
  | directory _ hvalid hdistinct _ =>
    constructor
    · intro e he
      obtain ⟨entry, hentry, rfl⟩ := List.mem_map.1 he
      exact hvalid entry hentry
    · rw [List.map_map]
      exact hdistinct

/-! ## Paths without links -/

/-- Whether the last link is followed does not matter for what stands in the way to a part. -/
lemma obstacle?_followLast (followLast : Bool) (tree : FileTree) (here : Location) (access : Access)
    (part : Name) :
    Lookup.obstacle? { followLast := followLast } tree here access part =
      Lookup.obstacle? {} tree here access part := rfl

/-- From a directory on the way to a directory below it, no link is met. The operating system can
refuse to look up a name, or find it too long. -/
lemma followWith_location {entries : List (Name × Node)} {access : Access}
    (hvalid : ∀ name ∈ location, name.IsValid)
    (h : tree.top.get? (here ++ location) = some (.directory entries access)) :
    ∃ outcome, (∀ followLast jump,
        tree.followWith { followLast := followLast } jump here location = outcome) ∧
      (outcome = .ok ⟨here ++ location, .directory entries access⟩ ∨
        ∃ e, outcome = .error e) := by
  induction location generalizing here with
  | nil =>
    rw [List.append_nil] at h ⊢
    refine ⟨_, fun followLast jump => ?_, .inl rfl⟩
    rw [followWith, h]
  | cons name rest ih =>
    obtain ⟨above, aboveAccess, child, hhere, hchild, hrest⟩ := Node.exists_of_get?_append_cons h
    have hname : name.IsValid := hvalid name List.mem_cons_self
    obtain ⟨below, belowAccess, rfl⟩ := Node.exists_directory_of_get? hrest
    cases hobstacle : Lookup.obstacle? {} tree here aboveAccess name with
    | some error =>
      refine ⟨.error error, fun followLast jump => ?_, .inr ⟨error, rfl⟩⟩
      rw [followWith, hhere]
      simp [hname.ne_nil, obstacle?_followLast, hobstacle]
    | none =>
      rw [List.append_cons] at h ⊢
      obtain ⟨outcome, hfollow, houtcome⟩ :=
        ih (fun n hn => hvalid n (List.mem_cons_of_mem _ hn)) h
      refine ⟨outcome, fun followLast jump => ?_, houtcome⟩
      rw [followWith, hhere, ← hfollow followLast jump]
      simp [hname.ne_nil, hname.ne_dot, hname.ne_dots, obstacle?_followLast, hobstacle, hchild,
        Lookup.reaches]

/-- The path to a directory leads to it, or nowhere, whether the last link is followed or not. -/
lemma find_ofLocation {entries : List (Name × Node)} {access : Access}
    (htree : tree.top.WellFormed)
    (h : tree.top.get? location = some (.directory entries access)) :
    ∃ outcome, (∀ followLast, tree.find (Path.ofLocation location) followLast = outcome) ∧
      (outcome = .ok ⟨location, .directory entries access⟩ ∨ ∃ e, outcome = .error e) := by
  have hvalid := (htree.get? h).2
  have hbelow : tree.top.get? ([] ++ location) = some (.directory entries access) := h
  obtain ⟨outcome, hfollow, houtcome⟩ := followWith_location hvalid hbelow
  -- The part in front of the first slash is empty and stands for the top.
  obtain ⟨above, topAccess, htop⟩ := Node.exists_directory_of_get? h
  have habove : tree.top.get? [] = some (.directory above topAccess) := congrArg some htop
  have hparts : ∀ followLast jump,
      tree.followWith { followLast := followLast } jump [] (Path.parts (Path.ofLocation location)) =
        outcome := by
    intro followLast jump
    by_cases hnil : location = []
    · subst hnil
      have hslash : Path.parts (Path.ofLocation []) = [[], []] := rfl
      rw [hslash, followWith, habove]
      simp only [if_true]
      rw [followWith, habove]
      simp only [if_true]
      exact hfollow followLast jump
    · rw [Path.parts_ofLocation hnil hvalid, followWith, habove]
      simp only [if_true]
      exact hfollow followLast jump
  have hfind : ∀ followLast, tree.find (Path.ofLocation location) followLast =
      if (Path.ofLocation location).contains 0 then .error .nulInPath
      else if Path.ofLocation location = [] then .error .notFound
      else if (Path.ofLocation location).length > maxPath then .error .nameTooLong
      else outcome := by
    intro followLast
    rw [find, start, if_pos (Path.isAbsolute_ofLocation location)]
    rw [show tree.follow { followLast := followLast } maxLinks [] _ = outcome from
      hparts followLast _]
  refine ⟨_, hfind, ?_⟩
  split
  · exact .inr ⟨_, rfl⟩
  split
  · exact .inr ⟨_, rfl⟩
  split
  · exact .inr ⟨_, rfl⟩
  · exact houtcome

/-! ## The last link -/

/-- What is found with all links followed is found without following the last one, unless that is
where a link is. -/
lemma followWith_without_last {jump jump' : Location → List Name → Except FileError Found}
    (hjump : ∀ here parts, jump here parts = .ok found → jump' here parts = .ok found ∨
      ∃ location target, jump' here parts = .ok ⟨location, .link target⟩)
    (h : tree.followWith {} jump here parts = .ok found) :
    tree.followWith { followLast := false } jump' here parts = .ok found ∨
      ∃ location target, tree.followWith { followLast := false } jump' here parts =
        .ok ⟨location, .link target⟩ := by
  fun_induction followWith tree {} jump here parts with
  | case2 here node hnode =>
    rw [followWith, hnode]
    exact .inl h
  | case3 here rest entries access hhere ih =>
    rw [followWith, hhere]
    simpa only [if_true] using ih h
  | case5 here rest entries access hhere hpart hobstacle ih =>
    rw [followWith, hhere]
    simpa [obstacle?_followLast, hobstacle] using ih h
  | case6 here rest entries access hhere hpart hobstacle hdot ih =>
    rw [followWith, hhere]
    simpa [obstacle?_followLast, hobstacle] using ih h
  | case8 _ _ _ _ _ _ _ _ _ _ _ _ hlast => cases hlast.2
  | case10 here part rest _ _ hhere hpart hobstacle hdot hdots target hlookup _ htarget =>
    by_cases hrest : rest = []
    · refine .inr ⟨here ++ [part], target, ?_⟩
      rw [followWith, hhere]
      simp [hpart, hdot, hdots, obstacle?_followLast, hobstacle, hlookup, hrest]
    · rw [followWith, hhere]
      simpa [hpart, hdot, hdots, obstacle?_followLast, hobstacle, hlookup, hrest, htarget] using
        hjump _ _ h
  | case12 here part rest entries access hhere hpart hobstacle hdot hdots below _ hlookup hask ih =>
    rw [followWith, hhere]
    simpa [hpart, hdot, hdots, obstacle?_followLast, hobstacle, hlookup, Lookup.reaches] using ih h
  | case13 here part entries access hhere hpart hobstacle hdot hdots file hlink hdir hlookup =>
    refine .inl ?_
    rw [followWith, hhere]
    simpa [hpart, hdot, hdots, obstacle?_followLast, hobstacle, hlookup] using h
  | _ => cases h

/-- What a path leads to with all links followed is what it leads to without following the last
one, or a link is. -/
lemma find_without_last (h : tree.find path true = .ok found) :
    tree.find path false = .ok found ∨
      ∃ location target, tree.find path false = .ok ⟨location, .link target⟩ := by
  have hfollow : ∀ links here parts, tree.follow {} links here parts = .ok found →
      tree.follow { followLast := false } links here parts = .ok found ∨
        ∃ location target, tree.follow { followLast := false } links here parts =
          .ok ⟨location, .link target⟩ := by
    intro links
    induction links with
    | zero =>
      intro here parts h
      rw [follow] at h ⊢
      refine followWith_without_last (fun _ _ hjump => ?_) h
      cases hjump
    | succ links ih => exact fun here parts h => followWith_without_last ih h
  obtain ⟨hnul, hempty, hlong, hfound⟩ := find_eq_ok_iff.1 h
  rcases hfollow _ _ _ hfound with hfound | ⟨location, target, hfound⟩
  · exact .inl (find_eq_ok_iff.2 ⟨hnul, hempty, hlong, hfound⟩)
  · exact .inr ⟨location, target, find_eq_ok_iff.2 ⟨hnul, hempty, hlong, hfound⟩⟩

end FileTree

end ScriptRunner
