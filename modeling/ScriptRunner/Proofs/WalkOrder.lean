import Mathlib
import ScriptRunner.Proofs.WalkYields

/-!
# The order of items

What a walk yields comes in an order (`Walk.IsOrdered`): in each directory the scripts first, then
what comes from its subdirectories, both by name, and all that comes from one directory in one
piece. No two items have the same path.

Both follow from one fact about any two items. The names on their paths are the same up to some
directory, and there they part: the two go on with entries of other names, of which the one that
belongs to the earlier item is listed in front (`Precedes`, `followEntries_of_yields`). This holds
of all that a walk can yield, because each directory is listed once.
-/

namespace ScriptRunner

open Text

/-! ## Paths of items -/

/-- The path that an error is about. -/
def LocateError.path : LocateError → Path
  | .directoryNotFound root => root
  | .discoveryFailed path _ => path

namespace Item

/-- The path of a script, or of a directory that could not be opened. -/
def path : Item → Path
  | .ok script => script.path
  | .error error => error.path

/-- The directory that an item comes from: the one in which a script lies, or the one that could not
be opened. -/
def directory : Item → Location
  | .ok script => (Path.names script.path).dropLast
  | .error error => Path.names error.path

/-- The names on the path of an item, each with whether it is that of a directory. -/
def way : Item → List (Name × Bool)
  | .ok script =>
    (Path.names script.path).dropLast.map (·, true)
      ++ (Path.names script.path).getLast?.toList.map (·, false)
  | .error error => (Path.names error.path).map (·, true)

variable {item : Item} {script : ScriptFile} {location : Location} {name : Name}

/-- The way to an item goes over the names on its path. -/
lemma map_fst_way (item : Item) : item.way.map Prod.fst = Path.names item.path := by
  have hpair : ∀ (b : Bool) (names : List Name), (names.map (·, b)).map Prod.fst = names := by
    intro b names
    rw [List.map_map]
    exact List.map_id names
  cases item with
  | error error => exact hpair true _
  | ok script =>
    rw [way, List.map_append, hpair, hpair, path]
    rcases List.eq_nil_or_concat (Path.names script.path) with hnil | ⟨front, last, hconcat⟩
    · rw [hnil]
      rfl
    · rw [hconcat, List.concat_eq_append]
      simp

/-- The way to a script with the given names on its path. -/
lemma way_ok (h : Path.names script.path = location ++ [name]) :
    way (.ok script) = location.map (·, true) ++ [(name, false)] := by
  rw [way, h]
  simp

/-- An item comes from a directory, or from below it, if the way to the item leads through it. -/
lemma prefix_directory_iff (item : Item) (location : Location) :
    location <+: item.directory ↔ location.map (·, true) <+: item.way := by
  have hinjective : Function.Injective fun name : Name => (name, true) :=
    fun _ _ h => congrArg Prod.fst h
  cases item with
  | error error => exact (List.prefix_map_iff_of_injective hinjective).symm
  | ok script =>
    rcases List.eq_nil_or_concat (Path.names script.path) with hnil | ⟨front, last, hconcat⟩
    · rw [directory, way, hnil]
      exact (List.prefix_map_iff_of_injective hinjective).symm
    · rw [List.concat_eq_append] at hconcat
      rw [directory, way_ok hconcat, hconcat, List.dropLast_concat, List.prefix_concat_iff,
        List.prefix_map_iff_of_injective hinjective]
      constructor
      · exact .inr
      · rintro (hwhole | hfront)
        · -- The last name on the way is that of the script, and of no directory.
          have hlast : (last, false) ∈ location.map fun name : Name => (name, true) := by
            rw [hwhole]
            exact List.mem_append_right _ List.mem_cons_self
          obtain ⟨_, -, heq⟩ := List.mem_map.1 hlast
          cases heq
        · exact hfront

end Item

namespace Walk

/-! ## Ways that part -/

/-- The order of two entries of one directory, by name within those that are directories and those
that are not. -/
def StepLe (a b : Name × Bool) : Prop := (a.2 = b.2 ∧ a.1 ≤ b.1) ∨ (a.2 = false ∧ b.2 = true)

/-- Two entries of different names do not come both before each other. -/
lemma StepLe.eq_of_le {a b : Name × Bool} (h : StepLe a b) (h' : StepLe b a) : a.1 = b.1 := by
  rcases h with ⟨hkind, hle⟩ | ⟨ha, hb⟩
  · rcases h' with ⟨-, hle'⟩ | ⟨hb, ha⟩
    · exact Std.le_antisymm hle hle'
    · rw [ha, hb] at hkind
      cases hkind
  · rcases h' with ⟨hkind, -⟩ | ⟨hb', -⟩
    · rw [ha, hb] at hkind
      cases hkind
    · rw [hb] at hb'
      cases hb'

/-- Two ways that are the same up to where they part, with the entry of the first one listed before
that of the second. -/
inductive Precedes : List (Name × Bool) → List (Name × Bool) → Prop
  | parts {a b : Name × Bool} (rest rest' : List (Name × Bool)) (hname : a.1 ≠ b.1)
      (hle : StepLe a b) : Precedes (a :: rest) (b :: rest')
  | cons (c : Name × Bool) {rest rest' : List (Name × Bool)} (h : Precedes rest rest') :
      Precedes (c :: rest) (c :: rest')

namespace Precedes

variable {a b : Name × Bool} {front rest way way' way'' : List (Name × Bool)}

/-- Two ways part behind what they have in common. -/
lemma of_begin (h : front ++ [a] <+: way) (h' : front ++ [b] <+: way') (hname : a.1 ≠ b.1)
    (hle : StepLe a b) : Precedes way way' := by
  obtain ⟨rest, rfl⟩ := h
  obtain ⟨rest', rfl⟩ := h'
  induction front with
  | nil => exact .parts _ _ hname hle
  | cons c front ih => exact .cons c ih

/-- No way precedes the one to the top. -/
lemma ne_nil (h : Precedes way way') : way' ≠ [] := by
  cases h with
  | parts _ _ _ _ => exact List.cons_ne_nil _ _
  | cons _ _ => exact List.cons_ne_nil _ _

/-- Behind what two ways have in common they either part at once, or go on together and part
later. -/
lemma parts_or_cons {rest' : List (Name × Bool)}
    (h : Precedes (front ++ a :: rest) (front ++ b :: rest')) :
    a.1 ≠ b.1 ∧ StepLe a b ∨ a = b ∧ Precedes rest rest' := by
  induction front with
  | nil =>
    cases h with
    | parts _ _ hname hle => exact .inl ⟨hname, hle⟩
    | cons _ h => exact .inr ⟨rfl, h⟩
  | cons c front ih =>
    cases h with
    | parts _ _ hname _ => exact absurd rfl hname
    | cons _ h => exact ih h

/-- The names on ways that part are not the same. -/
lemma map_fst_ne (h : Precedes way way') : way.map Prod.fst ≠ way'.map Prod.fst := by
  induction h with
  | parts _ _ hname _ => exact fun heq => hname (List.cons.inj heq).1
  | cons _ _ ih => exact fun heq => ih (List.cons.inj heq).2

/-- A way between two others goes on as both of them begin. -/
lemma prefix_between (h : Precedes way way') (h' : Precedes way' way'') (hfront : front <+: way)
    (hfront' : front <+: way'') : front <+: way' := by
  induction front generalizing way way' way'' with
  | nil => exact List.nil_prefix
  | cons c front ih =>
    obtain ⟨rest, rfl⟩ := hfront
    obtain ⟨rest'', rfl⟩ := hfront'
    cases h with
    | parts _ _ hname hle =>
      -- The way in the middle comes behind this entry and before it.
      cases h' with
      | parts _ _ _ hle' => exact absurd (hle.eq_of_le hle') hname
      | cons _ _ => exact absurd rfl hname
    | cons _ h =>
      cases h' with
      | parts _ _ hname _ => exact absurd rfl hname
      | cons _ h' =>
        exact List.cons_prefix_cons.2 ⟨rfl, ih h h' ⟨rest, rfl⟩ ⟨rest'', rfl⟩⟩

end Precedes

/-! ## The order of a yield -/

/-- A listed entry on the way to what comes from it. -/
def step (entry : Name × Kind) : Name × Bool := (entry.1, decide (entry.2 = .directory))

/-- Entries come on ways in the order of siblings. -/
lemma stepLe_of_siblingLe {a b : Name × Kind} (h : siblingLe a b = true) :
    StepLe (step a) (step b) := by
  unfold siblingLe at h
  unfold StepLe step
  by_cases ha : a.2 = .directory <;> by_cases hb : b.2 = .directory <;> simp_all

variable {seen : FileTree → Prop} {tree : FileTree} {extension : Text} {directory : Path}
  {entries rest listed : List (Name × Kind)} {items : List Item}

/-- The entries of a directory of a well-formed tree are listed with valid names, each of them once,
and in the order of siblings. -/
lemma isListing_of_enter (htree : tree.top.WellFormed) (h : enter tree directory = .ok listed) :
    FileTree.IsListing listed ∧ listed.Pairwise (siblingLe · ·) := by
  obtain ⟨entries, hlist, rfl⟩ := exists_list_of_enter h
  obtain ⟨hvalid, hdistinct⟩ := FileTree.isListing_of_list htree hlist
  refine ⟨⟨fun e he => hvalid e ((inOrder_perm entries).mem_iff.1 he), ?_⟩,
    pairwise_inOrder entries⟩
  exact ((inOrder_perm entries).map Prod.fst).nodup_iff.2 hdistinct

/-- Items that come from some entries of a directory, in the order of these entries. -/
structure FollowEntries (directory : Path) (entries : List (Name × Kind)) (items : List Item) :
    Prop where
  /-- The way to each item leads over one of the entries. -/
  leads : ∀ item ∈ items, ∃ e ∈ entries,
    (Path.names directory).map (·, true) ++ [step e] <+: item.way
  /-- Of two items the way to the earlier one precedes that to the later one. -/
  precede : items.Pairwise fun x y => Precedes x.way y.way

/-- Items that come from the first entry stand before those that come from the others. -/
lemma FollowEntries.cons {e : Name × Kind} {front : List Item}
    (h : FollowEntries directory rest items) (hlisting : FileTree.IsListing (e :: rest))
    (hsorted : (e :: rest).Pairwise (siblingLe · ·))
    (hleads : ∀ item ∈ front, (Path.names directory).map (·, true) ++ [step e] <+: item.way)
    (hfront : front.Pairwise fun x y => Precedes x.way y.way) :
    FollowEntries directory (e :: rest) (front ++ items) where
  leads := by
    intro item hitem
    rcases List.mem_append.1 hitem with hitem | hitem
    · exact ⟨e, List.mem_cons_self, hleads item hitem⟩
    · obtain ⟨f, hf, hway⟩ := h.leads item hitem
      exact ⟨f, List.mem_cons_of_mem _ hf, hway⟩
  precede := by
    refine List.pairwise_append.2 ⟨hfront, h.precede, fun x hx y hy => ?_⟩
    obtain ⟨f, hf, hway⟩ := h.leads y hy
    have hname : e.1 ≠ f.1 := fun heq =>
      (List.nodup_cons.1 hlisting.distinct).1 (heq ▸ List.mem_map_of_mem hf)
    exact .of_begin (hleads x hx) hway hname
      (stepLe_of_siblingLe ((List.pairwise_cons.1 hsorted).1 f hf))

/-- What entries yield comes from them, and in their order. -/
lemma followEntries_of_yields (hseen : ∀ tree, seen tree → tree.top.WellFormed)
    (h : Yields seen extension directory entries items) (hentries : FileTree.IsListing entries)
    (hsorted : entries.Pairwise (siblingLe · ·)) : FollowEntries directory entries items := by
  induction h with
  | nil => exact ⟨by simp, .nil⟩
  | skipped _ _ _ _ _ ih =>
    have hrest := ih hentries.tail (List.pairwise_cons.1 hsorted).2
    exact hrest.cons hentries hsorted (by simp) .nil
  | @script directory name kind rest items _ _ hkind _ _ ih =>
    have hrest := ih hentries.tail (List.pairwise_cons.1 hsorted).2
    change FollowEntries _ _ ([_] ++ items)
    refine hrest.cons hentries hsorted (fun item hitem => ?_) (List.pairwise_singleton _ _)
    rw [List.mem_singleton.1 hitem, step, decide_eq_false hkind,
      Item.way_ok (Path.names_child directory (hentries.valid _ List.mem_cons_self))]
  | @unopened directory name rest items _ _ error _ _ ih =>
    have hrest := ih hentries.tail (List.pairwise_cons.1 hsorted).2
    change FollowEntries _ _ ([_] ++ items)
    refine hrest.cons hentries hsorted (fun item hitem => ?_) (List.pairwise_singleton _ _)
    rw [List.mem_singleton.1 hitem, failed, Item.way, LocateError.path,
      Path.names_child directory (hentries.valid _ List.mem_cons_self), List.map_append]
    exact List.prefix_rfl
  | @entered directory name rest listed items inner tree htree henter _ _ ihinner ih =>
    have hrest := ih hentries.tail (List.pairwise_cons.1 hsorted).2
    obtain ⟨hlisting, hlisted⟩ := isListing_of_enter (hseen tree htree) henter
    have hinner := ihinner hlisting hlisted
    refine hrest.cons hentries hsorted (fun item hitem => ?_) hinner.precede
    -- The way to an item from below the directory leads over the entry that the directory is.
    obtain ⟨e, -, hway⟩ := hinner.leads item hitem
    rw [Path.names_child directory (hentries.valid _ List.mem_cons_self), List.map_append] at hway
    exact (List.prefix_append _ _).trans hway

/-! ## What the order means -/

/-- The order of items. -/
structure IsOrdered (items : List Item) : Prop where
  /-- No item from below a directory comes before a script that lies in it. -/
  scripts_first : items.Pairwise fun x y => y.isOk = true →
    ∀ name, ¬ y.directory ++ [name] <+: x.directory
  /-- Scripts in one directory come in the order of their names. -/
  scripts_ascend : items.Pairwise fun x y => x.isOk = true → y.isOk = true →
    ∀ directory name name', Path.names x.path = directory ++ [name] →
      Path.names y.path = directory ++ [name'] → name < name'
  /-- What comes from the subdirectories of one directory comes in the order of their names. -/
  directories_ascend : items.Pairwise fun x y => ∀ directory name name',
    directory ++ [name] <+: x.directory → directory ++ [name'] <+: y.directory → name ≤ name'
  /-- Between items from below a directory there are no others. -/
  contiguous : ∀ x y z directory, [x, y, z].Sublist items →
    directory <+: x.directory → directory <+: z.directory → directory <+: y.directory

/-- Items whose ways precede each other are in order. -/
lemma isOrdered_of_pairwise (h : items.Pairwise fun x y => Precedes x.way y.way) :
    IsOrdered items where
  scripts_first := by
    refine h.imp fun {x y} hxy hy name hx => ?_
    rw [Item.prefix_directory_iff, List.map_append] at hx
    cases y with
    | error error => cases hy
    | ok script =>
      obtain hnil | ⟨front, last, hconcat⟩ := List.eq_nil_or_concat (Path.names script.path)
      · refine absurd ?_ hxy.ne_nil
        rw [Item.way, hnil]
        rfl
      · rw [List.concat_eq_append] at hconcat
        rw [Item.directory, hconcat, List.dropLast_concat] at hx
        rw [Item.way_ok hconcat] at hxy
        obtain ⟨rest, hway⟩ := hx
        rw [← hway, List.append_assoc] at hxy
        -- The way to the script goes on with no directory, so it comes first.
        rcases hxy.parts_or_cons with ⟨-, ⟨hkind, -⟩ | ⟨hkind, -⟩⟩ | ⟨hstep, -⟩
        · cases hkind
        · cases hkind
        · cases hstep
  scripts_ascend := by
    refine h.imp fun {x y} hxy hx hy directory name name' hnames hnames' => ?_
    cases x with
    | error error => cases hx
    | ok script =>
    cases y with
    | error error => cases hy
    | ok script' =>
      rw [Item.way_ok hnames, Item.way_ok hnames'] at hxy
      rcases hxy.parts_or_cons with ⟨hne, ⟨-, hle⟩ | ⟨-, hkind⟩⟩ | ⟨-, hnil⟩
      · exact Std.lt_of_le_of_ne hle hne
      · cases hkind
      · cases hnil
  directories_ascend := by
    refine h.imp fun {x y} hxy directory name name' hx hy => ?_
    rw [Item.prefix_directory_iff, List.map_append] at hx hy
    obtain ⟨rest, hx⟩ := hx
    obtain ⟨rest', hy⟩ := hy
    rw [← hx, ← hy, List.append_assoc, List.append_assoc] at hxy
    rcases hxy.parts_or_cons with ⟨-, ⟨-, hle⟩ | ⟨hkind, -⟩⟩ | ⟨hstep, -⟩
    · exact hle
    · cases hkind
    · cases hstep
      exact Std.le_refl _
  contiguous := by
    intro x y z directory hsublist hx hz
    rw [Item.prefix_directory_iff] at hx hz ⊢
    have hxyz := h.sublist hsublist
    simp only [List.pairwise_cons, List.mem_cons, forall_eq_or_imp] at hxyz
    exact hxyz.1.1.prefix_between hxyz.2.1.1 hx hz

/-- Items whose ways precede each other have different paths. -/
lemma nodup_path_of_pairwise (h : items.Pairwise fun x y => Precedes x.way y.way) :
    (items.map Item.path).Nodup := by
  rw [List.Nodup, List.pairwise_map]
  refine h.imp fun {x y} hxy heq => hxy.map_fst_ne ?_
  rw [Item.map_fst_way, Item.map_fst_way, heq]

end Walk

end ScriptRunner
