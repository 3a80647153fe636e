import Mathlib
import ScriptRunner.Proofs.DirectoryContents
import ScriptRunner.Proofs.EncodedTexts
import ScriptRunner.Proofs.Rehearsals

/-!
# Runs that find no scripts

A run reports that there are no scripts only if its walk yields nothing (`run_noScripts`). Such a
walk has listed every directory below the root, for a directory that cannot be listed would have
been yielded as an error. So no regular file below the root has the extension
(`hasExtension_eq_false_of_contents`).

An extension is what stands behind the last dot of a name. If the extension that is looked for has
no dot in it, the names that have it are those that end with a dot and the extension
(`hasExtension_of_endsIn`). If it has a dot in it, no name has it (`dot_notMem_of_hasExtension`),
not even one that ends with a dot and the extension.
-/

namespace ScriptRunner

open Text

variable {σ : Type}

/-! ## Dots -/

/-- A dot among the bytes of a text is a dot of the text. -/
lemma dot_mem_encode_iff (s : Text) : Walk.dot ∈ encode s ↔ '.' ∈ s := by
  rw [encode, List.mem_flatMap]
  constructor
  · rintro ⟨c, hc, hdot⟩
    obtain rfl : c = '.' := eq_of_mem_utf8EncodeChar (by decide) hdot
    exact hc
  · intro hdot
    exact ⟨'.', hdot, by decide⟩

namespace Walk

variable {tree : FileTree} {extension : Text} {directory root : Path} {name : Name}
  {stem ending : Bytes} {location : Location}

/-- Only a dot has a dot as its lower case letter. -/
lemma lowerAscii_eq_dot_iff (b : UInt8) : lowerAscii b = dot ↔ b = dot := by
  constructor
  · intro h
    rw [lowerAscii] at h
    split at h
    · next hletter =>
      -- The lower case letters stand far behind the dot.
      rw [dot, ← UInt8.toNat_inj, UInt8.toNat_add] at h
      simp only [UInt8.le_iff_toNat_le] at hletter
      simp at h hletter
      omega
    · exact h
  · rintro rfl
    rfl

/-- The name is a stem, a dot and the extension, with ASCII letters of either case. -/
def EndsIn (extension : Text) (name : Name) : Prop :=
  ∃ stem ending, name = stem ++ dot :: ending ∧ stem ≠ [] ∧
    ending.map lowerAscii = (encode extension).map lowerAscii

/-- What stands behind the last dot of a name is its extension, if something stands before. -/
lemma extension?_append (hstem : stem ≠ []) (hending : dot ∉ ending)
    (hdots : stem ++ dot :: ending ≠ [dot, dot]) :
    extension? (stem ++ dot :: ending) = some ending := by
  have hlast : ((stem ++ dot :: ending).reverse.takeWhile (· != dot)).reverse = ending := by
    have hnone : ∀ b ∈ ending.reverse, (b != dot) = true := by
      intro b hb
      simp only [bne_iff_ne, ne_eq]
      rintro rfl
      exact hending (List.mem_reverse.mp hb)
    rw [List.reverse_append, List.reverse_cons, List.append_assoc,
      List.takeWhile_append_of_pos hnone]
    simp
  rw [extension?]
  simp only [hlast]
  have hfront : (stem ++ dot :: ending).take
      ((stem ++ dot :: ending).length - (ending.length + 1)) = stem := by
    rw [List.length_append, List.length_cons, Nat.add_sub_cancel, List.take_left]
  rw [hfront, if_neg (by simp [hdots, hstem])]

/-- No dot is in the extension of a name. -/
lemma dot_notMem_of_extension? (h : extension? name = some ending) : dot ∉ ending := by
  rw [extension?] at h
  split at h
  · cases h
  · obtain rfl := Option.some.inj h
    intro hdot
    have hmem := List.mem_takeWhile_imp (List.mem_reverse.mp hdot)
    simp at hmem

/-- An extension with a dot in it is that of no name. -/
lemma dot_notMem_of_hasExtension (h : hasExtension extension name = true) : '.' ∉ extension := by
  rw [hasExtension] at h
  split at h
  · cases h
  · next found hfound =>
    rw [beq_iff_eq] at h
    rw [← dot_mem_encode_iff]
    intro hdot
    have hlower : dot ∈ found.map lowerAscii := by
      rw [h]
      exact List.mem_map.mpr ⟨dot, hdot, rfl⟩
    obtain ⟨b, hb, hbdot⟩ := List.mem_map.mp hlower
    rw [lowerAscii_eq_dot_iff] at hbdot
    exact dot_notMem_of_extension? hfound (hbdot ▸ hb)

/-- A name that ends with a dot and an extension without a dot has this extension. -/
lemma hasExtension_of_endsIn (hvalid : name.IsValid) (hextension : '.' ∉ extension)
    (h : EndsIn extension name) : hasExtension extension name = true := by
  obtain ⟨stem, ending, rfl, hstem, hlower⟩ := h
  have hending : dot ∉ ending := by
    intro hdot
    have hmem : dot ∈ (encode extension).map lowerAscii := by
      rw [← hlower]
      exact List.mem_map.mpr ⟨dot, hdot, rfl⟩
    obtain ⟨b, hb, hbdot⟩ := List.mem_map.mp hmem
    rw [lowerAscii_eq_dot_iff] at hbdot
    exact hextension ((dot_mem_encode_iff extension).mp (hbdot ▸ hb))
  rw [hasExtension, extension?_append hstem hending hvalid.ne_dots]
  exact beq_iff_eq.mpr hlower

/-! ## Walks that yield nothing -/

/-- If a walk yields nothing, every directory that it reaches was listed. -/
lemma Reaches.exists_list (h : Reaches tree root directory)
    (hnothing : contents tree extension root = []) :
    ∃ entries, tree.list directory = .ok entries := by
  cases hlist : tree.list directory with
  | ok entries => exact ⟨entries, rfl⟩
  | error error =>
    have hfailed : failed directory error ∈ contents tree extension root :=
      mem_contents_iff.mpr (.failed h hlist)
    rw [hnothing] at hfailed
    cases hfailed

/-- If a walk yields nothing, it has listed every directory below the root. -/
lemma reaches_of_get? (htree : tree.top.WellFormed)
    (hnothing : contents tree extension (Path.ofLocation location) = []) {names : List Name}
    {below : List (Name × Node)} {access : Access}
    (h : tree.top.get? (location ++ names) = some (.directory below access)) :
    Reaches tree (Path.ofLocation location) (Path.ofLocation (location ++ names)) ∧
      tree.list (Path.ofLocation (location ++ names)) =
        .ok (below.map fun e => (e.1, e.2.kind)) := by
  -- What is listed at a position that is reached are the entries that are there.
  have hlisted : ∀ (names : List Name) (below : List (Name × Node)) (access : Access),
      tree.top.get? (location ++ names) = some (.directory below access) →
      Reaches tree (Path.ofLocation location) (Path.ofLocation (location ++ names)) →
      tree.list (Path.ofLocation (location ++ names)) =
        .ok (below.map fun e => (e.1, e.2.kind)) := by
    intro names below access hget hreached
    obtain ⟨entries, hlist⟩ := hreached.exists_list hnothing
    obtain ⟨outcome, hfind, rfl | ⟨error, rfl⟩⟩ := FileTree.find_ofLocation htree hget
    · have hopened := FileTree.list_of_find (hfind true)
      rw [hlist] at hopened
      rw [hlist, hopened]
      split at hopened
      · cases hopened
      · rfl
    · rw [FileTree.list, hfind] at hlist
      cases hlist
  induction names using List.reverseRecOn generalizing below access with
  | nil =>
    have hroot : Reaches tree (Path.ofLocation location) (Path.ofLocation (location ++ [])) := by
      rw [List.append_nil]
      exact .root
    exact ⟨hroot, hlisted [] below access h hroot⟩
  | append_singleton names name ih =>
    have hvalid := (htree.get? h).2
    rw [← List.append_assoc] at h hvalid
    obtain ⟨entries, _, child, habove, hlookup, hchild⟩ := Node.exists_of_get?_append_cons h
    obtain rfl : child = .directory below access := Option.some.inj hchild
    obtain ⟨hreached, hlist⟩ := ih habove
    have hname : (name, Kind.directory) ∈ entries.map fun e => (e.1, e.2.kind) :=
      List.mem_map.mpr ⟨_, Node.mem_of_lookup hlookup, rfl⟩
    have hbelow := hreached.child hlist hname
    rw [Path.child_ofLocation hvalid, List.append_assoc] at hbelow
    exact ⟨hbelow, hlisted _ below access (by rwa [← List.append_assoc]) hbelow⟩

/-- If a walk yields nothing, no regular file below the root has the extension. -/
lemma hasExtension_eq_false_of_contents (htree : tree.top.WellFormed)
    (hnothing : contents tree extension (Path.ofLocation location) = []) {names : List Name}
    {content : Bytes} {refusal : Option FileError}
    (h : tree.top.get? (location ++ names ++ [name]) = some (.file content refusal)) :
    hasExtension extension name = false := by
  by_contra hextension
  rw [Bool.not_eq_false] at hextension
  obtain ⟨entries, _, child, habove, hlookup, hchild⟩ := Node.exists_of_get?_append_cons h
  obtain rfl : child = .file content refusal := Option.some.inj hchild
  obtain ⟨hreached, hlist⟩ := reaches_of_get? htree hnothing habove
  have hname : (name, Kind.file) ∈ entries.map fun e => (e.1, e.2.kind) :=
    List.mem_map.mpr ⟨_, Node.mem_of_lookup hlookup, rfl⟩
  have hscript := mem_contents_iff.mpr
    (IsFrom.script hreached hlist hname hextension (.inl rfl))
  rw [hnothing] at hscript
  cases hscript

end Walk

/-! ## Runs that report it -/

namespace Runner

variable {runner : Runner σ} {s : RunState σ} {path : Path} {extension : Text}

/-- Applying a script does not end with the report that there are none. -/
lemma applyScript_ne_noScripts (script : ScriptFile) (summary : Summary) (s : RunState σ) :
    (runner.applyScript script summary s).1 ≠ .error (.noScripts path extension) := by
  cases hread : s.tree.readText script.path with
  | error error =>
    rw [runner.applyScript_unreadable script summary hread]
    simp
  | ok content =>
    obtain ⟨_, failure, -, -, hresult⟩ := runner.applyScript_executes script summary hread
    rw [hresult]
    cases failure with
    | none => simp
    | some failure => simp [reported]

/-- Applying items does not end with the report that there are no scripts. -/
lemma applyItems_ne_noScripts (summary : Summary) (item : Item) (walk : Walk) (budget : ℕ)
    (s : RunState σ) :
    (runner.applyItems summary item walk budget s).1 ≠ .error (.noScripts path extension) := by
  fun_induction applyItems runner summary item walk budget s with
  | case1 => simp
  | case2 _ summary _ s script error _ happly =>
    have hscript : (runner.applyScript script summary s).1 ≠ .error (.noScripts path extension) :=
      applyScript_ne_noScripts script summary s
    rw [happly] at hscript
    exact fun h => hscript h
  | case3 => simp [*]
  | case4 => simp [*]
  | case5 _ _ _ _ _ _ _ _ _ _ _ ih => exact ih

/-- A run reports that there are no scripts only if its walk yields nothing, and it names the root
and the extension that were looked for. -/
lemma run_noScripts (h : (runner.run s).1 = .error (.noScripts path extension)) :
    path = runner.locator.root ∧ extension = runner.locator.extension ∧
      runner.locator.scripts s.tree = .ok [] := by
  rcases runner.locator.fruitless_or_first s.tree with
    hfruitless | ⟨root, first, rest, hroot, hnext⟩
  · rcases hfruitless with ⟨error, hscripts⟩ | hscripts | ⟨error, items, hscripts⟩
    · rw [(runner.run_of_unfounded (.noRoot error hscripts)).1] at h
      cases h
    · rw [(runner.run_of_unfounded (.noScripts hscripts)).1] at h
      cases h
      exact ⟨rfl, rfl, hscripts⟩
    · rw [(runner.run_of_unfounded (.notListed error items hscripts)).1] at h
      cases h
  · change (runner.locateAndApply s).1 = _ at h
    rw [runner.locateAndApply_eq_of_first hroot hnext] at h
    rcases hconnect : runner.connector.connect (runner.located root s).session
      with ⟨session, error | notes⟩
    · rw [(runner.applyInSession_of_error _ _ _ hconnect).2] at h
      cases h
    · rw [runner.applyInSession_eq_of_ok _ _ _ hconnect] at h
      exact absurd h (applyItems_ne_noScripts _ _ _ _ _)

/-- **That there are no scripts is reported only where there are none.** A run that reports so names
the root and the extension without its leading dots. The root leads to a directory, and no regular
file in it, or in a directory below it, has the extension: if this has no dot in it, no name of such
a file consists of a stem, a dot and the extension. An extension with a dot in it is that of no name
at all, since the extension of a name stands behind its last dot. -/
theorem run_noScripts_truthful (runner : Runner σ) {s : RunState σ} (base : Locator) (given : Text)
    (htree : s.tree.top.WellFormed) (hlocator : runner.locator = base.withExtension given)
    (hrun : (runner.run s).1 = .error (.noScripts path extension)) :
    path = base.root ∧ extension = given.dropWhile (· == '.') ∧
    (∃ location entries access,
      s.tree.canonical base.root = .ok ⟨location, .directory entries access⟩ ∧
      ∀ names name content refusal,
        s.tree.top.get? (location ++ names ++ [name]) = some (.file content refusal) →
        Walk.hasExtension extension name = false ∧
          ('.' ∉ extension → ¬ Walk.EndsIn extension name)) ∧
    ('.' ∈ extension → ∀ name, Walk.hasExtension extension name = false) := by
  obtain ⟨rfl, rfl, hscripts⟩ := run_noScripts hrun
  have hroot : runner.locator.root = base.root := by rw [hlocator]; rfl
  have hextension : runner.locator.extension = given.dropWhile (· == '.') := by rw [hlocator]; rfl
  refine ⟨hroot, hextension, ?_, fun hdot name => ?_⟩
  · cases hresolved : runner.locator.resolveRoot s.tree with
    | error error =>
      rw [Locator.scripts_of_error hresolved] at hscripts
      cases hscripts
    | ok root =>
      obtain ⟨location, entries, access, rfl, hcanonical⟩ :=
        Locator.canonical_of_resolveRoot hresolved
      have hget := FileTree.canonical_get? hcanonical
      have hnothing :
          Walk.contents s.tree runner.locator.extension (Path.ofLocation location) = [] := by
        rw [← Walk.items_unopened htree hget]
        rw [Locator.scripts_of_ok hresolved] at hscripts
        exact Except.ok.inj hscripts
      rw [hroot] at hcanonical
      refine ⟨location, entries, access, hcanonical, fun names name content refusal hfile => ?_⟩
      have hnot := Walk.hasExtension_eq_false_of_contents htree hnothing hfile
      refine ⟨hnot, fun hdot hends => ?_⟩
      have hvalid : name.IsValid := (htree.get? hfile).2 name (by simp)
      rw [Walk.hasExtension_of_endsIn hvalid hdot hends] at hnot
      cases hnot
  · by_contra hhas
    rw [Bool.not_eq_false] at hhas
    exact Walk.dot_notMem_of_hasExtension hhas hdot

end Runner

/-! ## An example -/

/-- A directory with one script, whose name has two dots. -/
def versionedScript : FileTree where
  top := .directory
    [(encode "db", .directory [(encode "1.up.sql", .file (encode "A;\n"))])]

/-- The cautious runner for scripts with another extension. -/
def runnerFor (extension : Text) : Runner Unit :=
  { cautiousRunner with locator := cautiousRunner.locator.withExtension extension }

/-- No two entries in one of its directories have the same name. -/
lemma wellFormed_versionedScript : versionedScript.top.WellFormed := by
  refine .directory _ (by decide +kernel) (by decide +kernel) ?_
  rw [List.forall_mem_singleton]
  refine .directory _ (by decide +kernel) (by decide +kernel) ?_
  rw [List.forall_mem_singleton]
  exact .file _

/-- A run for another extension reports that there are no scripts, and the name of the only file
does not end with it. -/
theorem run_noScripts_truthful_versionedScript :
    ((runnerFor ".txt").run { tree := versionedScript, session := () }).1 =
      .error (.noScripts (encode "/db") "txt") ∧
    ¬ Walk.EndsIn "txt" (encode "1.up.sql") := by
  have hrun : ((runnerFor ".txt").run { tree := versionedScript, session := () }).1 =
      .error (.noScripts (encode "/db") "txt") := by decide +kernel
  refine ⟨hrun, ?_⟩
  obtain ⟨-, -, ⟨location, entries, access, hcanonical, hfiles⟩, -⟩ :=
    (runnerFor ".txt").run_noScripts_truthful (s := { tree := versionedScript, session := () })
      cautiousRunner.locator ".txt" wellFormed_versionedScript rfl hrun
  have hroot : versionedScript.canonical cautiousRunner.locator.root =
      .ok ⟨[encode "db"], .directory [(encode "1.up.sql", .file (encode "A;\n"))]⟩ := rfl
  obtain ⟨rfl, -⟩ := FileTree.Found.mk.inj (Except.ok.inj (hroot.symm.trans hcanonical))
  exact (hfiles [] (encode "1.up.sql") (encode "A;\n") none rfl).2 (by decide +kernel)

/-- A run for an extension with a dot in it reports that there are no scripts, although the name of
a file in the root ends with it. -/
theorem run_noScripts_compoundExtension :
    ((runnerFor "up.sql").run { tree := versionedScript, session := () }).1 =
      .error (.noScripts (encode "/db") "up.sql") ∧
    versionedScript.top.get? [encode "db", encode "1.up.sql"] = some (.file (encode "A;\n")) ∧
    Walk.EndsIn "up.sql" (encode "1.up.sql") :=
  ⟨by decide +kernel, rfl, encode "1", encode "up.sql", by decide +kernel, by decide +kernel, rfl⟩

end ScriptRunner
