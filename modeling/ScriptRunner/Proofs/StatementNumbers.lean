import Mathlib
import ScriptRunner.Proofs.EncodedTexts
import ScriptRunner.Proofs.Occurrences
import ScriptRunner.Proofs.Rehearsals

/-!
# The numbers of a dry run

A dry run shows each statement behind a number in brackets. The number is a count that is kept in
the session, and one session lasts for all scripts. So the entry of a script is numbered behind the
statements of all scripts before it (`rehearsed_append`), and what is shown tells which numbers
these are (`number_eq_of_echo_append`).

The entries that a reader of one script expects start with the number one
(`Runner.numberedEntry 0`). A dry run shows these for all scripts exactly if no script with
statements stands behind another one (`rehearsed_eq_flatMap_iff`).
-/

namespace ScriptRunner

open Text Script

variable {σ : Type}

/-! ## Texts of numbers -/

namespace Text

/-- A number is written in digits. -/
lemma isDigit_of_mem_ofNat {n : ℕ} {c : Char} (h : c ∈ ofNat n) : c.isDigit = true :=
  Nat.isDigit_of_mem_toDigits (by decide) (by decide) h

/-- Numbers are told apart by their digits. -/
lemma ofNat_injective : Function.Injective ofNat := by
  intro m n h
  have hread := congrArg (Nat.ofDigitChars 10 · 0) h
  rwa [ofNat, ofNat, Nat.ofDigitChars_ten_toDigits, Nat.ofDigitChars_ten_toDigits] at hread

/-- A number is read off a text up to the character behind its digits. -/
lemma eq_of_ofNat_append {m n : ℕ} {c : Char} {s t : Text} (hc : c.isDigit = false)
    (h : ofNat m ++ c :: s = ofNat n ++ c :: t) : m = n := by
  have hread : ∀ (n : ℕ) (s : Text), (ofNat n ++ c :: s).takeWhile Char.isDigit = ofNat n := by
    intro n s
    rw [List.takeWhile_append_of_pos fun _ => isDigit_of_mem_ofNat,
      List.takeWhile_cons_of_neg (by simp [hc]), List.append_nil]
  apply ofNat_injective
  rw [← hread m s, ← hread n t, h]

/-- A style puts the same sequences around every text that has no sequence of its own. -/
lemma exists_paint_eq (styled : Bool) (style : Style) :
    ∃ before behind : Text, ∀ s, '\x1b' ∉ s → paint styled style s = before ++ s ++ behind := by
  cases styled with
  | false => exact ⟨[], [], fun s _ => by rw [List.nil_append, List.append_nil]; rfl⟩
  | true =>
    refine ⟨style.start, styleReset, fun s hs => ?_⟩
    have hcut : cut styleReset s = none := by
      rw [cut_eq_none_iff, Bool.eq_false_iff]
      intro h
      have hreset : styleReset <:+: s := contains_eq_true_iff.mp h
      exact hs (hreset.subset List.mem_cons_self)
    rw [paint, if_pos rfl, replaceAll, dif_neg (by decide)]
    split
    · rfl
    · rename_i heq
      rw [hcut] at heq
      cases heq

end Text

namespace Runner

variable (runner : Runner σ)

/-! ## Numbered statements -/

/-- A statement is shown with its number between two fixed texts, and a bracket ends the number. -/
lemma exists_echo_eq :
    ∃ before behind : Text, ∀ number statement,
      runner.echo number statement =
        before ++ (Text.ofNat number ++ ']' :: (behind ++ statement.sql)) := by
  obtain ⟨before, behind, hpaint⟩ := exists_paint_eq runner.coloured (.ofColour .cyan)
  refine ⟨"\n    " ++ before ++ ['['], behind ++ " ", fun number statement => ?_⟩
  have hplain : '\x1b' ∉ ['['] ++ Text.ofNat number ++ [']'] := by
    intro h
    rw [List.mem_append, List.mem_append] at h
    rcases h with (h | h) | h
    · exact absurd h (by decide)
    · exact absurd (isDigit_of_mem_ofNat h) (by decide)
    · exact absurd h (by decide)
  have hshown : runner.echo number statement =
      "\n    " ++ Text.paint runner.coloured (.ofColour .cyan)
        (['['] ++ Text.ofNat number ++ [']']) ++ " " ++ statement.sql := rfl
  rw [hshown, hpaint _ hplain]
  simp only [List.append_assoc, List.cons_append, List.nil_append]

/-- The number of a statement can be read off what is shown. -/
lemma number_eq_of_echo_append {m n : ℕ} {statement statement' : Statement} {s t : Text}
    (h : runner.echo m statement ++ s = runner.echo n statement' ++ t) : m = n := by
  obtain ⟨before, behind, hecho⟩ := runner.exists_echo_eq
  simp only [hecho, List.append_assoc, List.cons_append, List.append_cancel_left_eq] at h
  exact eq_of_ofNat_append rfl h

/-- The entry of a script whose statements are numbered one after the other, behind a count. -/
def numberedEntry (count : ℕ) (script : ReadScript) : Text :=
  runner.heading script.1
    ++ ((split script.2).statements.zipIdx (count + 1)).flatMap
      (fun numbered => runner.echo numbered.2 numbered.1)
    ++ runner.verdict true

/-- Statements are shown with the numbers behind the count. -/
lemma echoes_eq_flatMap (count : ℕ) (statements : List Statement) :
    runner.echoes count statements =
      (statements.zipIdx (count + 1)).flatMap fun numbered =>
        runner.echo numbered.2 numbered.1 := by
  induction statements generalizing count with
  | nil => rfl
  | cons statement rest ih => rw [echoes, ih, List.zipIdx_cons, List.flatMap_cons]

/-- Behind one entry the count goes on. -/
lemma rehearsed_cons (count : ℕ) (script : ReadScript) (rest : List ReadScript) :
    runner.rehearsed count (script :: rest) =
      runner.numberedEntry count script
        ++ runner.rehearsed (count + (split script.2).statements.length) rest := by
  rw [rehearsed, echoes_eq_flatMap, numberedEntry]

/-- Behind the entries of several scripts the count goes on. -/
lemma rehearsed_append (count : ℕ) (scripts more : List ReadScript) :
    runner.rehearsed count (scripts ++ more) =
      runner.rehearsed count scripts
        ++ runner.rehearsed (count + (statementsOf scripts).length) more := by
  induction scripts generalizing count with
  | nil => rfl
  | cons script rest ih =>
    rw [List.cons_append, rehearsed_cons, ih, rehearsed_cons, List.append_assoc, statementsOf,
      statementsOf, List.flatMap_cons, List.length_append, Nat.add_assoc]

/-- Behind different counts the entry of a script differs in the number of its first statement, if
it has one. -/
lemma numberedEntry_append_eq_iff {m n : ℕ} {script : ReadScript} {s t : Text} :
    runner.numberedEntry m script ++ s = runner.numberedEntry n script ++ t ↔
      (m = n ∨ (split script.2).statements = []) ∧ s = t := by
  constructor
  · intro h
    cases hstatements : (split script.2).statements with
    | nil =>
      rw [numberedEntry, numberedEntry, hstatements, List.zipIdx_nil, List.zipIdx_nil] at h
      exact ⟨.inr rfl, List.append_cancel_left h⟩
    | cons statement rest =>
      have hnumber : m = n := by
        simp only [numberedEntry, hstatements, List.zipIdx_cons, List.flatMap_cons,
          List.append_assoc, List.append_cancel_left_eq] at h
        exact Nat.succ_injective (runner.number_eq_of_echo_append h)
      rw [hnumber] at h
      exact ⟨.inl hnumber, List.append_cancel_left h⟩
  · rintro ⟨rfl | hnone, rfl⟩
    · rfl
    · rw [numberedEntry, numberedEntry, hnone, List.zipIdx_nil, List.zipIdx_nil]

/-- Behind different counts the entry of a script is the same one if it has no statements, and only
then. -/
lemma numberedEntry_eq_iff {m n : ℕ} {script : ReadScript} :
    runner.numberedEntry m script = runner.numberedEntry n script ↔
      m = n ∨ (split script.2).statements = [] := by
  have h : runner.numberedEntry m script ++ [] = runner.numberedEntry n script ++ [] ↔ _ :=
    runner.numberedEntry_append_eq_iff
  rwa [List.append_nil, List.append_nil, and_iff_left rfl] at h

/-- Scripts behind a count are shown as if each one was the first exactly if nothing is counted
before any script with statements. -/
lemma rehearsed_eq_flatMap_iff (count : ℕ) (scripts : List ReadScript) :
    runner.rehearsed count scripts = scripts.flatMap (runner.numberedEntry 0) ↔
      ∀ before script behind, scripts = before ++ script :: behind →
        count + (statementsOf before).length = 0 ∨ (split script.2).statements = [] := by
  induction scripts generalizing count with
  | nil =>
    refine iff_of_true rfl fun before script behind h => ?_
    cases before <;> cases h
  | cons first rest ih =>
    have hlength : ∀ before : List ReadScript, (statementsOf (first :: before)).length =
        (split first.2).statements.length + (statementsOf before).length := by
      intro before
      rw [statementsOf, statementsOf, List.flatMap_cons, List.length_append]
    rw [rehearsed_cons, List.flatMap_cons, numberedEntry_append_eq_iff, ih]
    constructor
    · rintro ⟨hfirst, hrest⟩ before script behind h
      cases before with
      | nil =>
        cases h
        exact hfirst
      | cons _ before =>
        cases h
        rw [hlength, ← Nat.add_assoc]
        exact hrest before script behind rfl
    · intro h
      refine ⟨h [] first rest rfl, fun before script behind hrest => ?_⟩
      rw [Nat.add_assoc, ← hlength]
      exact h (first :: before) script behind (by rw [hrest, List.cons_append])

/-! ## Whole dry runs -/

/-- A dry run that shows its progress tells the entries of the scripts that are planned. -/
lemma rehearsal_delivers (coloured : Bool) {s : RunState ℕ} {first : ScriptFile}
    {items : List Item} (hopen : s.output.IsOpen)
    (hitems : runner.locator.scripts s.tree = .ok (.ok first :: items)) :
    ((runner.rehearsal true coloured).run s).2.output.delivered =
      s.output.delivered ++ encode ((runner.rehearsal true coloured).opening
        ++ (runner.rehearsal true coloured).rehearsed 0
          (legible s.tree (.ok first :: items))) := by
  have hdry : (runner.rehearsal true coloured).connector = dryRun coloured := rfl
  obtain ⟨-, htells⟩ := (runner.rehearsal true coloured).run_tells (fun _ _ => rfl) hitems
    (show (dryRun coloured).connect s.session = (0, .ok []) from rfl)
  obtain ⟨-, hshown⟩ := entries_of_dryRun hdry 0 (legible s.tree (.ok first :: items))
  rw [ending_of_dryRun hdry, List.append_nil, hshown rfl rfl] at htells
  exact (htells hopen).2

/-- **A dry run numbers the statements of all scripts one after the other.** It tells the entry of
each script that is planned, and this is numbered behind the statements of all scripts before it.
The entry is the one that starts with the number one exactly if no statement stands before it, or
if the script has no statements; and what is told is these entries exactly if this holds for all of
the scripts. -/
theorem rehearsal_numbers (coloured : Bool) {s : RunState ℕ} {first : ScriptFile}
    {items : List Item} (hopen : s.output.IsOpen)
    (hitems : runner.locator.scripts s.tree = .ok (.ok first :: items)) :
    let dry := runner.rehearsal true coloured
    let scripts := legible s.tree (.ok first :: items)
    (∀ before script behind, scripts = before ++ script :: behind →
      (dry.run s).2.output.delivered =
        s.output.delivered ++ encode (dry.opening
          ++ dry.rehearsed 0 before
          ++ dry.numberedEntry (statementsOf before).length script
          ++ dry.rehearsed (statementsOf (before ++ [script])).length behind) ∧
      (dry.numberedEntry (statementsOf before).length script = dry.numberedEntry 0 script ↔
        statementsOf before = [] ∨ (split script.2).statements = [])) ∧
    ((dry.run s).2.output.delivered =
        s.output.delivered ++ encode (dry.opening ++ scripts.flatMap (dry.numberedEntry 0)) ↔
      ∀ before script behind, scripts = before ++ script :: behind →
        statementsOf before = [] ∨ (split script.2).statements = []) := by
  intro dry scripts
  have hdelivered : (dry.run s).2.output.delivered =
      s.output.delivered ++ encode (dry.opening ++ dry.rehearsed 0 scripts) :=
    runner.rehearsal_delivers coloured hopen hitems
  refine ⟨fun before script behind hscripts => ⟨?_, ?_⟩, ?_⟩
  · have hnext : (statementsOf (before ++ [script])).length =
        (statementsOf before).length + (split script.2).statements.length := by
      simp [statementsOf]
    rw [hdelivered, hscripts, dry.rehearsed_append, dry.rehearsed_cons, Nat.zero_add, hnext]
    simp only [List.append_assoc]
  · rw [dry.numberedEntry_eq_iff, List.length_eq_zero_iff]
  · rw [hdelivered, List.append_cancel_left_eq, encode_injective.eq_iff,
      List.append_cancel_left_eq, dry.rehearsed_eq_flatMap_iff]
    simp only [Nat.zero_add, List.length_eq_zero_iff]

end Runner

/-- The second of the two scripts is numbered behind the one statement of the first. -/
theorem rehearsal_numbers_twoScripts :
    let dry := cautiousRunner.rehearsal true false
    let first : ReadScript := (⟨encode "/db/a.sql", encode "a.sql"⟩, "A;\n".toList)
    let second : ReadScript := (⟨encode "/db/b.sql", encode "b.sql"⟩, "B;\nDROP T;\nC;\n".toList)
    (dry.run { tree := twoScripts, session := 0 }).2.output.delivered =
        encode (dry.opening ++ dry.rehearsed 0 [first]
          ++ dry.numberedEntry (statementsOf [first]).length second ++ dry.rehearsed 4 []) ∧
      (statementsOf [first]).length = 1 ∧
      dry.numberedEntry 1 second =
        "  → b.sql \n    [2] B;\n    [3] DROP T;\n    [4] C; ✓\n".toList :=
  ⟨((Runner.rehearsal_numbers cautiousRunner false (s := { tree := twoScripts, session := 0 })
      ⟨rfl, rfl⟩ scripts_twoScripts).1
      [(⟨encode "/db/a.sql", encode "a.sql"⟩, "A;\n".toList)]
      (⟨encode "/db/b.sql", encode "b.sql"⟩, "B;\nDROP T;\nC;\n".toList) []
      (by decide +kernel)).1,
    by decide +kernel, by decide +kernel⟩

/-- The entry of the second script does not start with the number one, as it would if the numbers
started anew in each script. -/
theorem rehearsal_numbers_acrossScripts :
    let dry := cautiousRunner.rehearsal true false
    let second : ReadScript := (⟨encode "/db/b.sql", encode "b.sql"⟩, "B;\nDROP T;\nC;\n".toList)
    let told := (dry.run { tree := twoScripts, session := 0 }).2.output.delivered
    dry.numberedEntry 0 second =
        "  → b.sql \n    [1] B;\n    [2] DROP T;\n    [3] C; ✓\n".toList ∧
      ¬ encode (dry.numberedEntry 0 second) <:+: told ∧
      encode "  → b.sql \n    [2] B;\n    [3] DROP T;\n    [4] C; ✓\n" <:+: told := by
  decide +kernel

end ScriptRunner
