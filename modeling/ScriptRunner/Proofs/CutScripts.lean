import Mathlib
import ScriptRunner.Proofs.Rehearsals
import ScriptRunner.Proofs.Resumption

/-!
# Cutting a script in two

A script can be cut in two behind a line feed at which a splitter is at rest (`IsCut`). If the parts
are applied one after the other, the same statements are executed in the same order, with the same
answers (`Runner.cut_atRest`). Other scripts in front of them and behind them make no difference.

The second part must not begin with the character that is a byte order mark at the beginning of a
file. In the middle of a script it is a part of the statement, and as the first character of a file
it is dropped (`cut_before_byteOrderMark`).
-/

namespace ScriptRunner

open Text Script

variable {σ : Type}

/-! ## What is sent to a connector -/

/-- The texts of the statements that a run over some items executes if none of them fails. -/
def plannedTexts (tree : FileTree) (items : List Item) : List Text :=
  (statementsOf (legible tree items)).map Statement.sql

/-- The texts of a script that can be read come in front of those behind it. -/
lemma plannedTexts_cons {tree : FileTree} {script : ScriptFile} {content : Text}
    (h : tree.readText script.path = .ok content) (items : List Item) :
    plannedTexts tree (.ok script :: items) =
      (split content).statements.map Statement.sql ++ plannedTexts tree items := by
  rw [plannedTexts, legible, h]
  dsimp only
  rw [statementsOf, List.flatMap_cons, List.map_append]
  rfl

/-- In two trees that have the same text for each script in front, the same texts are planned if
they are so for the items behind. -/
lemma plannedTexts_append_congr {tree tree' : FileTree} {before items items' : List Item}
    (hread : ∀ script, .ok script ∈ before →
      tree'.readText script.path = tree.readText script.path)
    (h : plannedTexts tree items = plannedTexts tree' items') :
    plannedTexts tree (before ++ items) = plannedTexts tree' (before ++ items') := by
  induction before with
  | nil => exact h
  | cons item before ih =>
    have hbehind := ih fun script hscript => hread script (List.mem_cons_of_mem _ hscript)
    rw [List.cons_append, List.cons_append]
    cases item with
    | error error => rfl
    | ok script =>
      have hsame := hread script List.mem_cons_self
      cases hscript : tree.readText script.path with
      | error error =>
        rw [plannedTexts, plannedTexts, legible, legible, hsame, hscript]
      | ok content =>
        rw [plannedTexts_cons hscript, plannedTexts_cons (hsame.trans hscript), hbehind]

/-- A run with a session attempts the texts that are planned for the items of its walk. -/
lemma Runner.run_attempts (runner : Runner σ) {s : RunState σ} {items : List Item} {session : σ}
    {notes : List Log.Entry} (hspares : runner.connector.Spares s.tree)
    (hitems : runner.locator.scripts s.tree = .ok items)
    (hconnect : runner.connector.connect s.session = (session, .ok notes)) :
    ∃ events, Leads runner.connector s events (runner.run s).2 ∧
      (executionsIn events).map (fun e => (e.1.sql, e.2)) =
        runner.connector.attempt session (plannedTexts s.tree items) := by
  have hunfounded : ∀ error, runner.locator.Unfounded s.tree error →
      ∃ events, Leads runner.connector s events (runner.run s).2 ∧ executionsIn events = [] := by
    intro error herror
    obtain ⟨-, events, hleads, hacts⟩ := runner.run_of_unfounded herror
    refine ⟨events, hleads, ?_⟩
    rw [← executionsIn_acts, hacts]
    rfl
  match items with
  | [] =>
    obtain ⟨events, hleads, hnone⟩ := hunfounded _ (.noScripts hitems)
    exact ⟨events, hleads, by rw [hnone]; rfl⟩
  | .error error :: rest =>
    obtain ⟨events, hleads, hnone⟩ := hunfounded _ (.notListed error rest hitems)
    exact ⟨events, hleads, by rw [hnone]; rfl⟩
  | .ok first :: rest =>
    obtain ⟨events, hleads, hcarries, hanswers⟩ := runner.run_carries hspares hitems hconnect
    refine ⟨events, hleads, ?_⟩
    rw [hcarries.eq_attempt hanswers, plannedTexts, ← map_snd_plan, List.map_map]
    rfl

/-! ## Cuts -/

/-- A place between two parts of a script at which it can be cut: a line ends there, the splitter is
at rest, and what comes next is not taken for a byte order mark. -/
structure IsCut (front behind : Text) : Prop where
  line : front = [] ∨ front.getLast? = some '\n'
  mark : front ≠ [] → behind.head? ≠ some '\uFEFF'
  atRest : (Splitter.after {} (lines (dropByteOrderMark front))).AtRest

/-- One script of a tree lies cut in two in another tree. The scripts before it and behind it have
the same texts in both. -/
structure LiesCut (tree tree' : FileTree) (before behind : List Item)
    (whole first second : ScriptFile) : Prop where
  parts : ∃ front behind, IsCut front behind ∧ tree.readText whole.path = .ok (front ++ behind) ∧
    tree'.readText first.path = .ok front ∧ tree'.readText second.path = .ok behind
  others : ∀ script, .ok script ∈ before ++ behind →
    tree'.readText script.path = tree.readText script.path

/-- The same texts are planned for a script and for its two parts. -/
lemma LiesCut.plannedTexts_eq {tree tree' : FileTree} {before behind : List Item}
    {whole first second : ScriptFile} (h : LiesCut tree tree' before behind whole first second) :
    plannedTexts tree (before ++ .ok whole :: behind) =
      plannedTexts tree' (before ++ .ok first :: .ok second :: behind) := by
  obtain ⟨front, rest, hcut, hwhole, hfirst, hsecond⟩ := h.parts
  have hbehind : plannedTexts tree behind = plannedTexts tree' behind := by
    have hnone := plannedTexts_append_congr
      (fun script hscript => h.others script (List.mem_append_right before hscript))
      (show plannedTexts tree [] = plannedTexts tree' [] from rfl)
    rwa [List.append_nil] at hnone
  obtain ⟨hstatements, -, -⟩ := split_append_of_atRest hcut.line hcut.mark hcut.atRest
  have hsplit : (split (front ++ rest)).statements.map Statement.sql =
      (split front).statements.map Statement.sql ++
        (split rest).statements.map Statement.sql := by
    rw [hstatements, List.map_append, List.map_map]
    rfl
  refine plannedTexts_append_congr
    (fun script hscript => h.others script (List.mem_append_left _ hscript)) ?_
  rw [plannedTexts_cons hwhole, plannedTexts_cons hfirst, plannedTexts_cons hsecond, hsplit,
    hbehind, List.append_assoc]

namespace Runner

/-- **A script can be cut in two where the splitter is at rest.** Lines behind such a place give the
statements and the remainder that they give alone, with other numbers of lines. The statements of a
script are those of its parts. And a run over the parts executes what a run over the whole script
executes, and is given the same answers. -/
theorem cut_atRest :
    (∀ front behind : List Text, (Splitter.after {} front).AtRest →
      Splitter.statements {} (front ++ behind) =
        Splitter.statements {} front ++
          (Splitter.statements {} behind).map (Statement.renumber (· + front.length)) ∧
      (Splitter.after {} (front ++ behind)).remainder =
        (Splitter.after {} behind).remainder.map (Statement.renumber (· + front.length))) ∧
    (∀ front behind : Text, IsCut front behind →
      let count := (lines (dropByteOrderMark front)).length
      (split (front ++ behind)).statements =
        (split front).statements ++
          (split behind).statements.map (Statement.renumber (· + count)) ∧
      (split front).remainder = none ∧
      (split (front ++ behind)).remainder =
        (split behind).remainder.map (Statement.renumber (· + count))) ∧
    ∀ (runner : Runner σ) (s s' : RunState σ) (before behind : List Item)
      (whole first second : ScriptFile) (session : σ) (notes notes' : List Log.Entry),
      runner.connector.Spares s.tree → runner.connector.Spares s'.tree →
      runner.locator.scripts s.tree = .ok (before ++ .ok whole :: behind) →
      runner.locator.scripts s'.tree = .ok (before ++ .ok first :: .ok second :: behind) →
      LiesCut s.tree s'.tree before behind whole first second →
      runner.connector.connect s.session = (session, .ok notes) →
      runner.connector.connect s'.session = (session, .ok notes') →
      ∃ events events', Leads runner.connector s events (runner.run s).2 ∧
        Leads runner.connector s' events' (runner.run s').2 ∧
        (executionsIn events).map (fun e => (e.1.sql, e.2)) =
          (executionsIn events').map fun e => (e.1.sql, e.2) := by
  refine ⟨read_append_of_atRest,
    fun front behind h => split_append_of_atRest h.line h.mark h.atRest, ?_⟩
  intro runner s s' before behind whole first second session notes notes' hspares hspares' hitems
    hitems' hcut hconnect hconnect'
  obtain ⟨events, hleads, hsent⟩ := runner.run_attempts hspares hitems hconnect
  obtain ⟨events', hleads', hsent'⟩ := runner.run_attempts hspares' hitems' hconnect'
  exact ⟨events, events', hleads, hleads', by rw [hsent, hsent', hcut.plannedTexts_eq]⟩

end Runner

/-! ## Examples -/

/-- A directory with the given scripts in it. -/
def directoryOf (scripts : List (Bytes × Text)) : FileTree where
  top := .directory
    [(encode "db", .directory (scripts.map fun script => (script.1, .file (encode script.2))))]

/-- A comment stands in front of the cut, and the line of the second statement is counted from
there. -/
theorem cut_atRest_behindComment :
    let front : Text := "A;\n-- note\n".toList
    let behind : Text := "B;\n".toList
    let tree := directoryOf [(encode "a.sql", front ++ behind)]
    let tree' := directoryOf [(encode "a.sql", front), (encode "b.sql", behind)]
    Splitter.statements {} ["A;".toList, "-- note".toList, "B;".toList] =
      [⟨"A;".toList, 1⟩, ⟨"B;".toList, 3⟩] ∧
    (split (front ++ behind)).statements = [⟨"A;".toList, 1⟩, ⟨"B;".toList, 3⟩] ∧
    ∃ events events',
      Leads cautiousRunner.connector { tree := tree, session := () } events
        (cautiousRunner.run { tree := tree, session := () }).2 ∧
      Leads cautiousRunner.connector { tree := tree', session := () } events'
        (cautiousRunner.run { tree := tree', session := () }).2 ∧
      (executionsIn events).map (fun e => (e.1.sql, e.2)) =
        (executionsIn events').map fun e => (e.1.sql, e.2) := by
  have hrest : (Splitter.after {} ["A;".toList, "-- note".toList]).AtRest :=
    ⟨by decide +kernel, by decide +kernel, by decide +kernel⟩
  have hcut : IsCut "A;\n-- note\n".toList "B;\n".toList :=
    ⟨.inr rfl, by decide, hrest⟩
  obtain ⟨hlines, hscripts, hruns⟩ := Runner.cut_atRest (σ := Unit)
  refine ⟨(hlines _ ["B;".toList] hrest).1.trans (by decide +kernel),
    (hscripts _ _ hcut).1.trans (by decide +kernel), ?_⟩
  exact hruns cautiousRunner _ _ [] [] ⟨encode "/db/a.sql", encode "a.sql"⟩
    ⟨encode "/db/a.sql", encode "a.sql"⟩ ⟨encode "/db/b.sql", encode "b.sql"⟩ () [] []
    (fun _ _ => rfl) (fun _ _ => rfl) (by decide +kernel) (by decide +kernel)
    ⟨⟨_, _, hcut, by decide +kernel, by decide +kernel, by decide +kernel⟩, nofun⟩ rfl rfl

/-- At the end of the first line the splitter is at rest, but the next line begins with a byte order
mark. As the beginning of a script of its own it loses this character, and another text is
executed. -/
theorem cut_before_byteOrderMark :
    let front : Text := "SELECT 1;\n".toList
    let behind : Text := "\uFEFFSELECT 2;\n".toList
    let tree := directoryOf [(encode "a.sql", front ++ behind)]
    let tree' := directoryOf [(encode "a.sql", front), (encode "b.sql", behind)]
    (Splitter.after {} (lines (dropByteOrderMark front))).AtRest ∧
    (executionsIn (cautiousRunner.run { tree := tree, session := () }).2.journal).map
        (fun e => e.1.sql) = ["SELECT 1;".toList, "\uFEFFSELECT 2;".toList] ∧
    (executionsIn (cautiousRunner.run { tree := tree', session := () }).2.journal).map
        (fun e => e.1.sql) = ["SELECT 1;".toList, "SELECT 2;".toList] :=
  ⟨⟨by decide +kernel, by decide +kernel, by decide +kernel⟩, by decide +kernel, by decide +kernel⟩

end ScriptRunner
