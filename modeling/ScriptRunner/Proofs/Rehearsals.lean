import Mathlib
import ScriptRunner.Proofs.Lifecycle
import ScriptRunner.Proofs.Telling

/-!
# Dry runs tell the truth

A dry run (`Runner.rehearsal`) looks for the same scripts as the run that it stands for, and executes
nothing. It carries out the whole plan for the scripts, because no statement can fail. It counts the
statements of the plan and shows them to the operator one after the other (`rehearsed`).

The run itself carries out the same plan up to the first statement that fails, whatever connector it
has (`Foretold`). Where no script is found to begin with (`Locator.Unfounded`), both runs end in the
same way, and nothing is asked of any connector (`rehearsal_foretells`).
-/

namespace ScriptRunner

open Text Script

variable {σ : Type}

/-! ## Roots without a first script -/

/-- The errors with which a run ends that finds no script to begin with. -/
inductive Locator.Unfounded (locator : Locator) (tree : FileTree) : RunError → Prop
  /-- The root is rejected. -/
  | noRoot (error : LocateError) (h : locator.scripts tree = .error error) :
      Unfounded locator tree (.locate error)
  /-- The walk yields no item. -/
  | noScripts (h : locator.scripts tree = .ok []) :
      Unfounded locator tree (.noScripts locator.root locator.extension)
  /-- The first item of the walk is an error. -/
  | notListed (error : LocateError) (items : List Item)
      (h : locator.scripts tree = .ok (.error error :: items)) :
      Unfounded locator tree (.locate error)

/-- Without a script to begin with there is nothing to be found. -/
lemma Locator.Unfounded.fruitless {locator : Locator} {tree : FileTree} {error : RunError}
    (h : locator.Unfounded tree error) : locator.Fruitless tree := by
  cases h with
  | noRoot error h => exact .inl ⟨error, h⟩
  | noScripts h => exact .inr (.inl h)
  | notListed error items h => exact .inr (.inr ⟨error, items, h⟩)

namespace Runner

/-- A run that finds no script to begin with ends with the error that says so, and asks nothing of
its connector. -/
lemma run_of_unfounded (runner : Runner σ) {s : RunState σ} {error : RunError}
    (h : runner.locator.Unfounded s.tree error) :
    (runner.run s).1 = .error error ∧
      Does runner.connector s [.phaseChanged s.phase .aborted] (runner.run s).2 := by
  constructor
  · change (runner.locateAndApply s).1 = .error error
    set said := s.say (runner.arrow ++ " Loading scripts from "
      ++ runner.paint .yellow runner.locator.root.display) with hsaid
    have htree : said.tree = s.tree := congrArg Situation.tree (s.situation_say _)
    unfold locateAndApply
    dsimp only
    rw [← hsaid, htree]
    cases hroot : runner.locator.resolveRoot s.tree with
    | error cause =>
      have hscripts := Locator.scripts_of_error hroot
      cases h with
      | noRoot error h => rw [h] at hscripts; cases hscripts; rfl
      | noScripts h => rw [h] at hscripts; cases hscripts
      | notListed error items h => rw [h] at hscripts; cases hscripts
    | ok root =>
      have hscripts := Locator.scripts_of_ok hroot
      rw [Walk.items_eq] at hscripts
      dsimp only
      rw [show (said.record (.walkStarted root runner.locator.extension)).tree = s.tree from htree]
      rcases hnext : (Walk.unopened root).next s.tree runner.locator.extension
        with ⟨_ | (cause | first), rest⟩ <;> rw [hnext] at hscripts
      · cases h with
        | noRoot error h => rw [h] at hscripts; cases hscripts
        | noScripts h => rfl
        | notListed error items h => rw [h] at hscripts; cases hscripts
      · cases h with
        | noRoot error h => rw [h] at hscripts; cases hscripts
        | noScripts h => rw [h] at hscripts; cases hscripts
        | notListed error items h => rw [h] at hscripts; cases hscripts; rfl
      · exact absurd h.fruitless (Locator.not_fruitless hroot hnext)
  · obtain ⟨done, hdoes, -, hdone⟩ := runner.run_does s
    rw [hdone.mpr h.fruitless] at hdoes
    exact hdoes

/-! ## Dry runs -/

/-- The dry run that stands for a run. -/
def rehearsal (runner : Runner σ) (progress coloured : Bool) : Runner ℕ where
  locator := runner.locator
  connector := dryRun coloured
  progress := progress
  coloured := coloured

/-- A dry run answers every statement with success. -/
lemma dryRun_answers (coloured : Bool) (count : ℕ) (sqls : List Text) :
    (dryRun coloured).answers count sqls = sqls.map fun _ => none := by
  induction sqls generalizing count with
  | nil => rfl
  | cons sql rest ih => exact congrArg (none :: ·) (ih (count + 1))

/-- How a statement is shown, with its number. -/
def echo (runner : Runner σ) (number : ℕ) (statement : Statement) : Text :=
  "\n    " ++ runner.paint .cyan (['['] ++ Text.ofNat number ++ [']']) ++ " " ++ statement.sql

/-- How statements are shown behind a number of them. -/
def echoes (runner : Runner σ) : ℕ → List Statement → Text
  | _, [] => []
  | count, statement :: rest =>
    runner.echo (count + 1) statement ++ runner.echoes (count + 1) rest

/-- How scripts are shown with their statements, behind a number of these. -/
def rehearsed (runner : Runner σ) : ℕ → List ReadScript → Text
  | _, [] => []
  | count, (script, content) :: rest =>
    runner.heading script ++ runner.echoes count (split content).statements
      ++ runner.verdict true
      ++ runner.rehearsed (count + (split content).statements.length) rest

section Rehearsal

variable {runner : Runner ℕ} {coloured : Bool} (hdry : runner.connector = dryRun coloured)
include hdry

/-- In a dry run statements are counted, and all of them succeed. With progress, each one is shown
with its number. -/
lemma marks_of_dryRun (count : ℕ) (statements : List Statement) :
    (runner.marks count statements).session = count + statements.length ∧
      (runner.marks count statements).succeeded = true ∧
      (runner.progress = true → runner.coloured = coloured →
        (runner.marks count statements).text = runner.echoes count statements) := by
  induction statements generalizing count with
  | nil => exact ⟨rfl, rfl, fun _ _ => rfl⟩
  | cons statement rest ih =>
    have hnone : (runner.connector.execute statement.sql count).2.error = none := by
      rw [hdry]
      rfl
    have hcount : (runner.connector.execute statement.sql count).1 = count + 1 := by
      rw [hdry]
      rfl
    obtain ⟨hsession, hsucceeded, htext⟩ := ih (count + 1)
    rw [runner.marks_cons_of_none rest hnone, hcount]
    refine ⟨?_, hsucceeded, fun hprogress hcoloured => ?_⟩
    · rw [List.length_cons, Nat.add_comm rest.length, ← Nat.add_assoc]
      exact hsession
    · have hmark : runner.mark statement (count + 1) = runner.echo (count + 1) statement := by
        rw [mark, if_pos hprogress, hdry, ← hcoloured]
        rfl
      rw [echoes, ← htext hprogress hcoloured, ← hmark]

/-- In a dry run the statements of all scripts are counted and shown. -/
lemma entries_of_dryRun (count : ℕ) (scripts : List ReadScript) :
    (runner.entries count scripts).session = count + (statementsOf scripts).length ∧
      (runner.progress = true → runner.coloured = coloured →
        (runner.entries count scripts).text = runner.rehearsed count scripts) := by
  induction scripts generalizing count with
  | nil => exact ⟨rfl, fun _ _ => rfl⟩
  | cons script rest ih =>
    obtain ⟨hsession, hsucceeded, htext⟩ :=
      marks_of_dryRun hdry count (split script.2).statements
    obtain ⟨hbehind, hmore⟩ := ih (count + (split script.2).statements.length)
    have hentry : (runner.entry count script).session =
        count + (split script.2).statements.length := hsession
    have hall : (runner.entry count script).succeeded = true := hsucceeded
    rw [entries, if_pos hall, hentry]
    refine ⟨?_, fun hprogress hcoloured => ?_⟩
    · rw [hbehind, Nat.add_assoc, statementsOf, statementsOf, List.flatMap_cons,
        List.length_append]
    · have hfirst : (runner.entry count script).text =
          runner.heading script.1 ++ (runner.echoes count (split script.2).statements
            ++ runner.verdict true) := by
        rw [entry, Marks.followed, hsucceeded, htext hprogress hcoloured]
      dsimp only
      rw [hfirst, hmore hprogress hcoloured, rehearsed]
      simp only [List.append_assoc]

/-- A dry run has nothing to tell of the end of its session. -/
lemma ending_of_dryRun (count : ℕ) : runner.ending count = [] := by
  rw [ending, hdry]
  rfl

end Rehearsal

end Runner

/-! ## What a dry run foretells -/

/-- What was planned and foreseen says what a run executes and what comes of it. -/
structure Foretold (planned : List (ScriptFile × Statement)) (foreseen : Except RunError Summary)
    (executions : List Execution) (result : Except RunError Summary) : Prop where
  /-- The beginning of the plan is executed. -/
  isPrefix : executions.map Prod.fst <+: planned.map Prod.snd
  /-- If no statement fails, the whole plan is executed, and the result is the foreseen one. -/
  whole : (∀ execution ∈ executions, execution.2 = none) →
    executions.map Prod.fst = planned.map Prod.snd ∧ result = foreseen
  /-- If a statement fails, the plan is executed up to this statement, and the result names the
  script, the line and the text that are planned there. -/
  broken : ∀ k executed error, executions[k]? = some (executed, some error) →
    ∃ script statement, planned[k]? = some (script, statement) ∧
      executions.map Prod.fst = (planned.map Prod.snd).take (k + 1) ∧
      result =
        .error (.statement script.path statement.line ⟨statement.sql, error.failureMessage⟩)

/-- A plan that is carried out was foretold. -/
lemma Carries.foretold {scripts : List ReadScript} {foreseen result : Except RunError Summary}
    {executions : List Execution} (h : Carries scripts foreseen executions result) :
    Foretold (plan scripts) foreseen executions result where
  isPrefix := h.isPrefix_plan
  whole := by
    intro hnone
    obtain ⟨rfl, hresult⟩ := h.eq_of_forall_none hnone
    refine ⟨?_, hresult⟩
    rw [map_snd_plan]
    simp [succeeded, Function.comp_def]
  broken := by
    intro k executed error hk
    obtain ⟨script, hplanned, hlength, hresult⟩ := h.eq_of_getElem?_eq_some hk
    refine ⟨script, executed, hplanned, ?_, hresult⟩
    have hprefix := List.prefix_iff_eq_take.mp h.isPrefix_plan
    rwa [List.length_map, hlength] at hprefix

namespace Runner

/-- **A dry run tells the truth** about any run over the same tree, if statements do not change the
tree. Without a script to begin with, both end with the error that says so, and nothing is asked of
their connectors. Otherwise the dry run executes, counts and shows the statements of the scripts that
are planned, and what it says is foretold for the run, if this gets a session: it executes the
statements up to the first that fails, and if none fails it has the result of the dry run. -/
theorem rehearsal_foretells (runner : Runner σ) (progress coloured : Bool) {s : RunState σ}
    {s' : RunState ℕ} (htree : s'.tree = s.tree) (hspares : runner.connector.Spares s.tree) :
    (∀ error, runner.locator.Unfounded s.tree error →
      ((runner.rehearsal progress coloured).run s').1 = .error error ∧
      Does (dryRun coloured) s' [.phaseChanged s'.phase .aborted]
        ((runner.rehearsal progress coloured).run s').2 ∧
      (runner.run s).1 = .error error ∧
      Does runner.connector s [.phaseChanged s.phase .aborted] (runner.run s).2) ∧
    ∀ first items, runner.locator.scripts s.tree = .ok (.ok first :: items) →
      let scripts := legible s.tree (.ok first :: items)
      (∃ events,
        Leads (dryRun coloured) s' events ((runner.rehearsal progress coloured).run s').2 ∧
        executionsIn events = succeeded ((plan scripts).map Prod.snd) ∧
        ((runner.rehearsal progress coloured).run s').2.session = (plan scripts).length ∧
        (progress = true →
          Tells s' ((runner.rehearsal progress coloured).opening
              ++ (runner.rehearsal progress coloured).rehearsed 0 scripts)
            ((runner.rehearsal progress coloured).run s').2)) ∧
      ∀ session notes, runner.connector.connect s.session = (session, .ok notes) →
        ∃ events, Leads runner.connector s events (runner.run s).2 ∧
          Foretold (plan scripts) ((runner.rehearsal progress coloured).run s').1
            (executionsIn events) (runner.run s).1 := by
  refine ⟨fun error herror => ?_, fun first items hitems => ?_⟩
  · obtain ⟨hresult, hdoes⟩ := runner.run_of_unfounded herror
    obtain ⟨hdry, hdryDoes⟩ := (runner.rehearsal progress coloured).run_of_unfounded
      (s := s') (htree ▸ herror)
    exact ⟨hdry, hdryDoes, hresult, hdoes⟩
  · have hdryItems : (runner.rehearsal progress coloured).locator.scripts s'.tree =
        .ok (.ok first :: items) := htree ▸ hitems
    have hdrySpares : (runner.rehearsal progress coloured).connector.Spares s'.tree :=
      fun _ _ => rfl
    obtain ⟨events, hleads, hcarries, hanswers⟩ :=
      (runner.rehearsal progress coloured).run_carries hdrySpares hdryItems
        (show (dryRun coloured).connect s'.session = (0, .ok []) from rfl)
    have hnone : ∀ execution ∈ executionsIn events, execution.2 = none := by
      have hsucceeds : (executionsIn events).map Prod.snd =
          (executionsIn events).map fun _ => none :=
        hanswers.trans ((dryRun_answers coloured 0 _).trans (by rw [List.map_map]; rfl))
      exact List.map_inj_left.mp hsucceeds
    obtain ⟨hexecutions, hforeseen⟩ := hcarries.eq_of_forall_none hnone
    obtain ⟨hsession, htells⟩ := (runner.rehearsal progress coloured).run_tells hdrySpares
      hdryItems (show (dryRun coloured).connect s'.session = (0, .ok []) from rfl)
    rw [htree] at hexecutions hforeseen hsession htells
    have hdry : (runner.rehearsal progress coloured).connector = dryRun coloured := rfl
    obtain ⟨hcount, hshown⟩ := entries_of_dryRun hdry 0 (legible s.tree (.ok first :: items))
    refine ⟨⟨events, hleads, by rw [map_snd_plan, hexecutions], ?_, fun hprogress => ?_⟩,
      fun session notes hconnect => ?_⟩
    · have hlength := congrArg List.length
        (map_snd_plan (legible s.tree (.ok first :: items)))
      rw [List.length_map] at hlength
      rw [hsession, hlength]
      exact hcount.trans (Nat.zero_add _)
    · rw [← hshown hprogress rfl]
      rwa [ending_of_dryRun hdry, List.append_nil] at htells
    · obtain ⟨events, hleads, hcarries, -⟩ := runner.run_carries hspares hitems hconnect
      exact ⟨events, hleads, hforeseen ▸ hcarries.foretold⟩

end Runner

/-- The dry run over the two scripts shows and counts four statements. The cautious runner executes
the first three of them, up to the one that its connector refuses. -/
theorem rehearsal_foretells_twoScripts :
    (∃ events,
      Leads cautiousRunner.connector { tree := twoScripts, session := () } events
        (cautiousRunner.run { tree := twoScripts, session := () }).2 ∧
      Foretold
        (plan (legible twoScripts
          [.ok ⟨encode "/db/a.sql", encode "a.sql"⟩, .ok ⟨encode "/db/b.sql", encode "b.sql"⟩]))
        ((cautiousRunner.rehearsal true false).run { tree := twoScripts, session := 0 }).1
        (executionsIn events)
        (cautiousRunner.run { tree := twoScripts, session := () }).1) ∧
    ((cautiousRunner.rehearsal true false).run { tree := twoScripts, session := 0 }).2.session = 4 ∧
    executionsIn
        ((cautiousRunner.rehearsal true false).run
          { tree := twoScripts, session := 0 }).2.journal =
      [(⟨"A;", 1⟩, none), (⟨"B;", 1⟩, none), (⟨"DROP T;", 2⟩, none), (⟨"C;", 3⟩, none)] ∧
    executionsIn (cautiousRunner.run { tree := twoScripts, session := () }).2.journal =
      [(⟨"A;", 1⟩, none), (⟨"B;", 1⟩, none), (⟨"DROP T;", 2⟩, some .rowNotFound)] :=
  ⟨((Runner.rehearsal_foretells cautiousRunner true false rfl fun _ _ => rfl).2 _ _
      scripts_twoScripts).2 () [] rfl,
    by decide +kernel, by decide +kernel, by decide +kernel⟩

end ScriptRunner
