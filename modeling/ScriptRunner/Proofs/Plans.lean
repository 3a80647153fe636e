import Mathlib
import ScriptRunner.Proofs.FailFast

/-!
# What a run is going to do

The tree and the items of the walk say beforehand what a run will execute if no statement fails: the
statements of the scripts in front of the first item that is an error or cannot be read (`legible`,
`plan`). They also say what the result will be (`outlook`).

Whatever the connector answers, a run carries out this plan up to the first statement that fails
(`Carries`, `Runner.run_carries`). So two runs whose plans have the same texts ask the same of their
connectors, and get the same answers if these are in the same state (`Carries.eq_attempt`).
-/

namespace ScriptRunner

open Text Script

variable {σ : Type}

/-! ## Plans -/

/-- The scripts in front of the first item that is an error or a script that cannot be read. -/
def legible (tree : FileTree) : List Item → List ReadScript
  | [] => []
  | .error _ :: _ => []
  | .ok script :: rest =>
    match tree.readText script.path with
    | .error _ => []
    | .ok content => (script, content) :: legible tree rest

/-- The result of a run over some items in which no statement fails, behind scripts that were
applied before. -/
def outlook (tree : FileTree) (applied : List ReadScript) : List Item → Except RunError Summary
  | [] => .ok (.ofScripts applied)
  | .error error :: _ => .error (.locate error)
  | .ok script :: rest =>
    match tree.readText script.path with
    | .error error => .error (.readScript script.path error)
    | .ok content => outlook tree (applied ++ [(script, content)]) rest

/-- The statements of several scripts, each with the script that it is in. -/
def plan (scripts : List ReadScript) : List (ScriptFile × Statement) :=
  scripts.flatMap fun script => (split script.2).statements.map fun statement =>
    (script.1, statement)

/-- The plan for further scripts comes behind the plan for the first ones. -/
lemma plan_append (scripts more : List ReadScript) :
    plan (scripts ++ more) = plan scripts ++ plan more := by
  simp [plan]

/-- The statements in the plan are those of the scripts. -/
lemma map_snd_plan (scripts : List ReadScript) :
    (plan scripts).map Prod.snd = statementsOf scripts := by
  induction scripts with
  | nil => rfl
  | cons script scripts ih =>
    have hcons : plan (script :: scripts) = plan [script] ++ plan scripts :=
      plan_append [script] scripts
    have hscript : (plan [script]).map Prod.snd = (split script.2).statements := by
      simp [plan, Function.comp_def]
    rw [hcons, List.map_append, ih, hscript]
    rfl

/-- Scripts that can be read are legible, and so is what is legible behind them. -/
lemma legible_append {tree : FileTree} {scripts : List ReadScript} (rest : List Item)
    (h : ∀ script ∈ scripts, tree.readText script.1.path = .ok script.2) :
    legible tree (scripts.map (fun script => .ok script.1) ++ rest) =
      scripts ++ legible tree rest := by
  induction scripts with
  | nil => rfl
  | cons script scripts ih =>
    rw [List.forall_mem_cons] at h
    rw [List.map_cons, List.cons_append, legible, h.1, List.cons_append, ← ih h.2]

/-- Behind scripts that can be read, the outlook is that for the other items. -/
lemma outlook_append {tree : FileTree} {scripts : List ReadScript} (applied : List ReadScript)
    (rest : List Item) (h : ∀ script ∈ scripts, tree.readText script.1.path = .ok script.2) :
    outlook tree applied (scripts.map (fun script => .ok script.1) ++ rest) =
      outlook tree (applied ++ scripts) rest := by
  induction scripts generalizing applied with
  | nil => rw [List.append_nil]; rfl
  | cons script scripts ih =>
    rw [List.forall_mem_cons] at h
    rw [List.map_cons, List.cons_append, outlook, h.1]
    dsimp only
    rw [ih _ h.2, List.append_assoc, List.singleton_append]

/-! ## Carrying out a plan -/

/-- How the plan for some scripts can be carried out: the executions and the result. -/
inductive Carries (scripts : List ReadScript) (foreseen : Except RunError Summary) :
    List Execution → Except RunError Summary → Prop
  /-- All statements succeed, and the result is the foreseen one. -/
  | whole : Carries scripts foreseen (succeeded (statementsOf scripts)) foreseen
  /-- One statement fails. Those before it succeeded. -/
  | broken (before behind : List (ScriptFile × Statement)) (script : ScriptFile)
      (statement : Statement) (error : DatabaseError)
      (hplan : plan scripts = before ++ (script, statement) :: behind) :
      Carries scripts foreseen
        (succeeded (before.map Prod.snd) ++ [(statement, some error)])
        (.error (.statement script.path statement.line ⟨statement.sql, error.failureMessage⟩))

/-- A run that stops behind applied scripts has carried out the plan up to there. -/
lemma Ending.carries {tree : FileTree} {applied : List ReadScript} {items : List Item}
    {last : List Execution} {result : Except RunError Summary}
    (h : Ending tree applied items last result) :
    Carries (applied ++ legible tree items) (outlook tree applied items)
      (succeeded (statementsOf applied) ++ last) result := by
  cases h with
  | complete =>
    rw [legible, outlook, List.append_nil, List.append_nil]
    exact .whole
  | notLocated error items =>
    rw [legible, outlook, List.append_nil, List.append_nil]
    exact .whole
  | notRead script items error hread =>
    rw [legible, outlook, hread, List.append_nil]
    dsimp only
    rw [List.append_nil]
    exact .whole
  | notExecuted script items content before behind statement error hread hsplit =>
    have hplan : plan (applied ++ legible tree (.ok script :: items)) =
        (plan applied ++ before.map fun statement => (script, statement)) ++
          (script, statement) :: ((behind.map fun statement => (script, statement)) ++
            plan (legible tree items)) := by
      rw [legible, hread, plan_append]
      simp [plan, hsplit]
    have hbefore : (plan applied ++ before.map fun statement => (script, statement)).map Prod.snd =
        statementsOf applied ++ before := by
      rw [List.map_append, map_snd_plan]
      simp [Function.comp_def]
    rw [← List.append_assoc, succeeded, succeeded, ← List.map_append, ← hbefore]
    exact .broken _ _ script statement error hplan

/-- A run that stops fast carries out the plan for its items. -/
lemma StopsFast.carries {c : Connector σ} {s t : RunState σ} {items : List Item}
    {result : Except RunError Summary} (h : StopsFast c s [] items result t) :
    ∃ executions, Executes c s executions t ∧
      Carries (legible s.tree items) (outlook s.tree [] items) executions result := by
  obtain ⟨applied, rest, last, rfl, hread, hending, hexecutes⟩ := h
  rw [List.nil_append] at hending
  refine ⟨_, hexecutes, ?_⟩
  rw [legible_append rest hread, outlook_append [] rest hread, List.nil_append]
  exact hending.carries

namespace Carries

variable {scripts : List ReadScript} {foreseen result : Except RunError Summary}
  {executions : List Execution}

/-- What is executed is the beginning of the plan. -/
lemma isPrefix_plan (h : Carries scripts foreseen executions result) :
    executions.map Prod.fst <+: (plan scripts).map Prod.snd := by
  cases h with
  | whole =>
    rw [map_snd_plan]
    simp [succeeded, Function.comp_def]
  | broken before behind script statement error hplan =>
    rw [hplan]
    simp [succeeded, Function.comp_def]

/-- If all executions succeed, the plan is executed as a whole, and the result is the foreseen
one. -/
lemma eq_of_forall_none (h : Carries scripts foreseen executions result)
    (hnone : ∀ execution ∈ executions, execution.2 = none) :
    executions = succeeded (statementsOf scripts) ∧ result = foreseen := by
  cases h with
  | whole => exact ⟨rfl, rfl⟩
  | broken before behind script statement error hplan =>
    have hlast := hnone (statement, some error) (by simp)
    cases hlast

/-- A statement that fails is the last one executed, and the result names it. -/
lemma eq_of_getElem?_eq_some {k : ℕ} {statement : Statement} {error : DatabaseError}
    (h : Carries scripts foreseen executions result)
    (hk : executions[k]? = some (statement, some error)) :
    ∃ script, (plan scripts)[k]? = some (script, statement) ∧ executions.length = k + 1 ∧
      result =
        .error (.statement script.path statement.line ⟨statement.sql, error.failureMessage⟩) := by
  have hsucceeded : ∀ statements : List Statement,
      (succeeded statements)[k]? ≠ some (statement, some error) := by
    intro statements hmem
    have hin := List.mem_of_getElem? hmem
    simp [succeeded] at hin
  cases h with
  | whole => exact absurd hk (hsucceeded _)
  | broken before behind script failed cause hplan =>
    have hlength : (succeeded (before.map Prod.snd)).length = before.length := by simp [succeeded]
    rcases Nat.lt_or_ge k before.length with hlt | hge
    · rw [List.getElem?_append_left (hlength ▸ hlt)] at hk
      exact absurd hk (hsucceeded _)
    · obtain rfl : k = before.length := by
        by_contra hne
        rw [List.getElem?_eq_none] at hk
        · cases hk
        · simp [succeeded]
          omega
      rw [← hlength, List.getElem?_append_right (le_refl _), Nat.sub_self] at hk
      obtain ⟨rfl, rfl⟩ : failed = statement ∧ cause = error := by simpa using hk
      exact ⟨script, by rw [hplan]; simp, by simp [succeeded], rfl⟩

end Carries

/-! ## Answers -/

namespace Connector

/-- What a connector is given of some statements, up to the first one that fails, with the answers
to them. -/
def attempt (c : Connector σ) : σ → List Text → List (Text × Option DatabaseError)
  | _, [] => []
  | session, sql :: rest =>
    let (session, reply) := c.execute sql session
    (sql, reply.error) :: if reply.error = none then c.attempt session rest else []

/-- Statements that are answered with success are attempted, and then those behind them. -/
lemma exists_attempt_append (c : Connector σ) {session : σ} {statements : List Statement}
    {executions : List Execution}
    (h : (succeeded statements ++ executions).map Prod.snd =
      c.answers session ((succeeded statements ++ executions).map fun e => e.1.sql)) :
    ∃ behind, executions.map Prod.snd = c.answers behind (executions.map fun e => e.1.sql) ∧
      ∀ sqls, c.attempt session (statements.map Statement.sql ++ sqls) =
        (succeeded statements).map (fun e => (e.1.sql, e.2)) ++ c.attempt behind sqls := by
  induction statements generalizing session with
  | nil => exact ⟨session, h, fun sqls => rfl⟩
  | cons statement statements ih =>
    obtain ⟨hnone, hrest⟩ := List.cons.inj h
    obtain ⟨behind, hanswers, hattempt⟩ := ih hrest
    have hsucceeds : (c.execute statement.sql session).2.error = none := hnone.symm
    refine ⟨behind, hanswers, fun sqls => ?_⟩
    have hcons : c.attempt session ((statement :: statements).map Statement.sql ++ sqls) =
        (statement.sql, (c.execute statement.sql session).2.error) ::
          if (c.execute statement.sql session).2.error = none then
            c.attempt (c.execute statement.sql session).1
              (statements.map Statement.sql ++ sqls)
          else [] := rfl
    rw [hcons, hsucceeds, if_pos rfl, hattempt]
    rfl

end Connector

/-- A plan that is carried out with the answers of a connector is attempted: the answers decide how
far it is carried out. -/
lemma Carries.eq_attempt {c : Connector σ} {session : σ} {scripts : List ReadScript}
    {foreseen result : Except RunError Summary} {executions : List Execution}
    (h : Carries scripts foreseen executions result)
    (hanswers : executions.map Prod.snd = c.answers session (executions.map fun e => e.1.sql)) :
    executions.map (fun e => (e.1.sql, e.2)) =
      c.attempt session ((plan scripts).map fun planned => planned.2.sql) := by
  have hsql : ∀ planned : List (ScriptFile × Statement),
      planned.map (fun p => p.2.sql) = (planned.map Prod.snd).map Statement.sql := by
    intro planned
    simp [Function.comp_def]
  cases h with
  | whole =>
    rw [← List.append_nil (succeeded _)] at hanswers
    obtain ⟨behind, -, hattempt⟩ := c.exists_attempt_append hanswers
    rw [hsql, map_snd_plan, ← List.append_nil (List.map Statement.sql _), hattempt]
    exact (List.append_nil _).symm
  | broken before rest script statement error hplan =>
    obtain ⟨behind, hanswer, hattempt⟩ := c.exists_attempt_append hanswers
    have hfails : (c.execute statement.sql behind).2.error = some error :=
      (List.cons.inj hanswer).1.symm
    have hcons : c.attempt behind (statement.sql :: (rest.map Prod.snd).map Statement.sql) =
        [(statement.sql, some error)] := by
      have hstep : c.attempt behind (statement.sql :: (rest.map Prod.snd).map Statement.sql) =
          (statement.sql, (c.execute statement.sql behind).2.error) ::
            if (c.execute statement.sql behind).2.error = none then
              c.attempt (c.execute statement.sql behind).1 ((rest.map Prod.snd).map Statement.sql)
            else [] := rfl
      rw [hstep, hfails, if_neg (by simp)]
    have hplanned : ((plan scripts).map Prod.snd).map Statement.sql =
        (before.map Prod.snd).map Statement.sql ++
          statement.sql :: (rest.map Prod.snd).map Statement.sql := by
      rw [hplan]
      simp
    rw [hsql, hplanned, hattempt, hcons, List.map_append]
    rfl

/-! ## Whole runs -/

/-- A run with a session carries out the plan for the items of the walk, with the answers of its
connector. -/
lemma Runner.run_carries (runner : Runner σ) {s : RunState σ} {first : ScriptFile}
    {items : List Item} {session : σ} {notes : List Log.Entry}
    (hspares : runner.connector.Spares s.tree)
    (hitems : runner.locator.scripts s.tree = .ok (.ok first :: items))
    (hconnect : runner.connector.connect s.session = (session, .ok notes)) :
    ∃ events, Leads runner.connector s events (runner.run s).2 ∧
      Carries (legible s.tree (.ok first :: items)) (outlook s.tree [] (.ok first :: items))
        (executionsIn events) (runner.run s).1 ∧
      (executionsIn events).map Prod.snd =
        runner.connector.answers session ((executionsIn events).map fun e => e.1.sql) := by
  obtain ⟨root, result, applied, happlies, hrun⟩ := runner.run_applies hspares hitems hconnect
  have hsituation := runner.situation_opened root session notes s
  have htree : (runner.opened root session notes s).tree = s.tree :=
    congrArg Situation.tree hsituation
  have hstops : StopsFast runner.connector (runner.opened root session notes s) []
      (.ok first :: items) result applied :=
    Runner.Applies.stopsFast happlies (htree ▸ hspares)
  obtain ⟨executions, hexecutes, hcarries⟩ := hstops.carries
  obtain ⟨closing, hclosed⟩ := runner.release_does applied
  have hanswers := hexecutes.answers
  rw [show (runner.opened root session notes s).session = session from
    congrArg Situation.session hsituation] at hanswers
  rw [htree] at hcarries
  rw [hrun]
  obtain ⟨events, hleads, hacts⟩ :=
    ((runner.opened_does hconnect).trans (Does.trans hexecutes hclosed)).trans (Does.enter _ _)
  have hexecutions : executionsIn events = executions := by
    rw [← executionsIn_acts, hacts]
    simp only [executionsIn_append, executionsIn_map_event]
    simp [executionsIn]
  exact ⟨events, hleads, by rwa [hexecutions], by rwa [hexecutions]⟩

end ScriptRunner
