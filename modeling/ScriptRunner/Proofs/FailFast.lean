import Mathlib
import ScriptRunner.Proofs.Stages

/-!
# Fail-fast runs

A run over a tree that statements do not change goes through the items of the walk in order and
stops at the first thing that fails. All scripts before that are applied as a whole. `Ending` says
how it can stop and what it executes last, and `FailsFast` what a whole run comes to.

The run looks for an item only when it has applied the script before it, and for a statement only
when it has executed the statement before it. The tree that it looks at is the same each time, so
the items are those of a walk made beforehand (`Walk.items_eq`) and the statements those of a
script split beforehand (`split_eq`).
-/

namespace ScriptRunner

open Text Script

variable {σ : Type}

/-- A script with the text that was read from it. -/
abbrev ReadScript : Type := ScriptFile × Text

/-- The statements of several scripts. -/
def statementsOf (scripts : List ReadScript) : List Statement :=
  scripts.flatMap fun script => (split script.2).statements

/-- The totals for scripts that were applied as a whole. -/
def Summary.ofScripts (scripts : List ReadScript) : Summary where
  files := scripts.length
  statements := (statementsOf scripts).length
  unterminated := scripts.countP fun script => (split script.2).remainder.isSome

/-- One more script adds to the totals what applying it adds. -/
lemma Summary.ofScripts_append_singleton (scripts : List ReadScript) (script : ScriptFile)
    (content : Text) :
    ofScripts (scripts ++ [(script, content)]) =
      { files := (ofScripts scripts).files + 1
        statements := (ofScripts scripts).statements + (split content).statements.length
        unterminated :=
          (ofScripts scripts).unterminated + (split content).remainder.toList.length } := by
  have hremainder : ∀ remainder : Option Statement,
      (if remainder.isSome then 1 else 0) = remainder.toList.length := by
    intro remainder
    cases remainder <;> rfl
  simp [ofScripts, statementsOf, List.countP_append, hremainder]

/-- The message about a failed statement by the kind of its error. What the database reports comes
in its own words, with the code that it gives in brackets. -/
lemma failureMessage_eq (error : DatabaseError) :
    error.failureMessage =
      match error with
      | .database message none => message
      | .database message (some code) => message ++ " (" ++ code ++ ")"
      | .protocol message => "encountered unexpected or invalid data: " ++ message
      | .rowNotFound => "no rows returned by a query that expected to return at least one row"
      | .workerCrashed => "attempted to communicate with a crashed background worker"
      | .configuration message => "error with configuration: " ++ message
      | .unreachable message => "error communicating with database: " ++ message := by
  cases error with
  | database message code => cases code <;> rfl
  | _ => rfl

/-- How a run can stop behind scripts that were applied: the items that are left, the executions of
the script that it stops in, and the result. For a statement that fails, `failureMessage_eq` gives
the message in the result. -/
inductive Ending (tree : FileTree) (applied : List ReadScript) :
    List Item → List Execution → Except RunError Summary → Prop
  /-- No items are left. -/
  | complete : Ending tree applied [] [] (.ok (.ofScripts applied))
  /-- The walk yields an error. -/
  | notLocated (error : LocateError) (items : List Item) :
      Ending tree applied (.error error :: items) [] (.error (.locate error))
  /-- A script cannot be read. -/
  | notRead (script : ScriptFile) (items : List Item) (error : FileError)
      (hread : tree.readText script.path = .error error) :
      Ending tree applied (.ok script :: items) [] (.error (.readScript script.path error))
  /-- A statement fails. Those before it in its script succeeded. -/
  | notExecuted (script : ScriptFile) (items : List Item) (content : Text)
      (before behind : List Statement) (statement : Statement) (error : DatabaseError)
      (hread : tree.readText script.path = .ok content)
      (hsplit : (split content).statements = before ++ statement :: behind) :
      Ending tree applied (.ok script :: items)
        (succeeded before ++ [(statement, some error)])
        (.error (.statement script.path statement.line ⟨statement.sql, error.failureMessage⟩))

/-- From one state to another, the first of the given items are applied as a whole, behind scripts
that were applied before, and the result is that of an ending in the others. -/
def StopsFast (c : Connector σ) (s : RunState σ) (applied : List ReadScript) (items : List Item)
    (result : Except RunError Summary) (t : RunState σ) : Prop :=
  ∃ more rest last,
    items = more.map (fun script => .ok script.1) ++ rest ∧
    (∀ script ∈ more, s.tree.readText script.1.path = .ok script.2) ∧
    Ending s.tree (applied ++ more) rest last result ∧
    Executes c s (succeeded (statementsOf more) ++ last) t

namespace StopsFast

variable {c : Connector σ} {s t u : RunState σ} {applied : List ReadScript} {items : List Item}
  {result : Except RunError Summary}

/-- A run can stop in the first item. -/
lemma of_ending {last : List Execution} (h : Ending s.tree applied items last result)
    (hexecutes : Executes c s last t) : StopsFast c s applied items result t :=
  ⟨[], items, last, rfl, by simp, by rwa [List.append_nil], hexecutes⟩

/-- A script that is applied comes before the items in which a run stops. -/
lemma cons {script : ScriptFile} {content : Text}
    (hread : s.tree.readText script.path = .ok content)
    (hexecutes : Executes c s (succeeded (split content).statements) u) (htree : u.tree = s.tree)
    (h : StopsFast c u (applied ++ [(script, content)]) items result t) :
    StopsFast c s applied (.ok script :: items) result t := by
  obtain ⟨more, rest, last, rfl, hmore, hending, hrest⟩ := h
  rw [htree] at hmore hending
  refine ⟨(script, content) :: more, rest, last, rfl, ?_, ?_, ?_⟩
  · intro read hmem
    rcases List.mem_cons.1 hmem with rfl | hmem
    · exact hread
    · exact hmore read hmem
  · rwa [List.append_assoc] at hending
  · have hboth := hexecutes.trans hrest
    rwa [← List.append_assoc, succeeded, succeeded, ← List.map_append] at hboth

end StopsFast

namespace Runner

variable {runner : Runner σ} {script : ScriptFile} {summary summary' : Summary} {error : RunError}
  {s t : RunState σ}

/-- A script is applied if it can be read and all its statements succeed. -/
lemma applyScript_eq_ok (h : runner.applyScript script summary s = (.ok summary', t)) :
    ∃ content, s.tree.readText script.path = .ok content ∧
      Executes runner.connector s (succeeded (split content).statements) t ∧
      summary' =
        { files := summary.files + 1
          statements := summary.statements + (split content).statements.length
          unterminated := summary.unterminated + (split content).remainder.toList.length } := by
  cases hread : s.tree.readText script.path with
  | error error =>
    rw [runner.applyScript_unreadable script summary hread] at h
    cases h
  | ok content =>
    obtain ⟨executions, failure, hexecutes, hattempt, hresult⟩ :=
      runner.applyScript_executes script summary hread
    rw [h] at hexecutes hresult
    refine ⟨content, rfl, ?_⟩
    generalize (split content).statements = statements at hattempt hresult ⊢
    cases hattempt with
    | complete => exact ⟨hexecutes, Except.ok.inj hresult⟩
    | failed => cases hresult

/-- Where a script is not applied, the run stops in it. -/
lemma applyScript_eq_error (h : runner.applyScript script summary s = (.error error, t))
    (applied : List ReadScript) (items : List Item) :
    ∃ last, Ending s.tree applied (.ok script :: items) last (.error error) ∧
      Executes runner.connector s last t := by
  cases hread : s.tree.readText script.path with
  | error fileError =>
    rw [runner.applyScript_unreadable script summary hread] at h
    obtain ⟨rfl, rfl⟩ : RunError.readScript script.path fileError = error ∧
        s.record (.scriptStarted script.path) = t := by simpa using h
    exact ⟨[], .notRead script items fileError hread, Does.record rfl⟩
  | ok content =>
    obtain ⟨executions, failure, hexecutes, hattempt, hresult⟩ :=
      runner.applyScript_executes script summary hread
    rw [h] at hexecutes hresult
    generalize hstatements : (split content).statements = statements at hattempt
    cases hattempt with
    | complete => cases hresult
    | failed before statement behind databaseError =>
      obtain rfl := Except.error.inj hresult
      exact ⟨_, .notExecuted script items content before behind statement databaseError hread
        hstatements, hexecutes⟩

/-- The totals behind an applied script are those of the scripts up to it. -/
lemma exists_applied {applied : List ReadScript}
    (h : runner.applyScript script (.ofScripts applied) s = (.ok summary', t)) :
    ∃ content, s.tree.readText script.path = .ok content ∧
      Executes runner.connector s (succeeded (split content).statements) t ∧
      summary' = .ofScripts (applied ++ [(script, content)]) := by
  obtain ⟨content, hread, hexecutes, hsummary⟩ := applyScript_eq_ok h
  exact ⟨content, hread, hexecutes, by rw [hsummary, Summary.ofScripts_append_singleton]⟩

/-- A script that is applied leaves a tree alone that statements do not change. -/
lemma tree_of_applyScript (h : runner.applyScript script summary s = (.ok summary', t))
    (hspares : runner.connector.Spares s.tree) : t.tree = s.tree := by
  obtain ⟨content, -, hexecutes, -⟩ := applyScript_eq_ok h
  exact hexecutes.tree_eq hspares

/-- How given items are applied one after the other: the totals and the state in front of them, the
result and the state behind them. -/
inductive Applies (runner : Runner σ) :
    Summary → List Item → RunState σ → Except RunError Summary → RunState σ → Prop
  /-- The next item is an error. -/
  | notLocated (summary : Summary) (error : LocateError) (items : List Item) (s : RunState σ) :
      Applies runner summary (.error error :: items) s (.error (.locate error)) s
  /-- The next script is not applied as a whole. -/
  | stopped {summary : Summary} {script : ScriptFile} {error : RunError} {s t : RunState σ}
      (items : List Item) (h : runner.applyScript script summary s = (.error error, t)) :
      Applies runner summary (.ok script :: items) s (.error error) t
  /-- The last script is applied. -/
  | last {summary summary' : Summary} {script : ScriptFile} {s t : RunState σ}
      (h : runner.applyScript script summary s = (.ok summary', t)) :
      Applies runner summary [.ok script] s (.ok summary')
        (t.record (.finished summary'.files summary'.statements))
  /-- The next script is applied, and then the items behind it. -/
  | more {summary summary' : Summary} {script : ScriptFile} {items : List Item}
      {s t u : RunState σ} {result : Except RunError Summary}
      (h : runner.applyScript script summary s = (.ok summary', t))
      (hrest : Applies runner summary' items t result u) :
      Applies runner summary (.ok script :: items) s result u

/-- If statements do not change the tree, the items that are applied are those of a walk made
beforehand. -/
lemma applies_applyItems (runner : Runner σ) (summary : Summary) (item : Item) (walk : Walk)
    (budget : ℕ) {s : RunState σ} (hspares : runner.connector.Spares s.tree)
    (hbudget : walk.budget s.tree runner.locator.extension ≤ budget) :
    runner.Applies summary (item :: walk.items s.tree runner.locator.extension) s
      (runner.applyItems summary item walk budget s).1
      (runner.applyItems summary item walk budget s).2 := by
  fun_induction applyItems runner summary item walk budget s with
  | case1 budget summary walk s error => exact .notLocated summary error _ s
  | case2 budget summary walk s script error t happly => exact .stopped _ happly
  | case3 summary walk s script summary' t happly finish =>
    -- Without any budget left, the walk is at its end.
    have hnone : walk.items s.tree runner.locator.extension = [] := by
      rw [Walk.items, Nat.le_zero.1 hbudget, Walk.takeItems]
    rw [hnone]
    exact .last happly
  | case4 summary walk s script summary' t happly finish budget behind hnext =>
    rw [tree_of_applyScript happly hspares] at hnext
    have hnone : walk.items s.tree runner.locator.extension = [] := by
      rw [Walk.items_eq, hnext]
    rw [hnone]
    exact .last happly
  | case5 summary walk s script summary' t happly budget item behind hnext ih =>
    have htree : t.tree = s.tree := tree_of_applyScript happly hspares
    rw [htree] at hnext ih
    have hlt := Walk.budget_lt_of_next hnext
    have hitems : walk.items s.tree runner.locator.extension =
        item :: behind.items s.tree runner.locator.extension := by
      rw [Walk.items_eq, hnext]
    rw [hitems]
    exact .more happly (ih hspares (by omega))

/-- Items are applied until one of them fails. -/
lemma Applies.stopsFast {applied : List ReadScript} {items : List Item}
    {result : Except RunError Summary}
    (h : runner.Applies (.ofScripts applied) items s result t)
    (hspares : runner.connector.Spares s.tree) :
    StopsFast runner.connector s applied items result t := by
  generalize hsummary : Summary.ofScripts applied = summary at h
  induction h generalizing applied with
  | notLocated summary error items s => exact .of_ending (.notLocated error items) (.refl s)
  | stopped items happly =>
    obtain ⟨last, hending, hexecutes⟩ := applyScript_eq_error happly applied items
    exact .of_ending hending hexecutes
  | last happly =>
    subst hsummary
    obtain ⟨content, hread, hexecutes, rfl⟩ := exists_applied happly
    exact .cons hread hexecutes (hexecutes.tree_eq hspares)
      (.of_ending .complete (Does.record rfl))
  | more happly _ ih =>
    subst hsummary
    obtain ⟨content, hread, hexecutes, rfl⟩ := exists_applied happly
    have htree := hexecutes.tree_eq hspares
    exact .cons hread hexecutes htree (ih (htree ▸ hspares) rfl)

/-- An item and those behind it are applied until one of them fails. -/
lemma applyItems_stopsFast (runner : Runner σ) (applied : List ReadScript) (item : Item)
    (walk : Walk) (budget : ℕ) {s : RunState σ} (hspares : runner.connector.Spares s.tree)
    (hbudget : walk.budget s.tree runner.locator.extension ≤ budget) :
    StopsFast runner.connector s applied (item :: walk.items s.tree runner.locator.extension)
      (runner.applyItems (.ofScripts applied) item walk budget s).1
      (runner.applyItems (.ofScripts applied) item walk budget s).2 :=
  Applies.stopsFast (runner.applies_applyItems _ item walk budget hspares hbudget) hspares

/-- With a script to begin with and a session, a run applies the items of the walk in the session,
closes it and enters its last phase. -/
lemma run_applies (runner : Runner σ) {s : RunState σ} {first : ScriptFile} {items : List Item}
    {session : σ} {notes : List Log.Entry} (hspares : runner.connector.Spares s.tree)
    (hitems : runner.locator.scripts s.tree = .ok (.ok first :: items))
    (hconnect : runner.connector.connect s.session = (session, .ok notes)) :
    ∃ root result applied,
      runner.Applies {} (.ok first :: items) (runner.opened root session notes s) result applied ∧
      runner.run s = (result, (runner.release applied).enter (lastPhase result)) := by
  obtain ⟨root, rest, hroot, hnext, rfl⟩ := Locator.exists_first_of_scripts hitems
  have htree : (runner.opened root session notes s).tree = s.tree :=
    congrArg Situation.tree (runner.situation_opened root session notes s)
  have happlies := runner.applies_applyItems {} (.ok first) rest
    ((Walk.unopened root).budget s.tree runner.locator.extension)
    (s := runner.opened root session notes s) (htree ▸ hspares)
    (htree ▸ (Walk.budget_lt_of_next hnext).le)
  rw [htree] at happlies
  exact ⟨root, _, _, happlies, runner.run_eq_of_opened hroot hnext hconnect⟩

end Runner

/-- The executions among some events. -/
def executionsIn (events : List Event) : List Execution :=
  events.filterMap fun
    | .executed statement error => some (statement, error)
    | _ => none

/-- The executions of two lists of events, one behind the other. -/
lemma executionsIn_append (events more : List Event) :
    executionsIn (events ++ more) = executionsIn events ++ executionsIn more :=
  List.filterMap_append

/-- All executions are acts. -/
lemma executionsIn_acts (events : List Event) :
    executionsIn (acts events) = executionsIn events := by
  induction events with
  | nil => rfl
  | cons e events ih =>
    have hcons : acts (e :: events) = acts [e] ++ acts events := acts_append [e] events
    have hsingle : executionsIn (acts [e]) = executionsIn [e] := by cases e <;> rfl
    rw [hcons, executionsIn_append, ih, hsingle]
    exact (executionsIn_append [e] events).symm

/-- The executions among events that are executions are these. -/
lemma executionsIn_map_event (executions : List Execution) :
    executionsIn (executions.map Execution.event) = executions := by
  induction executions with
  | nil => rfl
  | cons execution executions ih => exact congrArg (execution :: ·) ih

/-- A run over some items applies the first of them and stops in the rest. The statements that it
executes are those of the applied scripts, all with success, and then those of the ending. These
are events of its journal, with the answers that the connector gives. -/
structure FailsFast (runner : Runner σ) (s : RunState σ) (items : List Item)
    (applied : List ReadScript) (rest : List Item) (last : List Execution) : Prop where
  order : items = applied.map (fun script => .ok script.1) ++ rest
  read : ∀ script ∈ applied, s.tree.readText script.1.path = .ok script.2
  ending : Ending s.tree applied rest last (runner.run s).1
  executed : ∃ events, Leads runner.connector s events (runner.run s).2 ∧
    executionsIn events = succeeded (statementsOf applied) ++ last
  answers : (succeeded (statementsOf applied) ++ last).map Prod.snd =
    runner.connector.answers (runner.connector.connect s.session).1
      ((succeeded (statementsOf applied) ++ last).map fun e => e.1.sql)

namespace Runner

/-- **A run is fail-fast.** If statements do not change the tree, the walk yields a script first and
the session is opened, then the run applies the scripts in the order of the walk up to the first
thing that fails: an error of the walk, a script that cannot be read, or a statement. Executed are
the statements of the split scripts before it, in order and with success, and then those of the
script that it is in, up to the failing one. If nothing fails, the totals count all scripts, their
statements and the texts that no delimiter closed. -/
theorem run_failsFast (runner : Runner σ) {s : RunState σ} {first : ScriptFile} {items : List Item}
    {session : σ} {notes : List Log.Entry} (hspares : runner.connector.Spares s.tree)
    (hitems : runner.locator.scripts s.tree = .ok (.ok first :: items))
    (hconnect : runner.connector.connect s.session = (session, .ok notes)) :
    ∃ applied rest last, FailsFast runner s (.ok first :: items) applied rest last := by
  rcases runner.locator.fruitless_or_first s.tree with
    hfruitless | ⟨root, found, behind, hroot, hnext⟩
  · rcases hfruitless with ⟨error, h⟩ | h | ⟨error, rest, h⟩ <;> rw [hitems] at h <;> cases h
  obtain ⟨rfl, rfl⟩ : found = first ∧ behind.items s.tree runner.locator.extension = items := by
    rw [Locator.scripts_of_ok hroot, Walk.items_eq, hnext] at hitems
    simpa using hitems
  obtain ⟨located, hlocated, hsituation, happly⟩ := runner.locateAndApply_of_first hroot hnext
  have hsession : located.session = s.session := congrArg Situation.session hsituation
  obtain ⟨running, closing, hopened, hrunning, hclosed, hresult⟩ :=
    runner.applyInSession_of_ok (.ok found) behind
      ((Walk.unopened root).budget s.tree runner.locator.extension)
      (hsession ▸ hconnect : runner.connector.connect located.session = (session, .ok notes))
  have htree : running.tree = s.tree :=
    (congrArg Situation.tree hrunning).trans (congrArg Situation.tree hsituation)
  have hstops := runner.applyItems_stopsFast [] (.ok found) behind
    ((Walk.unopened root).budget s.tree runner.locator.extension) (s := running)
    (htree ▸ hspares) (htree ▸ (Walk.budget_lt_of_next hnext).le)
  obtain ⟨applied, rest, last, horder, hread, hending, hexecutes⟩ := hstops
  rw [htree] at horder hread hending
  refine ⟨applied, rest, last, horder, hread, ?_, ?_, ?_⟩
  · change Ending s.tree applied rest last (runner.locateAndApply s).1
    rw [happly, hresult]
    exact hending
  · have hsessionDone := (hlocated.trans ((hopened.trans hexecutes).trans hclosed))
    rw [← happly] at hsessionDone
    obtain ⟨events, hleads, hacts⟩ := runner.run_does_of_locateAndApply hsessionDone
    refine ⟨events, hleads, ?_⟩
    rw [← executionsIn_acts, hacts]
    simp only [executionsIn_append, executionsIn_map_event]
    simp [executionsIn]
  · have hanswers := hexecutes.answers
    rw [show running.session = session from congrArg Situation.session hrunning] at hanswers
    rw [hconnect]
    exact hanswers

end Runner

/-! ## An example -/

/-- A tree with two scripts, listed in another order than that of the walk. -/
def twoScripts : FileTree where
  top := .directory
    [(encode "db", .directory
      [(encode "b.sql", .file (encode "B;\nDROP T;\nC;\n")),
        (encode "a.sql", .file (encode "A;\n"))])]

/-- A runner whose connector refuses one statement. -/
def cautiousRunner : Runner Unit where
  locator := { root := encode "/db" }
  connector :=
    { target := "example"
      connect := fun _ => ((), .ok [])
      execute := fun sql _ =>
        ((), { error := if sql = "DROP T;".toList then some .rowNotFound else none })
      close := fun _ => ((), none) }

/-- The scripts of the tree in the order of the walk. -/
lemma scripts_twoScripts :
    cautiousRunner.locator.scripts twoScripts =
      .ok [.ok ⟨encode "/db/a.sql", encode "a.sql"⟩, .ok ⟨encode "/db/b.sql", encode "b.sql"⟩] := by
  decide +kernel

/-- The run of the cautious runner over the two scripts is fail-fast. It stops at the second
statement of the second script, and the result says why. -/
theorem run_failsFast_twoScripts :
    (∃ applied rest last,
      FailsFast cautiousRunner { tree := twoScripts, session := () }
        [.ok ⟨encode "/db/a.sql", encode "a.sql"⟩, .ok ⟨encode "/db/b.sql", encode "b.sql"⟩]
        applied rest last) ∧
    executionsIn (cautiousRunner.run { tree := twoScripts, session := () }).2.journal =
      [(⟨"A;", 1⟩, none), (⟨"B;", 1⟩, none), (⟨"DROP T;", 2⟩, some .rowNotFound)] ∧
    (cautiousRunner.run { tree := twoScripts, session := () }).1 =
      .error (.statement (encode "/db/b.sql") 2
        ⟨"DROP T;", "no rows returned by a query that expected to return at least one row"⟩) :=
  ⟨Runner.run_failsFast cautiousRunner (fun _ _ => rfl) scripts_twoScripts rfl, by decide +kernel,
    by decide +kernel⟩

end ScriptRunner
