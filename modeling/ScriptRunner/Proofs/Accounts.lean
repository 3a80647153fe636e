import Mathlib
import ScriptRunner.Proofs.Reports
import ScriptRunner.Proofs.Telling

/-!
# The operator output is an account of the run

With progress, without colours and with the plain marker, the entry of a script says how many of its
statements were executed with success, and whether one of them failed (`Visit.entry`). A run with a
session visits scripts in the order of the walk. What it tells is its opening, the entries of these
visits and a line about a session that could not be closed, and nothing else (`Accounted`).

The entries that a session shows were found from the statements of the scripts (`Runner.entries`).
Here they are put in terms of what was executed: behind statements that are answered with success,
the marks are as many dots (`exists_marks_append`), and behind scripts all of whose statements are
answered with success, the entries are those of whole visits (`exists_entries_append`).
-/

namespace ScriptRunner

open Text Script

variable {σ : Type}

/-! ## Visits -/

/-- The sessions of the connector have no marker of their own. -/
def Connector.IsPlain (c : Connector σ) : Prop :=
  ∀ statement session, c.progressLine statement session = none

/-- A script that was read, and what was executed of it. -/
structure Visit where
  script : ReadScript
  executions : List Execution

namespace Visit

/-- How many statements were executed with success. -/
def successes (visit : Visit) : ℕ := visit.executions.countP fun execution => execution.2.isNone

/-- Whether no statement failed. -/
def isComplete (visit : Visit) : Bool := visit.executions.all fun execution => execution.2.isNone

/-- What is said of the script as a whole. -/
def verdict (visit : Visit) : Text := if visit.isComplete then " ✓\n" else " ✗\n"

/-- The name of the script, a dot for each statement that was executed with success, and the
verdict. -/
def entry (visit : Visit) : Text :=
  "  → " ++ Path.display visit.script.1.name ++ " " ++ List.replicate visit.successes '.' ++
    visit.verdict

/-- The visit of a script all of whose statements succeed. -/
def whole (script : ReadScript) : Visit := ⟨script, succeeded (split script.2).statements⟩

/-- The visit of a script in which a statement fails behind others that succeed. -/
def broken (script : ReadScript) (before : List Statement) (statement : Statement)
    (error : DatabaseError) : Visit :=
  ⟨script, succeeded before ++ [(statement, some error)]⟩

/-- Statements that succeed are counted. -/
lemma countP_succeeded (statements : List Statement) :
    (succeeded statements).countP (fun execution => execution.2.isNone) = statements.length := by
  rw [succeeded, List.countP_map, ← List.countP_true]
  rfl

/-- All statements of a whole visit are counted. -/
lemma successes_whole (script : ReadScript) :
    (whole script).successes = (split script.2).statements.length := countP_succeeded _

/-- No statement of a whole visit fails. -/
lemma isComplete_whole (script : ReadScript) : (whole script).isComplete = true := by
  simp [isComplete, whole, succeeded]

/-- The statement that fails is not counted. -/
lemma successes_broken (script : ReadScript) (before : List Statement) (statement : Statement)
    (error : DatabaseError) : (broken script before statement error).successes = before.length := by
  rw [successes, broken, List.countP_append, countP_succeeded]
  rfl

/-- A statement of a broken visit fails. -/
lemma isComplete_broken (script : ReadScript) (before : List Statement) (statement : Statement)
    (error : DatabaseError) : (broken script before statement error).isComplete = false := by
  simp [isComplete, broken]

end Visit

/-! ## Marks and entries -/

/-- The same marks with a text in front of them. -/
def Marks.preceded (marks : Marks σ) (front : Text) : Marks σ :=
  { marks with text := front ++ marks.text }

/-- The line about a session that could not be closed. -/
def closingLine : Option DatabaseError → Text
  | none => []
  | some error => "! failed to close connection: " ++ error.message ++ ['\n']

namespace Runner

variable {runner : Runner σ} {session : σ} {executions : List Execution}

section Uncoloured

variable (hcoloured : runner.coloured = false)
include hcoloured

/-- Without colours a text is painted as it stands. -/
lemma paint_eq (colour : Colour) (text : Text) : runner.paint colour text = text := by
  rw [paint, Text.paint, hcoloured]
  rfl

/-- What a run with a session tells first, without colours. -/
lemma opening_eq :
    runner.opening = "→ Loading scripts from " ++ runner.locator.root.display ++ ['\n'] ++
      ("→ Running scripts on " ++ runner.connector.target ++ ['\n']) := by
  have hloading : ("→" : Text) ++ " Loading scripts from " = "→ Loading scripts from " := by
    decide +kernel
  have hrunning : ("→" : Text) ++ " Running scripts on " = "→ Running scripts on " := by
    decide +kernel
  rw [opening, arrow, paint_eq hcoloured, paint_eq hcoloured, paint_eq hcoloured, hloading,
    hrunning]

/-- What a run with a session tells last, without colours. -/
lemma ending_eq (session : σ) :
    runner.ending session = closingLine (runner.connector.close session).2 := by
  rw [ending]
  cases (runner.connector.close session).2 with
  | none => rfl
  | some error =>
    dsimp only
    rw [paint_eq hcoloured]
    rfl

/-- What stands around the marks of a script is what stands around the dots of its visit. -/
lemma entry_eq {script : ReadScript} {visit : Visit} {behind : σ} (hscript : visit.script = script)
    (hmarks : runner.marks session (split script.2).statements =
      ⟨behind, visit.isComplete, List.replicate visit.successes '.'⟩) :
    runner.entry session script = ⟨behind, visit.isComplete, visit.entry⟩ := by
  subst hscript
  have harrow : ("  " : Text) ++ "→" ++ " " = "  → " := by decide +kernel
  have hheading :
      runner.heading visit.script.1 = "  → " ++ Path.display visit.script.1.name ++ " " := by
    rw [heading, arrow, paint_eq hcoloured, harrow]
  have hverdict : runner.verdict visit.isComplete = visit.verdict := by
    rw [verdict, Visit.verdict, paint_eq hcoloured, paint_eq hcoloured]
    cases visit.isComplete <;> decide +kernel
  have hentry : visit.entry = runner.heading visit.script.1 ++
      (List.replicate visit.successes '.' ++ runner.verdict visit.isComplete) := by
    rw [hheading, hverdict, ← List.append_assoc]
    rfl
  rw [entry, hmarks, hentry, Marks.followed]

end Uncoloured

section Plain

variable (hprogress : runner.progress = true) (hplain : runner.connector.IsPlain)
include hprogress hplain

/-- Behind statements that are answered with success, there is a dot for each of them in front of
the other marks. -/
lemma exists_marks_append {statements : List Statement}
    (h : (succeeded statements ++ executions).map Prod.snd =
      runner.connector.answers session
        ((succeeded statements ++ executions).map fun e => e.1.sql)) :
    ∃ behind,
      executions.map Prod.snd =
        runner.connector.answers behind (executions.map fun e => e.1.sql) ∧
      ∀ more, runner.marks session (statements ++ more) =
        (runner.marks behind more).preceded (List.replicate statements.length '.') := by
  induction statements generalizing session with
  | nil => exact ⟨session, h, fun more => rfl⟩
  | cons statement statements ih =>
    obtain ⟨hnone, hrest⟩ := List.cons.inj h
    obtain ⟨behind, hanswers, hmarks⟩ := ih hrest
    have hsucceeds : (runner.connector.execute statement.sql session).2.error = none := hnone.symm
    have hmark : ∀ session, runner.mark statement session = ['.'] := by
      intro session
      rw [mark, if_pos hprogress, hplain]
      rfl
    refine ⟨behind, hanswers, fun more => ?_⟩
    rw [List.cons_append, runner.marks_cons_of_none _ hsucceeds]
    dsimp only
    rw [hmark, hmarks more]
    rfl

variable (hcoloured : runner.coloured = false)
include hcoloured

/-- The entry of a script all of whose statements are answered with success is that of a whole
visit. -/
lemma exists_entry_whole {script : ReadScript}
    (h : (succeeded (split script.2).statements ++ executions).map Prod.snd =
      runner.connector.answers session
        ((succeeded (split script.2).statements ++ executions).map fun e => e.1.sql)) :
    ∃ behind,
      executions.map Prod.snd =
        runner.connector.answers behind (executions.map fun e => e.1.sql) ∧
      runner.entry session script = ⟨behind, true, (Visit.whole script).entry⟩ := by
  obtain ⟨behind, hanswers, hmarks⟩ := exists_marks_append hprogress hplain h
  refine ⟨behind, hanswers, ?_⟩
  rw [← Visit.isComplete_whole script]
  refine entry_eq hcoloured rfl ?_
  rw [Visit.isComplete_whole, Visit.successes_whole, ← List.append_nil (split script.2).statements,
    hmarks, List.append_nil, marks, Marks.preceded, List.append_nil]

/-- The entry of a script in which a statement is answered with an error, behind others that are
answered with success, is that of a broken visit. -/
lemma entry_broken (script : ReadScript) {before behind : List Statement} {statement : Statement}
    {error : DatabaseError} (hsplit : (split script.2).statements = before ++ statement :: behind)
    (h : (succeeded before ++ [(statement, some error)]).map Prod.snd =
      runner.connector.answers session
        ((succeeded before ++ [(statement, some error)]).map fun e => e.1.sql)) :
    ∃ broken, runner.entry session script =
      ⟨broken, false, (Visit.broken script before statement error).entry⟩ := by
  obtain ⟨there, hanswer, hmarks⟩ := exists_marks_append hprogress hplain h
  have hfails : (runner.connector.execute statement.sql there).2.error = some error :=
    (List.cons.inj hanswer).1.symm
  refine ⟨(runner.connector.execute statement.sql there).1, ?_⟩
  rw [← Visit.isComplete_broken script before statement error]
  refine entry_eq hcoloured rfl ?_
  rw [Visit.isComplete_broken, Visit.successes_broken, hsplit, hmarks,
    runner.marks_cons_of_some _ hfails, Marks.preceded, List.append_nil]

/-- Behind scripts all of whose statements are answered with success, the entries of whole visits
stand in front of the other entries. -/
lemma exists_entries_append {applied : List ReadScript}
    (h : (succeeded (statementsOf applied) ++ executions).map Prod.snd =
      runner.connector.answers session
        ((succeeded (statementsOf applied) ++ executions).map fun e => e.1.sql)) :
    ∃ behind,
      executions.map Prod.snd =
        runner.connector.answers behind (executions.map fun e => e.1.sql) ∧
      ∀ more, runner.entries session (applied ++ more) =
        (runner.entries behind more).preceded
          ((applied.map Visit.whole).flatMap Visit.entry) := by
  induction applied generalizing session with
  | nil => exact ⟨session, h, fun more => rfl⟩
  | cons script applied ih =>
    have hsplit : succeeded (statementsOf (script :: applied)) ++ executions =
        succeeded (split script.2).statements ++
          (succeeded (statementsOf applied) ++ executions) := by
      rw [statementsOf, List.flatMap_cons, succeeded, List.map_append, List.append_assoc]
      rfl
    rw [hsplit] at h
    obtain ⟨next, hnext, hentry⟩ := exists_entry_whole hprogress hplain hcoloured h
    obtain ⟨behind, hanswers, hentries⟩ := ih hnext
    refine ⟨behind, hanswers, fun more => ?_⟩
    rw [List.cons_append, entries, hentry, if_pos rfl]
    dsimp only
    rw [hentries]
    simp only [Marks.preceded, List.map_cons, List.flatMap_cons, List.append_assoc]

end Plain

end Runner

/-! ## What was begun and closed -/

/-- The scripts that were begun among some events. -/
def startedIn (events : List Event) : List Path :=
  events.filterMap fun
    | .scriptStarted path => some path
    | _ => none

/-- How sessions were closed among some events. -/
def closingsIn (events : List Event) : List (Option DatabaseError) :=
  events.filterMap fun
    | .closed error => some error
    | _ => none

/-- The scripts that were begun in two lists of events, one behind the other. -/
lemma startedIn_append (events more : List Event) :
    startedIn (events ++ more) = startedIn events ++ startedIn more := List.filterMap_append

/-- How sessions were closed in two lists of events, one behind the other. -/
lemma closingsIn_append (events more : List Event) :
    closingsIn (events ++ more) = closingsIn events ++ closingsIn more := List.filterMap_append

/-- That a script is begun is a milestone. -/
lemma startedIn_milestones (events : List Event) :
    startedIn (milestones events) = startedIn events := by
  rw [startedIn, startedIn, milestones, List.filterMap_filter]
  refine List.filterMap_congr fun e _ => ?_
  cases e with
  | noticed notice => cases notice <;> rfl
  | _ => rfl

/-- That a session is closed is a milestone. -/
lemma closingsIn_milestones (events : List Event) :
    closingsIn (milestones events) = closingsIn events := by
  rw [closingsIn, closingsIn, milestones, List.filterMap_filter]
  refine List.filterMap_congr fun e _ => ?_
  cases e with
  | noticed notice => cases notice <;> rfl
  | _ => rfl

/-- On the lines of a script no script is begun and no session is closed. -/
lemma not_begun_of_lines (read : List ReadLine) :
    startedIn (read.flatMap ReadLine.milestones) = [] ∧
      closingsIn (read.flatMap ReadLine.milestones) = [] := by
  induction read with
  | nil => exact ⟨rfl, rfl⟩
  | cons r read ih =>
    rw [List.flatMap_cons, startedIn_append, closingsIn_append, ih.1, ih.2, ReadLine.milestones,
      ReadLine.warning?]
    split <;> cases r.statement? <;> exact ⟨rfl, rfl⟩

/-- In a script that is applied as a whole, this script is begun and no session is closed. -/
lemma begun_of_course (script : ReadScript) :
    startedIn (course script) = [script.1.path] ∧ closingsIn (course script) = [] := by
  obtain ⟨hstarted, hclosings⟩ := not_begun_of_lines (readLines script.2)
  rw [course_eq, startedIn_append, startedIn_append, closingsIn_append, closingsIn_append, hstarted,
    hclosings]
  cases (split script.2).remainder <;> exact ⟨rfl, rfl⟩

/-- In scripts that are applied as a whole their statements are executed, and no session is
closed. -/
lemma executed_of_courses (scripts : List ReadScript) :
    executionsIn (scripts.flatMap course) = succeeded (statementsOf scripts) ∧
      closingsIn (scripts.flatMap course) = [] := by
  induction scripts with
  | nil => exact ⟨rfl, rfl⟩
  | cons script scripts ih =>
    rw [List.flatMap_cons, executionsIn_append, closingsIn_append, ih.1, ih.2,
      executionsIn_course, (begun_of_course script).2, statementsOf, statementsOf,
      List.flatMap_cons, succeeded, succeeded, succeeded, List.map_append]
    exact ⟨rfl, rfl⟩

/-- Behind the ending of a story nothing is begun or executed, and the session is closed. -/
lemma begun_of_story (applied : List ReadScript) (ending : List Event)
    (closing : Option DatabaseError) :
    startedIn (story applied ending closing) = startedIn (applied.flatMap course ++ ending) ∧
      executionsIn (story applied ending closing) =
        executionsIn (applied.flatMap course ++ ending) ∧
      closingsIn (story applied ending closing) = closingsIn ending ++ [closing] := by
  rw [story, startedIn_append _ [.closed closing], executionsIn_append _ [.closed closing],
    closingsIn_append, closingsIn_append, (executed_of_courses applied).2]
  exact ⟨List.append_nil _, List.append_nil _, rfl⟩

/-- In a script in which a statement fails, this script is begun, no session is closed, and executed
are the statements of the lines in front and the one that fails. -/
lemma begun_of_broken (path : Path) (front : List ReadLine) (statement : Statement)
    (error : DatabaseError) :
    let ending := .scriptStarted path :: front.flatMap ReadLine.milestones ++
      [.executed statement (some error)]
    startedIn ending = [path] ∧ closingsIn ending = [] ∧
      executionsIn ending =
        succeeded (front.filterMap ReadLine.statement?) ++ [(statement, some error)] := by
  intro ending
  obtain ⟨hstarted, hclosings⟩ := not_begun_of_lines front
  have hending : ending = [.scriptStarted path] ++
      (front.flatMap ReadLine.milestones ++ [.executed statement (some error)]) := rfl
  rw [hending, startedIn_append, startedIn_append, closingsIn_append, closingsIn_append,
    executionsIn_append, executionsIn_append, hstarted, hclosings,
    executionsIn_flatMap_milestones]
  exact ⟨rfl, rfl, rfl⟩

/-! ## Accounts -/

/-- What comes of the first of some items: the visits that are made, and the script behind them that
is begun and cannot be read, if there is one. These are the events that are to be accounted for. -/
structure Accounted (tree : FileTree) (items : List Item) (events : List Event)
    (visits : List Visit) (unread : Option ScriptFile) : Prop where
  order : (visits.map (fun visit => visit.script.1) ++ unread.toList).map .ok <+: items
  started : startedIn events =
    (visits.map (fun visit => visit.script.1) ++ unread.toList).map ScriptFile.path
  read : ∀ visit ∈ visits, tree.readText visit.script.1.path = .ok visit.script.2
  unread : ∀ script ∈ unread, ∃ error, tree.readText script.path = .error error
  /-- The statements of a script are attempted up to the first that fails. -/
  attempted : ∀ visit ∈ visits, ∃ failure,
    Attempt (split visit.script.2).statements visit.executions failure ∧
      (visit.isComplete = true ↔ failure = none)
  executed : executionsIn events = visits.flatMap Visit.executions
  /-- Only in the last script can a statement fail. -/
  complete : ∀ visit ∈ visits.dropLast, visit.isComplete = true

namespace Accounted

variable {tree : FileTree} {items : List Item} {events : List Event} {visits : List Visit}
  {unread : Option ScriptFile}

/-- A script that is applied as a whole is visited in front of the others. -/
lemma cons {script : ReadScript} (hread : tree.readText script.1.path = .ok script.2)
    (h : Accounted tree items events visits unread) :
    Accounted tree (.ok script.1 :: items) (course script ++ events) (.whole script :: visits)
      unread where
  order := List.cons_prefix_cons.mpr ⟨rfl, h.order⟩
  started := by
    rw [startedIn_append, (begun_of_course script).1, h.started]
    rfl
  read := List.forall_mem_cons.mpr ⟨hread, h.read⟩
  unread := h.unread
  attempted := List.forall_mem_cons.mpr
    ⟨⟨none, .complete _, iff_of_true (Visit.isComplete_whole script) rfl⟩, h.attempted⟩
  executed := by
    rw [executionsIn_append, executionsIn_course, h.executed]
    rfl
  complete := by
    cases visits with
    | nil => simp
    | cons visit visits =>
      rw [List.dropLast_cons_cons]
      exact List.forall_mem_cons.mpr ⟨Visit.isComplete_whole script, h.complete⟩

/-- Scripts that are applied as a whole are visited in front of the others. -/
lemma append {applied : List ReadScript}
    (hread : ∀ script ∈ applied, tree.readText script.1.path = .ok script.2)
    (h : Accounted tree items events visits unread) :
    Accounted tree (applied.map (fun script => .ok script.1) ++ items)
      (applied.flatMap course ++ events) (applied.map Visit.whole ++ visits) unread := by
  induction applied with
  | nil => exact h
  | cons script applied ih =>
    rw [List.forall_mem_cons] at hread
    have hmore := (ih hread.2).cons hread.1
    rwa [← List.append_assoc] at hmore

/-- Only the scripts that are begun and the executions among the events are accounted for. -/
lemma of_events {more : List Event} (h : Accounted tree items events visits unread)
    (hstarted : startedIn more = startedIn events)
    (hexecuted : executionsIn more = executionsIn events) :
    Accounted tree items more visits unread :=
  { h with
    started := hstarted.trans h.started
    executed := hexecuted.trans h.executed }

/-- The dots of all entries are as many as the statements that were executed with success. -/
lemma sum_successes (h : Accounted tree items events visits unread) :
    (visits.map Visit.successes).sum =
      (executionsIn events).countP fun execution => execution.2.isNone := by
  rw [h.executed, List.countP_flatMap]
  rfl

end Accounted

/-- Where a run halts, nothing is begun, or a script that cannot be read, or one in which a
statement fails. -/
lemma Halt.exists_accounted {runner : Runner σ} {tree : FileTree} {applied : List ReadScript}
    {rest : List Item} {ending : List Event} {told : List Log.Entry}
    {result : Except RunError Summary} {session : σ}
    (hprogress : runner.progress = true) (hplain : runner.connector.IsPlain)
    (hcoloured : runner.coloured = false) (h : Halt tree applied rest ending told result)
    (hanswers : (executionsIn ending).map Prod.snd =
      runner.connector.answers session ((executionsIn ending).map fun e => e.1.sql)) :
    ∃ visits unread, Accounted tree rest ending visits unread ∧ closingsIn ending = [] ∧
      (runner.entries session (legible tree rest)).text = visits.flatMap Visit.entry := by
  have hnothing : ∀ (items : List Item) (events : List Event), executionsIn events = [] →
      startedIn events = [] → Accounted tree items events [] none := by
    intro items events hexecuted hstarted
    exact ⟨List.nil_prefix, hstarted, by simp, by simp, by simp, hexecuted, by simp⟩
  cases h with
  | complete => exact ⟨[], none, hnothing _ _ rfl rfl, rfl, rfl⟩
  | notLocated error items => exact ⟨[], none, hnothing _ _ rfl rfl, rfl, rfl⟩
  | notRead script items error hread =>
    refine ⟨[], some script, ⟨?_, rfl, by simp, ?_, by simp, rfl, by simp⟩, rfl, ?_⟩
    · exact List.cons_prefix_cons.mpr ⟨rfl, List.nil_prefix⟩
    · rintro _ ⟨⟩
      exact ⟨error, hread⟩
    · rw [legible, hread]
      rfl
  | notExecuted script items content front behind r st error hread hlines hst =>
    set before := front.filterMap ReadLine.statement? with hbefore
    have hsplit : (split content).statements =
        before ++ st :: behind.filterMap ReadLine.statement? := by
      rw [statements_split, hlines, List.filterMap_append, List.filterMap_cons, hst]
    obtain ⟨hstarted, hclosings, hexecuted⟩ := begun_of_broken script.path front st error
    rw [hexecuted] at hanswers
    obtain ⟨broken, hentry⟩ := Runner.entry_broken hprogress hplain hcoloured
      (script, content) hsplit hanswers
    have hattempt : Attempt (split content).statements
        (succeeded before ++ [(st, some error)]) (some (st, error)) := by
      rw [hsplit]
      exact .failed before st _ error
    have hincomplete := Visit.isComplete_broken (script, content) before st error
    refine ⟨[.broken (script, content) before st error], none,
      ⟨?_, hstarted, ?_, by simp, ?_, ?_, by simp⟩, hclosings, ?_⟩
    · exact List.cons_prefix_cons.mpr ⟨rfl, List.nil_prefix⟩
    · exact List.forall_mem_singleton.mpr hread
    · exact List.forall_mem_singleton.mpr ⟨_, hattempt, by simp [hincomplete]⟩
    · rw [hexecuted, List.flatMap_singleton]
      rfl
    · rw [legible, hread]
      dsimp only
      rw [Runner.entries, hentry, List.flatMap_singleton]
      rfl

namespace Runner

variable {runner : Runner σ} {s : RunState σ} {events : List Event}

/-- The milestones of a run with a session: it applies the first items of the walk, halts in the
others, and closes the session in which the entries of the scripts end. -/
lemma milestones_of_run {first : ScriptFile} {items : List Item} {session : σ}
    {notes : List Log.Entry} (hspares : runner.connector.Spares s.tree)
    (hitems : runner.locator.scripts s.tree = .ok (.ok first :: items))
    (hconnect : runner.connector.connect s.session = (session, .ok notes))
    (hjournal : (runner.run s).2.journal = s.journal ++ events) :
    ∃ applied rest ending told,
      .ok first :: items = applied.map (fun script => .ok script.1) ++ rest ∧
      (∀ script ∈ applied, s.tree.readText script.1.path = .ok script.2) ∧
      Halt s.tree applied rest ending told (runner.run s).1 ∧
      milestones events = story applied ending
        (runner.connector.close
          (runner.entries session (legible s.tree (.ok first :: items))).session).2 := by
  obtain ⟨root, result, done, happlies, hrun⟩ := runner.run_applies hspares hitems hconnect
  have hsituation := runner.situation_opened root session notes s
  have htree : (runner.opened root session notes s).tree = s.tree :=
    congrArg Situation.tree hsituation
  obtain ⟨hdone, -⟩ := happlies.tells (htree ▸ hspares)
  rw [htree, show (runner.opened root session notes s).session = session from
    congrArg Situation.session hsituation] at hdone
  obtain ⟨applied, rest, ending, told, horder, hread, hhalt, events', hjournal', hpassed, -⟩ :=
    exists_story hspares hconnect happlies hrun
  obtain rfl : events' = events := List.append_cancel_left (hjournal'.symm.trans hjournal)
  refine ⟨applied, rest, ending, told, horder, hread, hhalt, ?_⟩
  rw [hpassed, hdone]

/-- **The operator output is an account of the run.** If a run opens a session, statements do not
change the tree, progress is shown with the plain marker and without colours, and the output takes
everything, then the operator is told this and nothing else: where scripts come from and where they
go to, the entry of each script that was begun and could be read, in order, and that the session
could not be closed, if so. An entry has a dot for each statement of the script that was executed
with success, and only the last one can say that a statement failed. -/
theorem run_accounts (runner : Runner σ) {s : RunState σ} {events : List Event}
    (hprogress : runner.progress = true) (hcoloured : runner.coloured = false)
    (hplain : runner.connector.IsPlain) (hopen : s.output.IsOpen)
    (hspares : runner.connector.Spares s.tree)
    (hjournal : (runner.run s).2.journal = s.journal ++ events)
    (hconnected : .connected none ∈ events) :
    ∃ items visits unread closing,
      runner.locator.scripts s.tree = .ok items ∧
      Accounted s.tree items events visits unread ∧
      closingsIn events = [closing] ∧
      (runner.run s).2.output.delivered = s.output.delivered ++ encode
        ("→ Loading scripts from " ++ runner.locator.root.display ++ ['\n'] ++
          ("→ Running scripts on " ++ runner.connector.target ++ ['\n']) ++
          visits.flatMap Visit.entry ++ closingLine closing) ∧
      (visits.map Visit.successes).sum =
        (executionsIn events).countP fun execution => execution.2.isNone := by
  obtain ⟨first, items, session, notes, hitems, hconnect⟩ := exists_opened hjournal hconnected
  obtain ⟨applied, rest, ending, told, horder, hread, hhalt, hstory⟩ :=
    milestones_of_run hspares hitems hconnect hjournal
  obtain ⟨-, htells⟩ := runner.run_tells hspares hitems hconnect
  set entries := runner.entries session (legible s.tree (.ok first :: items)) with hentriesEq
  set closing := (runner.connector.close entries.session).2 with hclosing
  obtain ⟨hstarted, hexecuted, hclosed⟩ := begun_of_story applied ending closing
  rw [← hstory, startedIn_milestones] at hstarted
  rw [← hstory, executionsIn_milestones] at hexecuted
  rw [← hstory, closingsIn_milestones] at hclosed
  -- The connector answers the applied scripts with success, and then those of the ending.
  obtain ⟨events', hleads, -, hanswers⟩ := runner.run_carries hspares hitems hconnect
  obtain rfl : events' = events := List.append_cancel_left (hleads.journal.symm.trans hjournal)
  rw [hexecuted, executionsIn_append, (executed_of_courses applied).1] at hanswers
  obtain ⟨behind, hbehind, hentries⟩ :=
    exists_entries_append hprogress hplain hcoloured hanswers
  obtain ⟨visits, unread, haccounted, hclosings, htext⟩ :=
    hhalt.exists_accounted hprogress hplain hcoloured hbehind
  have hall : Accounted s.tree (.ok first :: items) events' (applied.map Visit.whole ++ visits)
      unread := by
    rw [horder]
    exact (haccounted.append hread).of_events hstarted hexecuted
  have htold : entries.text = (applied.map Visit.whole ++ visits).flatMap Visit.entry := by
    rw [hentriesEq, horder, legible_append rest hread, hentries, Marks.preceded, htext,
      List.flatMap_append]
  refine ⟨_, _, unread, closing, hitems, hall, ?_, ?_, hall.sum_successes⟩
  · rw [hclosed, hclosings, List.nil_append]
  · rw [(htells hopen).2, htold, opening_eq hcoloured, ending_eq hcoloured]

end Runner

/-! ## An example -/

/-- The operator output of the cautious runner over the two scripts is an account of its run: the
first script is completed, and the second one stops behind its first statement. -/
theorem run_accounts_twoScripts :
    (∃ items visits unread closing,
      cautiousRunner.locator.scripts twoScripts = .ok items ∧
      Accounted twoScripts items
        (cautiousRunner.run { tree := twoScripts, session := () }).2.journal visits unread ∧
      closingsIn (cautiousRunner.run { tree := twoScripts, session := () }).2.journal = [closing] ∧
      (cautiousRunner.run { tree := twoScripts, session := () }).2.output.delivered = encode
        ("→ Loading scripts from " ++ cautiousRunner.locator.root.display ++ ['\n'] ++
          ("→ Running scripts on " ++ cautiousRunner.connector.target ++ ['\n']) ++
          visits.flatMap Visit.entry ++ closingLine closing)) ∧
    (cautiousRunner.run { tree := twoScripts, session := () }).2.output.delivered = encode
      ("→ Loading scripts from /db\n→ Running scripts on example\n" ++
        "  → a.sql . ✓\n  → b.sql . ✗\n") := by
  have hconnected : .connected none ∈
      (cautiousRunner.run { tree := twoScripts, session := () }).2.journal := by decide +kernel
  obtain ⟨items, visits, unread, closing, hitems, haccounted, hclosing, htold, -⟩ :=
    Runner.run_accounts cautiousRunner (s := { tree := twoScripts, session := () }) rfl rfl
      (fun _ _ => rfl) ⟨rfl, rfl⟩ (fun _ _ => rfl) (List.nil_append _).symm hconnected
  exact ⟨⟨items, visits, unread, closing, hitems, haccounted, hclosing, htold⟩, by decide +kernel⟩

end ScriptRunner
