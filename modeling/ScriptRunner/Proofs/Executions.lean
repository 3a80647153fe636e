import Mathlib
import ScriptRunner.Proofs.Journal

/-!
# What scripts execute

Statements are attempted one after the other until one fails (`Attempt`). The lines of a script are
read and its statements executed in turn, so that no line behind a failed statement is read. What
comes of this is what comes of splitting the script first and attempting its statements then
(`applyLines_executes`, `applyScript_executes`).
-/

namespace ScriptRunner

open Text Script

variable {σ : Type}

/-! ## Attempts -/

/-- How an attempt to execute statements one after the other can go: the executions, and the
statement that failed with its error, if there is one. -/
inductive Attempt : List Statement → List Execution → Option (Statement × DatabaseError) → Prop
  /-- Every statement succeeds. -/
  | complete (statements : List Statement) :
      Attempt statements (succeeded statements) none
  /-- One statement fails, and those behind it are not executed. -/
  | failed (before : List Statement) (statement : Statement) (behind : List Statement)
      (error : DatabaseError) :
      Attempt (before ++ statement :: behind)
        (succeeded before ++ [(statement, some error)])
        (some (statement, error))

/-- A statement that succeeds comes before an attempt at the others. -/
lemma Attempt.cons {statements : List Statement} {executions : List Execution}
    {failure : Option (Statement × DatabaseError)} (statement : Statement)
    (h : Attempt statements executions failure) :
    Attempt (statement :: statements) ((statement, none) :: executions) failure := by
  cases h with
  | complete => exact .complete (statement :: statements)
  | failed before failing behind error => exact .failed (statement :: before) failing behind error

namespace Runner

/-- What a run reports of a statement that failed with an error. -/
def reported (script : ScriptFile) (failure : Statement × DatabaseError) : RunError :=
  .statement script.path failure.1.line ⟨failure.1.sql, failure.2.failureMessage⟩

/-! ## One statement -/

/-- The state when the connector has answered a statement, before any progress is shown. -/
def answered (runner : Runner σ) (statement : Statement) (s : RunState σ) : RunState σ :=
  let reply := runner.connector.execute statement.sql s.session
  RunState.recordAll
    { s.record (.executing statement) with
      session := reply.1
      tree := removePaths s.tree reply.2.removes }
    (reply.2.notes.map .noted ++ [.executed statement reply.2.error])

/-- The connector is asked once for a statement, with the answer that it gives. -/
lemma executes_answered (runner : Runner σ) (statement : Statement) (s : RunState σ) :
    Executes runner.connector s
      [(statement, (runner.connector.execute statement.sql s.session).2.error)]
      (runner.answered statement s) := by
  set reply := runner.connector.execute statement.sql s.session with hreply
  have hnoted : Does runner.connector s []
      ((s.record (.executing statement)).recordAll (reply.2.notes.map .noted)) :=
    (Does.record (e := .executing statement) rfl).trans (Does.recordAll (by simp [Event.isAct]))
  have hsituation : s.situation.after? runner.connector (.executed statement reply.2.error) =
      some (runner.answered statement s).situation := if_pos rfl
  have hexecuted : Executes runner.connector
      ((s.record (.executing statement)).recordAll (reply.2.notes.map .noted))
      [(statement, reply.2.error)] (runner.answered statement s) :=
    Does.single rfl (List.append_assoc _ _ _).symm hsituation
  exact hexecuted.preceded hnoted

/-- What comes of a statement depends on the error that the connector answers. -/
lemma applyStatement_eq (runner : Runner σ) (statement : Statement) (s : RunState σ) :
    runner.applyStatement statement s =
      match (runner.connector.execute statement.sql s.session).2.error with
      | some error => (some ⟨statement.sql, error.failureMessage⟩, runner.answered statement s)
      | none =>
        if runner.progress then
          (none, (runner.answered statement s).write .progressLost
            ((runner.connector.progressLine statement
              (runner.answered statement s).session).getD progressMarker))
        else (none, runner.answered statement s) := rfl

/-- A statement is executed once, and its failure is the one that the connector reports. -/
lemma applyStatement_executes (runner : Runner σ) (statement : Statement) (s : RunState σ) :
    ∃ error, Executes runner.connector s [(statement, error)]
        (runner.applyStatement statement s).2 ∧
      (runner.applyStatement statement s).1 =
        error.map fun e => ⟨statement.sql, e.failureMessage⟩ := by
  have hanswered := runner.executes_answered statement s
  refine ⟨(runner.connector.execute statement.sql s.session).2.error, ?_⟩
  rw [applyStatement_eq]
  cases herror : (runner.connector.execute statement.sql s.session).2.error with
  | some error =>
    rw [herror] at hanswered
    exact ⟨hanswered, rfl⟩
  | none =>
    rw [herror] at hanswered
    dsimp only
    split
    · exact ⟨hanswered.followed (Does.write (fun _ => rfl) _), rfl⟩
    · exact ⟨hanswered, rfl⟩

/-! ## One script -/

/-- What is noticed on a line is no act. -/
lemma does_notice {c : Connector σ} (s : RunState σ) (step : Step) :
    Does c s [] (s.recordAll (step.notice.toList.map .noticed)) :=
  Does.recordAll (by simp [Event.isAct])

/-- Reading lines executes the statements that a splitter finds in them, up to the first that fails.
A failure is reported with the line of its statement. -/
lemma applyLines_executes (runner : Runner σ) (script : ScriptFile) (splitter : Splitter)
    (count : ℕ) (lines : List Text) (s : RunState σ) :
    ∃ executions failure,
      Executes runner.connector s executions
        (runner.applyLines script splitter count lines s).2 ∧
      Attempt (splitter.statements lines) executions failure ∧
      (runner.applyLines script splitter count lines s).1 =
        match failure with
        | none => .ok (splitter.after lines, count + (splitter.statements lines).length)
        | some failure => .error (reported script failure) := by
  fun_induction applyLines runner script splitter count lines s with
  | case1 splitter count s => exact ⟨[], none, .refl s, .complete [], rfl⟩
  | case2 splitter count line rest s step noticed hstatement ih =>
    obtain ⟨executions, failure, hexecutes, hattempt, hresult⟩ := ih
    rw [splitter.statements_cons_of_none hstatement]
    exact ⟨executions, failure, hexecutes.preceded (does_notice s step), hattempt, hresult⟩
  | case3 splitter count line rest s step noticed statement hstatement applied happly ih =>
    obtain ⟨executions, failure, hexecutes, hattempt, hresult⟩ := ih
    obtain ⟨error, hexecuted, herror⟩ := runner.applyStatement_executes statement noticed
    rw [happly] at hexecuted herror
    obtain rfl : error = none := by simpa using herror.symm
    rw [splitter.statements_cons_of_some hstatement]
    refine ⟨(statement, none) :: executions, failure,
      (hexecuted.preceded (does_notice s step)).trans hexecutes, hattempt.cons statement, ?_⟩
    rw [hresult, List.length_cons, Nat.add_right_comm, Nat.add_assoc]
    rfl
  | case4 splitter count line rest s step noticed statement hstatement failure applied happly =>
    obtain ⟨error, hexecuted, herror⟩ := runner.applyStatement_executes statement noticed
    rw [happly] at hexecuted herror
    obtain ⟨e, rfl, rfl⟩ : ∃ e, error = some e ∧
        failure = ⟨statement.sql, e.failureMessage⟩ := by
      cases error with
      | none => cases herror
      | some e => exact ⟨e, rfl, by simpa using herror⟩
    rw [splitter.statements_cons_of_some hstatement]
    exact ⟨[(statement, some e)], some (statement, e),
      (hexecuted.preceded (does_notice s step)).followed (Does.say _),
      .failed [] statement _ e, rfl⟩

/-- The state in which the lines of a script are read: the operator has been told its name. -/
def announced (runner : Runner σ) (script : ScriptFile) (s : RunState σ) : RunState σ :=
  (s.record (.scriptStarted script.path)).emit
    ("  " ++ runner.arrow ++ " " ++ Path.display script.name ++ " ")

/-- A script that can be read is applied by reading its lines with a fresh splitter. -/
lemma applyScript_eq (runner : Runner σ) (script : ScriptFile) (summary : Summary)
    {s : RunState σ} {content : Text} (hcontent : s.tree.readText script.path = .ok content) :
    runner.applyScript script summary s =
      match runner.applyLines script {} 0 (lines (dropByteOrderMark content))
        (runner.announced script s) with
      | (.error error, t) => (.error error, t)
      | (.ok (splitter, count), t) =>
        (.ok
          { files := summary.files + 1
            statements := summary.statements + count
            unterminated := summary.unterminated + splitter.remainder.toList.length },
          (t.recordAll (splitter.remainder.toList.map fun r =>
            .unterminated script.path r.line)).say (' ' :: runner.paint .green "✓")) := by
  unfold applyScript
  dsimp only
  rw [show (s.record (.scriptStarted script.path)).tree.readText script.path = .ok content
    from hcontent]
  rfl

/-- A script that can be read has the statements of the split text executed, up to the first that
fails. If none fails, the totals count the script, its statements and its remainder. -/
lemma applyScript_executes (runner : Runner σ) (script : ScriptFile) (summary : Summary)
    {s : RunState σ} {content : Text} (hcontent : s.tree.readText script.path = .ok content) :
    ∃ executions failure,
      Executes runner.connector s executions (runner.applyScript script summary s).2 ∧
      Attempt (split content).statements executions failure ∧
      (runner.applyScript script summary s).1 =
        match failure with
        | none =>
          .ok
            { files := summary.files + 1
              statements := summary.statements + (split content).statements.length
              unterminated := summary.unterminated + (split content).remainder.toList.length }
        | some failure => .error (reported script failure) := by
  have hannounced : Does runner.connector s [] (runner.announced script s) :=
    (Does.record (e := .scriptStarted script.path) rfl).trans (Does.write (fun _ => rfl) _)
  obtain ⟨executions, failure, hexecutes, hattempt, hresult⟩ :=
    runner.applyLines_executes script {} 0 (lines (dropByteOrderMark content))
      (runner.announced script s)
  rw [runner.applyScript_eq script summary hcontent, split_eq]
  rcases happly : runner.applyLines script {} 0 (lines (dropByteOrderMark content))
    (runner.announced script s) with ⟨result, applied⟩
  rw [happly] at hexecutes hresult
  cases failure with
  | some failure =>
    obtain rfl : result = .error (reported script failure) := hresult
    exact ⟨executions, some failure, hexecutes.preceded hannounced, hattempt, rfl⟩
  | none =>
    obtain rfl : result = .ok _ := hresult
    set splitter := Splitter.after {} (lines (dropByteOrderMark content)) with hsplitter
    have hwarned : Does runner.connector applied []
        (applied.recordAll (splitter.remainder.toList.map fun r =>
          .unterminated script.path r.line)) := Does.recordAll (by simp [Event.isAct])
    have hended := (hexecutes.preceded hannounced).followed hwarned
    exact ⟨executions, none, hended.followed (Does.say _), hattempt, by simp⟩

/-- A script that cannot be read is begun, and the run reports its path. -/
lemma applyScript_unreadable (runner : Runner σ) (script : ScriptFile) (summary : Summary)
    {s : RunState σ} {error : FileError} (h : s.tree.readText script.path = .error error) :
    runner.applyScript script summary s =
      (.error (.readScript script.path error), s.record (.scriptStarted script.path)) := by
  rw [applyScript]
  rw [show (s.record (.scriptStarted script.path)).tree.readText script.path = .error error from h]

/-! ## All scripts -/

/-- Applying a script asks for nothing but executions. -/
lemma exists_applyScript_executes (runner : Runner σ) (script : ScriptFile) (summary : Summary)
    (s : RunState σ) :
    ∃ executions, Executes runner.connector s executions
      (runner.applyScript script summary s).2 := by
  cases hcontent : s.tree.readText script.path with
  | error error =>
    rw [runner.applyScript_unreadable script summary hcontent]
    exact ⟨[], Does.record rfl⟩
  | ok content =>
    obtain ⟨executions, _, hexecutes, _⟩ := runner.applyScript_executes script summary hcontent
    exact ⟨executions, hexecutes⟩

/-- Applying the items of a walk asks for nothing but executions. -/
lemma exists_applyItems_executes (runner : Runner σ) (summary : Summary) (item : Item) (walk : Walk)
    (budget : ℕ) (s : RunState σ) :
    ∃ executions, Executes runner.connector s executions
      (runner.applyItems summary item walk budget s).2 := by
  fun_induction applyItems runner summary item walk budget s with
  | case1 _ _ _ s _ => exact ⟨[], .refl s⟩
  | case2 _ summary _ s script _ _ happly =>
    simpa [happly] using runner.exists_applyScript_executes script summary s
  | case3 summary _ s script _ _ happly =>
    obtain ⟨executions, hexecutes⟩ := runner.exists_applyScript_executes script summary s
    rw [happly] at hexecutes
    exact ⟨executions, hexecutes.followed (Does.record rfl)⟩
  | case4 summary _ s script _ _ happly =>
    obtain ⟨executions, hexecutes⟩ := runner.exists_applyScript_executes script summary s
    rw [happly] at hexecutes
    exact ⟨executions, hexecutes.followed (Does.record rfl)⟩
  | case5 summary _ s script _ _ happly _ _ _ _ ih =>
    obtain ⟨executions, hexecutes⟩ := runner.exists_applyScript_executes script summary s
    obtain ⟨more, hmore⟩ := ih
    rw [happly] at hexecutes
    exact ⟨executions ++ more, hexecutes.trans hmore⟩

end Runner

end ScriptRunner
