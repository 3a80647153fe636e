import Mathlib
import ScriptRunner.Proofs.Noninterference
import ScriptRunner.Proofs.ReadLines
import ScriptRunner.Run.Database

/-!
# What a run reports

The log of a run tells of the scripts that it reached, of directives without a token, of text that
was not executed, of the end of the scripts and of a session that could not be closed. These are the
milestones of the run, together with the statements that it executed, and they stand in its journal
in the order of the lines of the scripts: a statement that fails cuts off all that belongs to the
lines behind it (`LinesApplied`), and the walk or a script that cannot be read all that belongs to
the scripts behind (`Halt`). Nothing else in the log is as important, apart from what the sessions
themselves report (`prominent_eq`), which is nothing in a dry run (`wholeLog_dryRun`) and what the
driver reports in a database (`wholeLog_database`).

The entries of the log are spelled out here with their texts (`scriptLog`, `Halt`), whatever the
program makes of its events.
-/

namespace ScriptRunner

open Text Script

variable {σ : Type}

/-! ## Milestones -/

namespace Event

/-- What the log tells of at the level of plain information or above it, apart from the reports of
sessions, and what is executed and closed. -/
def isMilestone : Event → Bool
  | scriptStarted _ => true
  | executed _ _ => true
  | noticed (.missingToken _) => true
  | unterminated _ _ => true
  | closed _ => true
  | finished _ _ => true
  | _ => false

/-- The report of a session. -/
def isNote : Event → Bool
  | noted _ => true
  | _ => false

/-- A warning about text that was not executed. -/
def isUnterminated : Event → Bool
  | unterminated _ _ => true
  | _ => false

end Event

/-- The milestones among some events. -/
def milestones (events : List Event) : List Event := events.filter Event.isMilestone

/-- The milestones of two lists of events, one behind the other. -/
lemma milestones_append (events more : List Event) :
    milestones (events ++ more) = milestones events ++ milestones more :=
  List.filter_append _ _

/-- There are no milestones among events none of which is one. -/
lemma milestones_eq_nil {events : List Event} (h : ∀ e ∈ events, e.isMilestone = false) :
    milestones events = [] :=
  List.filter_eq_nil_iff.2 fun e he => by simp [h e he]

/-- The reports of sessions are no milestones. -/
lemma milestones_filter_isNote (events : List Event) :
    milestones (events.filter fun e => !e.isNote) = milestones events := by
  rw [milestones, milestones, List.filter_filter]
  refine List.filter_congr fun e _ => ?_
  cases e <;> first | rfl | exact Bool.and_true _

/-- The log has an entry of at least the level of plain information for a milestone, if it has one
at all, and for no other event, apart from the reports of sessions. -/
lemma filter_logged? {e : Event} (h : ∀ entry, e = .noted entry → entry.isProminent = false) :
    e.logged?.filter Log.Entry.isProminent = if e.isMilestone then e.logged? else none := by
  cases e with
  | noted entry => simp [Event.logged?, Event.isMilestone, Option.filter, h entry rfl]
  | noticed notice => cases notice <;> rfl
  | closed error => cases error <;> rfl
  | _ => rfl

/-- If sessions report nothing of importance, the entries of the log that are at least of the level
of plain information are those of the milestones. -/
lemma prominent_eq {events : List Event}
    (h : ∀ entry, .noted entry ∈ events → entry.isProminent = false) :
    (logOf events).filter Log.Entry.isProminent = (milestones events).filterMap Event.logged? := by
  rw [logOf, List.filter_filterMap, milestones, List.filterMap_filter]
  exact List.filterMap_congr fun e he => filter_logged? fun entry hentry => h entry (hentry ▸ he)

/-! ## Passing milestones -/

/-- A session of the connector can report this entry. -/
def Connector.CanReport (c : Connector σ) (entry : Log.Entry) : Prop :=
  (∃ before after notes, c.connect before = (after, .ok notes) ∧ entry ∈ notes) ∨
    ∃ sql session, entry ∈ (c.execute sql session).2.notes

/-- Sessions of the connector report nothing that is as important as plain information. -/
def Connector.IsQuiet (c : Connector σ) : Prop :=
  ∀ entry, c.CanReport entry → entry.isProminent = false

/-- Drivers report nothing that is as important as plain information. -/
structure Server.IsQuiet (server : Server σ) : Prop where
  connect : ∀ driver url before after notes, server.connect driver url before = (after, .ok notes) →
    ∀ entry ∈ notes, entry.isProminent = false
  execute : ∀ sql session, ∀ entry ∈ (server.execute sql session).2.notes, entry.isProminent = false

/-- The sessions of a database are quiet if its driver is. -/
lemma isQuiet_database {server : Server σ} (hserver : server.IsQuiet) (url : Text) :
    (server.database url).IsQuiet := by
  rintro entry (⟨before, after, notes, hconnect, hentry⟩ | ⟨sql, session, hentry⟩)
  · change server.openSession url before = _ at hconnect
    rw [Server.openSession] at hconnect
    split at hconnect
    · cases hconnect
    next driver _ =>
      split at hconnect
      · cases hconnect
      next opened reported hopened =>
        obtain ⟨-, hnotes⟩ := Prod.mk.inj hconnect
        obtain rfl := Except.ok.inj hnotes
        rcases List.mem_append.1 hentry with hentry | hentry
        · exact hserver.connect _ _ _ _ _ hopened entry hentry
        · obtain rfl := List.mem_singleton.1 hentry
          rfl
  · change entry ∈ (server.execute sql session).2.reply.notes at hentry
    rw [Database.Answer.reply] at hentry
    split at hentry
    · exact hserver.execute sql session entry hentry
    · rcases List.mem_append.1 hentry with hentry | hentry
      · exact hserver.execute sql session entry hentry
      · obtain rfl := List.mem_singleton.1 hentry
        rfl

/-- A dry run is quiet. -/
lemma isQuiet_dryRun (coloured : Bool) : (dryRun coloured).IsQuiet := by
  rintro entry (⟨before, after, notes, hconnect, hentry⟩ | ⟨sql, session, hentry⟩)
  · obtain rfl : notes = [] := by
      have hnotes := congrArg Prod.snd hconnect
      exact (Except.ok.inj hnotes).symm
    cases hentry
  · cases hentry

/-- From one state to another the given milestones are passed, and sessions report what they can
report. -/
def Passes (c : Connector σ) (s : RunState σ) (passed : List Event) (t : RunState σ) : Prop :=
  ∃ events, t.journal = s.journal ++ events ∧ milestones events = passed ∧
    ∀ entry, .noted entry ∈ events → c.CanReport entry

namespace Passes

variable {c : Connector σ} {s t u : RunState σ} {passed more : List Event} {events : List Event}

/-- What is passed later comes behind what was passed before. -/
lemma trans (h : Passes c s passed t) (h' : Passes c t more u) : Passes c s (passed ++ more) u := by
  obtain ⟨events, hevents, rfl, hnotes⟩ := h
  obtain ⟨events', hevents', rfl, hnotes'⟩ := h'
  refine ⟨events ++ events', by rw [hevents', hevents, List.append_assoc],
    milestones_append events events', fun entry hentry => ?_⟩
  exact (List.mem_append.1 hentry).elim (hnotes entry) (hnotes' entry)

/-- What is passed is passed as well if nothing is passed behind it. -/
lemma followed (h : Passes c s passed t) (h' : Passes c t [] u) : Passes c s passed u := by
  have hboth := h.trans h'
  rwa [List.append_nil] at hboth

/-- Nothing is passed where nothing is done. -/
lemma refl (s : RunState σ) : Passes c s [] s := ⟨[], (List.append_nil _).symm, rfl, by simp⟩

/-- Of recorded events the milestones are passed. -/
lemma recordAll (events : List Event) (h : ∀ e ∈ events, e.isNote = false) :
    Passes c s (milestones events) (s.recordAll events) := by
  refine ⟨events, rfl, rfl, fun entry hentry => ?_⟩
  have hnote := h _ hentry
  cases hnote

/-- A recorded event is passed if it is a milestone. -/
lemma record (e : Event) (h : e.isNote = false) : Passes c s (milestones [e]) (s.record e) :=
  recordAll [e] (by simpa using h)

/-- Nothing is passed by telling the operator something. -/
lemma write {lost : Text → Event} (h : ∀ error, (lost error).isAside = true) (text : Text) :
    Passes c s [] (s.write lost text) := by
  obtain ⟨events, haside, hwrite⟩ := s.exists_write_eq lost text h
  rw [hwrite]
  have hnone : ∀ e ∈ events, e.isMilestone = false ∧ e.isNote = false := by
    intro e he
    have he' := haside e he
    cases e <;> first | exact ⟨rfl, rfl⟩ | cases he'
  refine ⟨events, rfl, milestones_eq_nil fun e he => (hnone e he).1, fun entry hentry => ?_⟩
  have hnote := (hnone _ hentry).2
  cases hnote

/-- Nothing is passed by saying something. -/
lemma say (line : Text) : Passes c s [] (s.say line) := write (fun _ => rfl) _

end Passes

/-! ## The lines of a script -/

namespace Script.ReadLine

/-- The warning about a directive without a token. -/
def warning? (r : ReadLine) : Option Event :=
  if r.kind = .directive none then some (.noticed (.missingToken r.number)) else none

/-- What is passed on a line if its statement succeeds. -/
def milestones (r : ReadLine) : List Event :=
  r.warning?.toList ++ r.statement?.toList.map (.executed · none)

/-- Of what is noticed on a line, only the warning is a milestone. -/
lemma milestones_notice (r : ReadLine) :
    ScriptRunner.milestones (r.step.notice.toList.map .noticed) = r.warning?.toList := by
  have hpush : r.step = r.splitter.push r.line := rfl
  have hkind : r.kind = LineKind.of r.splitter.mode r.line := rfl
  rw [warning?, hpush]
  cases h : r.kind with
  | code text =>
    rw [hkind] at h
    rw [Splitter.push_of_code h, Splitter.pushCode_eq]
    split <;> rfl
  | directive token =>
    rw [hkind] at h
    cases token <;> simp only [Splitter.push, h] <;> rfl
  | _ =>
    rw [hkind] at h
    simp only [Splitter.push, h]
    rfl

/-- A line that gives a statement has no warning. -/
lemma warning?_of_statement? {r : ReadLine} {st : Statement} (h : r.statement? = some st) :
    r.warning? = none := by
  obtain ⟨text, hkind, -⟩ := Splitter.exists_code_of_statement h
  have hcode : r.kind = .code text := hkind
  rw [warning?, if_neg (by rw [hcode]; simp)]

/-- On a line that gives no statement, only the warning is passed. -/
lemma milestones_of_none {r : ReadLine} (h : r.statement? = none) :
    r.milestones = r.warning?.toList := by
  rw [milestones, h]
  exact List.append_nil _

/-- On a line that gives a statement, only this is passed. -/
lemma milestones_of_some {r : ReadLine} {st : Statement} (h : r.statement? = some st) :
    r.milestones = [.executed st none] := by
  rw [milestones, warning?_of_statement? h, h]
  rfl

end Script.ReadLine

/-- How the lines of a script can be applied: what is passed, and the statement that failed with its
error, if there is one. -/
inductive LinesApplied :
    List ReadLine → List Event → Option (Statement × DatabaseError) → Prop
  /-- Every statement succeeds. -/
  | complete (read : List ReadLine) : LinesApplied read (read.flatMap ReadLine.milestones) none
  /-- The statement that a line gives fails. Nothing is passed on the lines behind. -/
  | failed (front : List ReadLine) (r : ReadLine) (behind : List ReadLine) (st : Statement)
      (error : DatabaseError) (hst : r.statement? = some st) :
      LinesApplied (front ++ r :: behind)
        (front.flatMap ReadLine.milestones ++ [.executed st (some error)]) (some (st, error))

/-- A line on which nothing fails comes before the others. -/
lemma LinesApplied.cons {read : List ReadLine} {passed : List Event}
    {failure : Option (Statement × DatabaseError)} (r : ReadLine)
    (h : LinesApplied read passed failure) :
    LinesApplied (r :: read) (r.milestones ++ passed) failure := by
  cases h with
  | complete => exact .complete (r :: read)
  | failed front failing behind st error hst =>
    rw [← List.append_assoc]
    exact .failed (r :: front) failing behind st error hst

namespace Runner

/-- A statement is passed when it is executed, and its failure is the one that the connector
reports. -/
lemma applyStatement_passes (runner : Runner σ) (statement : Statement) (s : RunState σ) :
    ∃ error, Passes runner.connector s [.executed statement error]
        (runner.applyStatement statement s).2 ∧
      (runner.applyStatement statement s).1 =
        error.map fun e => ⟨statement.sql, e.failureMessage⟩ := by
  set reply := (runner.connector.execute statement.sql s.session).2 with hreply
  have hanswered : Passes runner.connector s [.executed statement reply.error]
      (runner.answered statement s) := by
    refine ⟨.executing statement :: (reply.notes.map .noted ++ [.executed statement reply.error]),
      ?_, ?_, fun entry hentry => .inr ⟨statement.sql, s.session, ?_⟩⟩
    · rw [List.append_cons]
      rfl
    · have hnotes : milestones (reply.notes.map .noted) = [] :=
        milestones_eq_nil (by simp [Event.isMilestone])
      rw [← List.singleton_append, milestones_append, milestones_append, hnotes]
      rfl
    · simpa using hentry
  refine ⟨reply.error, ?_⟩
  rw [applyStatement_eq, ← hreply]
  cases herror : reply.error with
  | some error =>
    rw [herror] at hanswered
    exact ⟨hanswered, rfl⟩
  | none =>
    rw [herror] at hanswered
    dsimp only
    split
    · exact ⟨hanswered.followed (Passes.write (fun _ => rfl) _), rfl⟩
    · exact ⟨hanswered, rfl⟩

/-- What is noticed on a line is passed if it is a warning. -/
lemma passes_notice {c : Connector σ} (s : RunState σ) (r : ReadLine) :
    Passes c s r.warning?.toList (s.recordAll (r.step.notice.toList.map .noticed)) := by
  rw [← r.milestones_notice]
  exact Passes.recordAll _ (by simp [Event.isNote])

/-- Reading lines passes what is to be passed on them, up to the first statement that fails. -/
lemma applyLines_passes (runner : Runner σ) (script : ScriptFile) (splitter : Splitter)
    (count : ℕ) (lines : List Text) (s : RunState σ) :
    ∃ passed failure,
      Passes runner.connector s passed (runner.applyLines script splitter count lines s).2 ∧
      LinesApplied (splitter.readLines lines) passed failure ∧
      (runner.applyLines script splitter count lines s).1 =
        match failure with
        | none => .ok (splitter.after lines, count + (splitter.statements lines).length)
        | some failure => .error (reported script failure) := by
  fun_induction applyLines runner script splitter count lines s with
  | case1 splitter count s => exact ⟨[], none, .refl s, .complete [], rfl⟩
  | case2 splitter count line rest s step noticed hstatement ih =>
    obtain ⟨passed, failure, hpasses, happlied, hresult⟩ := ih
    set r : ReadLine := ⟨splitter, line⟩
    have hline : Passes runner.connector s r.milestones noticed := by
      rw [ReadLine.milestones_of_none (r := r) hstatement]
      exact passes_notice s r
    rw [splitter.statements_cons_of_none hstatement]
    exact ⟨_, failure, hline.trans hpasses, happlied.cons r, hresult⟩
  | case3 splitter count line rest s step noticed statement hstatement applied happly ih =>
    obtain ⟨passed, failure, hpasses, happlied, hresult⟩ := ih
    set r : ReadLine := ⟨splitter, line⟩
    obtain ⟨error, hexecuted, herror⟩ := runner.applyStatement_passes statement noticed
    rw [happly] at hexecuted herror
    obtain rfl : error = none := by simpa using herror.symm
    have hnoticed : Passes runner.connector s r.warning?.toList noticed := passes_notice s r
    rw [ReadLine.warning?_of_statement? (r := r) hstatement] at hnoticed
    have hline : Passes runner.connector s r.milestones applied := by
      rw [ReadLine.milestones_of_some (r := r) hstatement]
      exact hnoticed.trans hexecuted
    rw [splitter.statements_cons_of_some hstatement]
    refine ⟨_, failure, hline.trans hpasses, happlied.cons r, ?_⟩
    rw [hresult, List.length_cons, Nat.add_right_comm, Nat.add_assoc]
    rfl
  | case4 splitter count line rest s step noticed statement hstatement failure applied happly =>
    set r : ReadLine := ⟨splitter, line⟩
    obtain ⟨error, hexecuted, herror⟩ := runner.applyStatement_passes statement noticed
    rw [happly] at hexecuted herror
    obtain ⟨e, rfl, rfl⟩ : ∃ e, error = some e ∧
        failure = ⟨statement.sql, e.failureMessage⟩ := by
      cases error with
      | none => cases herror
      | some e => exact ⟨e, rfl, by simpa using herror⟩
    have hnoticed : Passes runner.connector s r.warning?.toList noticed := passes_notice s r
    rw [ReadLine.warning?_of_statement? (r := r) hstatement] at hnoticed
    exact ⟨_, some (statement, e), (hnoticed.trans hexecuted).followed (Passes.say _),
      .failed [] r _ statement e hstatement, rfl⟩

/-! ## Scripts and items -/

end Runner

/-- What is passed in a script that is applied as a whole. -/
def course (script : ReadScript) : List Event :=
  .scriptStarted script.1.path :: (readLines script.2).flatMap ReadLine.milestones ++
    (split script.2).remainder.toList.map fun text => .unterminated script.1.path text.line

/-- The start of the script, what is passed on its lines, and the warning of the text at its end. -/
lemma course_eq (script : ReadScript) :
    course script = [.scriptStarted script.1.path] ++
      ((readLines script.2).flatMap ReadLine.milestones ++
        (split script.2).remainder.toList.map fun text =>
          .unterminated script.1.path text.line) := rfl

/-! ## The entries of the log -/

namespace Log.Entry

/-- A script is applied. -/
def applying (script : Path) : Log.Entry where
  level := .info
  target := "sqlapply::driver"
  message := "applying script"
  fields := [("script", .plain script.display)]

/-- A directive has no token. -/
def tokenless (line : ℕ) : Log.Entry where
  level := .warn
  target := "sqlapply::splitter"
  message := "DELIMITER directive without a token ignored"
  fields := [("line", .number line)]

/-- A text at the end of a script was not executed. -/
def leftOver (script : Path) (line : ℕ) : Log.Entry where
  level := .warn
  target := "sqlapply::driver"
  message := "unterminated statement at end of script was not executed"
  fields := [("script", .plain script.display), ("line", .number line)]

/-- All scripts were applied. -/
def totals (summary : Summary) : Log.Entry where
  level := .info
  target := "sqlapply::driver"
  message := "all scripts applied"
  fields := [("files", .number summary.files), ("statements", .number summary.statements)]

/-- The session could not be closed. -/
def unclosed (error : DatabaseError) : Log.Entry where
  level := .warn
  target := "sqlapply::driver"
  message := "failed to close connection"
  fields := [("error", .plain error.message)]

end Log.Entry

/-- The warnings about directives without a token on some lines. -/
def tokenWarnings (read : List ReadLine) : List Log.Entry :=
  (read.filter fun r => r.kind = .directive none).map fun r => .tokenless r.number

/-- The log of a script that is applied as a whole. -/
def scriptLog (script : ReadScript) : List Log.Entry :=
  .applying script.1.path :: tokenWarnings (readLines script.2) ++
    (split script.2).remainder.toList.map fun text => .leftOver script.1.path text.line

/-- How a run can halt behind scripts that were applied: the items that are left, what is passed
last, the log of that, and the result. -/
inductive Halt (tree : FileTree) (applied : List ReadScript) :
    List Item → List Event → List Log.Entry → Except RunError Summary → Prop
  /-- No items are left. -/
  | complete :
      Halt tree applied []
        [.finished (Summary.ofScripts applied).files (Summary.ofScripts applied).statements]
        [.totals (.ofScripts applied)] (.ok (.ofScripts applied))
  /-- The walk yields an error. -/
  | notLocated (error : LocateError) (items : List Item) :
      Halt tree applied (.error error :: items) [] [] (.error (.locate error))
  /-- A script cannot be read. -/
  | notRead (script : ScriptFile) (items : List Item) (error : FileError)
      (hread : tree.readText script.path = .error error) :
      Halt tree applied (.ok script :: items) [.scriptStarted script.path]
        [.applying script.path] (.error (.readScript script.path error))
  /-- The statement that a line gives fails. The lines behind are not read. -/
  | notExecuted (script : ScriptFile) (items : List Item) (content : Text)
      (front behind : List ReadLine) (r : ReadLine) (st : Statement) (error : DatabaseError)
      (hread : tree.readText script.path = .ok content)
      (hlines : readLines content = front ++ r :: behind) (hst : r.statement? = some st) :
      Halt tree applied (.ok script :: items)
        (.scriptStarted script.path :: front.flatMap ReadLine.milestones ++
          [.executed st (some error)])
        (.applying script.path :: tokenWarnings front)
        (.error (.statement script.path st.line ⟨st.sql, error.failureMessage⟩))

/-- The warnings on a line and on those behind it. -/
lemma tokenWarnings_cons (r : ReadLine) (read : List ReadLine) :
    tokenWarnings (r :: read) = tokenWarnings [r] ++ tokenWarnings read := by
  rw [tokenWarnings, ← List.singleton_append, List.filter_append, List.map_append]
  rfl

/-- Of what is passed on some lines, the log has the warnings. -/
lemma filterMap_logged?_milestones (read : List ReadLine) :
    (read.flatMap ReadLine.milestones).filterMap Event.logged? = tokenWarnings read := by
  induction read with
  | nil => rfl
  | cons r read ih =>
    have hline : r.milestones.filterMap Event.logged? = tokenWarnings [r] := by
      rw [ReadLine.milestones, ReadLine.warning?, tokenWarnings, List.filter_singleton]
      by_cases h : r.kind = .directive none
      · rw [if_pos h, decide_eq_true h]
        cases r.statement? <;> rfl
      · rw [if_neg h, decide_eq_false h]
        cases r.statement? <;> rfl
    rw [List.flatMap_cons, List.filterMap_append, hline, ih, ← tokenWarnings_cons]

/-- The log of what is passed in a script that is applied as a whole. -/
lemma filterMap_logged?_course (script : ReadScript) :
    (course script).filterMap Event.logged? = scriptLog script := by
  rw [course_eq, List.filterMap_append, List.filterMap_append, filterMap_logged?_milestones,
    scriptLog]
  cases (split script.2).remainder <;> rfl

/-- The log of what is passed where a run halts. -/
lemma Halt.filterMap_logged? {tree : FileTree} {applied : List ReadScript} {rest : List Item}
    {ending : List Event} {told : List Log.Entry} {result : Except RunError Summary}
    (h : Halt tree applied rest ending told result) : ending.filterMap Event.logged? = told := by
  cases h with
  | complete => rfl
  | notLocated => rfl
  | notRead => rfl
  | notExecuted script items content front behind r st error =>
    rw [List.cons_append, ← List.singleton_append, List.filterMap_append, List.filterMap_append,
      filterMap_logged?_milestones]
    exact congrArg _ (List.append_nil _)

namespace Runner

variable {runner : Runner σ} {script : ScriptFile} {summary summary' : Summary} {error : RunError}
  {s t : RunState σ} {content : Text}

/-- When the lines of a script are read, only its start was passed. -/
lemma announced_passes (runner : Runner σ) (script : ScriptFile) (s : RunState σ) :
    Passes runner.connector s [.scriptStarted script.path] (runner.announced script s) :=
  (Passes.record (.scriptStarted script.path) rfl).followed (Passes.write (fun _ => rfl) _)

/-- What is passed in a script that can be read, up to the first statement that fails. -/
lemma applyScript_passes (runner : Runner σ) (script : ScriptFile) (summary : Summary)
    (hread : s.tree.readText script.path = .ok content) :
    (∃ summary', (runner.applyScript script summary s).1 = .ok summary' ∧
      Passes runner.connector s (course (script, content))
        (runner.applyScript script summary s).2) ∨
    ∃ front r behind st error,
      readLines content = front ++ r :: behind ∧ r.statement? = some st ∧
      (runner.applyScript script summary s).1 = .error (reported script (st, error)) ∧
      Passes runner.connector s
        (.scriptStarted script.path :: front.flatMap ReadLine.milestones ++
          [.executed st (some error)])
        (runner.applyScript script summary s).2 := by
  have hannounced := runner.announced_passes script s
  obtain ⟨passed, failure, hpasses, happlied, hresult⟩ :=
    runner.applyLines_passes script {} 0 (lines (dropByteOrderMark content))
      (runner.announced script s)
  have hlines := hannounced.trans hpasses
  rw [runner.applyScript_eq script summary hread]
  rcases happly : runner.applyLines script {} 0 (lines (dropByteOrderMark content))
    (runner.announced script s) with ⟨result, applied⟩
  rw [happly] at hlines hresult
  rw [← readLines] at happlied
  generalize hread' : readLines content = read at happlied
  cases happlied with
  | complete =>
    obtain rfl : result = .ok _ := hresult
    have hremainder : (split content).remainder =
        (Splitter.after {} (lines (dropByteOrderMark content))).remainder := by rw [split_eq]
    have hcourse : course (script, content) =
        [.scriptStarted script.path] ++ read.flatMap ReadLine.milestones ++
          milestones ((split content).remainder.toList.map fun text =>
            .unterminated script.path text.line) := by
      rw [course, hread']
      cases (split content).remainder <;> rfl
    have hwarned := hlines.trans (Passes.recordAll
      ((split content).remainder.toList.map fun text => .unterminated script.path text.line)
      (by simp [Event.isNote]))
    rw [← hcourse, hremainder] at hwarned
    exact .inl ⟨_, rfl, hwarned.followed (Passes.say _)⟩
  | failed front r behind st error hst =>
    obtain rfl : result = .error (reported script (st, error)) := hresult
    exact .inr ⟨front, r, behind, st, error, rfl, hst, rfl, hlines⟩

/-- A script that is applied has its course passed. -/
lemma applyScript_passes_course (h : runner.applyScript script summary s = (.ok summary', t))
    (hread : s.tree.readText script.path = .ok content) :
    Passes runner.connector s (course (script, content)) t := by
  rcases runner.applyScript_passes script summary hread with
    ⟨_, -, hpasses⟩ | ⟨_, _, _, _, _, -, -, hresult, -⟩
  · rwa [h] at hpasses
  · rw [h] at hresult
    cases hresult

/-- Where a script is not applied, the run halts in it. -/
lemma applyScript_halts (h : runner.applyScript script summary s = (.error error, t))
    (applied : List ReadScript) (items : List Item) :
    ∃ ending told, Halt s.tree applied (.ok script :: items) ending told (.error error) ∧
      Passes runner.connector s ending t := by
  cases hread : s.tree.readText script.path with
  | error fileError =>
    rw [runner.applyScript_unreadable script summary hread] at h
    obtain ⟨rfl, rfl⟩ : RunError.readScript script.path fileError = error ∧
        s.record (.scriptStarted script.path) = t := by simpa using h
    exact ⟨_, _, .notRead script items fileError hread, Passes.record _ rfl⟩
  | ok content =>
    rcases runner.applyScript_passes script summary hread with
      ⟨_, hresult, -⟩ | ⟨front, r, behind, st, databaseError, hlines, hst, hresult, hpasses⟩
    · rw [h] at hresult
      cases hresult
    · rw [h] at hresult hpasses
      obtain rfl := Except.error.inj hresult
      exact ⟨_, _,
        .notExecuted script items content front behind r st databaseError hread hlines hst, hpasses⟩

/-- Applied items have their courses passed, up to the one in which the run halts. -/
lemma Applies.passes {applied : List ReadScript} {items : List Item}
    {result : Except RunError Summary} (h : runner.Applies (.ofScripts applied) items s result t)
    (hspares : runner.connector.Spares s.tree) :
    ∃ more rest ending told,
      items = more.map (fun script => .ok script.1) ++ rest ∧
      (∀ script ∈ more, s.tree.readText script.1.path = .ok script.2) ∧
      Halt s.tree (applied ++ more) rest ending told result ∧
      Passes runner.connector s (more.flatMap course ++ ending) t := by
  generalize hsummary : Summary.ofScripts applied = summary at h
  induction h generalizing applied with
  | notLocated summary error items s =>
    exact ⟨[], _, [], [], rfl, by simp, .notLocated error items, .refl s⟩
  | stopped items happly =>
    obtain ⟨ending, told, hhalt, hpasses⟩ := applyScript_halts happly applied items
    exact ⟨[], _, ending, told, rfl, by simp, by rwa [List.append_nil], hpasses⟩
  | last happly =>
    subst hsummary
    obtain ⟨content, hread, -, rfl⟩ := exists_applied happly
    have hcourse := applyScript_passes_course happly hread
    refine ⟨[(_, content)], [], _, _, rfl, by simpa using hread, .complete, ?_⟩
    rw [List.flatMap_singleton]
    exact hcourse.trans (Passes.record _ rfl)
  | @more summary summary' script items s t u result happly _ ih =>
    subst hsummary
    obtain ⟨content, hread, -, rfl⟩ := exists_applied happly
    -- The scripts behind are read in the tree of the beginning.
    have htree : t.tree = s.tree := tree_of_applyScript happly hspares
    obtain ⟨more, rest, ending, told, rfl, hmore, hhalt, hpasses⟩ := ih (htree ▸ hspares) rfl
    rw [htree] at hmore hhalt
    refine ⟨(script, content) :: more, rest, ending, told, rfl, ?_, ?_, ?_⟩
    · intro read hmem
      rcases List.mem_cons.1 hmem with rfl | hmem
      · exact hread
      · exact hmore read hmem
    · rwa [List.append_assoc] at hhalt
    · rw [List.flatMap_cons, List.append_assoc]
      exact (applyScript_passes_course happly hread).trans hpasses

/-! ## Whole runs -/

/-- Nothing is passed before the first item is applied. -/
lemma opened_passes {session : σ} {notes : List Log.Entry}
    (hconnect : runner.connector.connect s.session = (session, .ok notes)) (root : Path) :
    Passes runner.connector s [] (runner.opened root session notes s) := by
  have hphase : ∀ (t : RunState σ) (phase : Phase), Passes runner.connector t [] (t.enter phase) :=
    fun t phase => Passes.record (.phaseChanged t.phase phase) rfl
  set said := s.say (runner.arrow ++ " Loading scripts from "
    ++ runner.paint .yellow runner.locator.root.display) with hsaid
  have hwalking : Passes runner.connector s []
      (said.record (.walkStarted root runner.locator.extension)) :=
    (Passes.say _).trans (Passes.record _ rfl)
  have hlocated : Passes runner.connector s [] (runner.located root s) :=
    hwalking.trans ((hphase _ .located).trans (Passes.say _))
  have hnoted : Passes runner.connector (runner.located root s) []
      ((runner.located root s).recordAll (.connected none :: notes.map .noted)) := by
    refine ⟨_, rfl, milestones_eq_nil (by simp [Event.isMilestone]), fun entry hentry => ?_⟩
    exact .inl ⟨s.session, session, notes, hconnect, by simpa using hentry⟩
  exact hlocated.trans (hnoted.trans (hphase _ .running))

/-- Closing the session is passed last. -/
lemma release_passes (runner : Runner σ) (s : RunState σ) :
    Passes runner.connector s [.closed (runner.connector.close s.session).2]
      (runner.release s) := by
  unfold release
  rcases runner.connector.close s.session with ⟨session, _ | error⟩
  · exact Passes.record (s := { s with session := session }) (.closed none) rfl
  · exact (Passes.record (s := { s with session := session }) (.closed (some error)) rfl).followed
      (Passes.say _)

end Runner

/-- All executions are milestones. -/
lemma executionsIn_milestones (events : List Event) :
    executionsIn (milestones events) = executionsIn events := by
  rw [executionsIn, executionsIn, milestones, List.filterMap_filter]
  refine List.filterMap_congr fun e _ => ?_
  cases e with
  | noticed notice => cases notice <;> rfl
  | _ => rfl

/-- On lines on which nothing fails, the statements that they give are executed. -/
lemma executionsIn_flatMap_milestones (read : List ReadLine) :
    executionsIn (read.flatMap ReadLine.milestones) =
      succeeded (read.filterMap ReadLine.statement?) := by
  induction read with
  | nil => rfl
  | cons r read ih =>
    rw [List.flatMap_cons, executionsIn_append, ih, ReadLine.milestones, ReadLine.warning?,
      List.filterMap_cons]
    split <;> cases r.statement? <;> rfl

/-- In a script that is applied as a whole its statements are executed. -/
lemma executionsIn_course (script : ReadScript) :
    executionsIn (course script) = succeeded (split script.2).statements := by
  rw [course_eq, executionsIn_append, executionsIn_append, executionsIn_flatMap_milestones,
    statements_split]
  cases (split script.2).remainder <;> exact List.append_nil _

/-- All warnings about texts that were not executed are milestones. -/
lemma countP_milestones (events : List Event) :
    (milestones events).countP Event.isUnterminated = events.countP Event.isUnterminated := by
  rw [milestones, List.countP_filter]
  refine List.countP_congr fun e _ => ?_
  cases e <;> simp [Event.isUnterminated, Event.isMilestone]

/-- The number of texts that scripts were warned of is that in their totals. -/
lemma countP_flatMap_course (scripts : List ReadScript) :
    (scripts.flatMap course).countP Event.isUnterminated =
      (Summary.ofScripts scripts).unterminated := by
  have hline : ∀ r : ReadLine, r.milestones.countP Event.isUnterminated = 0 := by
    intro r
    rw [ReadLine.milestones, ReadLine.warning?]
    split <;> cases r.statement? <;> rfl
  have hcourse : ∀ script, (course script).countP Event.isUnterminated =
      if (split script.2).remainder.isSome then 1 else 0 := by
    intro script
    have hlines : ((readLines script.2).flatMap ReadLine.milestones).countP
        Event.isUnterminated = 0 := by
      rw [List.countP_eq_zero]
      intro e he
      obtain ⟨r, -, he⟩ := List.mem_flatMap.1 he
      exact List.countP_eq_zero.1 (hline r) e he
    rw [course, List.countP_append, List.countP_cons, hlines]
    cases (split script.2).remainder <;> rfl
  rw [Summary.ofScripts, List.countP_flatMap]
  induction scripts with
  | nil => rfl
  | cons script scripts ih =>
    rw [List.map_cons, List.sum_cons, ih, List.countP_cons, Function.comp_apply, hcourse,
      Nat.add_comm]

/-- What is passed in a run that applies scripts, halts and closes its session. -/
def story (applied : List ReadScript) (ending : List Event) (closing : Option DatabaseError) :
    List Event :=
  applied.flatMap course ++ ending ++ [.closed closing]

/-- The log of a run that applies scripts, halts and closes its session. -/
def storyLog (applied : List ReadScript) (told : List Log.Entry)
    (closing : Option DatabaseError) : List Log.Entry :=
  applied.flatMap scriptLog ++ told ++ closing.toList.map .unclosed

/-- The log of what is passed in a run. -/
lemma Halt.filterMap_logged?_story {tree : FileTree} {applied : List ReadScript}
    {rest : List Item} {ending : List Event} {told : List Log.Entry}
    {result : Except RunError Summary} (h : Halt tree applied rest ending told result)
    (closing : Option DatabaseError) :
    (story applied ending closing).filterMap Event.logged? = storyLog applied told closing := by
  have hcourses : (applied.flatMap course).filterMap Event.logged? =
      applied.flatMap scriptLog := by
    rw [List.filterMap_flatMap]
    exact List.flatMap_congr fun script _ => filterMap_logged?_course script
  rw [story, storyLog, List.filterMap_append, List.filterMap_append, hcourses, h.filterMap_logged?]
  cases closing <;> rfl

/-- A run that applies items in a session, closes it and enters its last phase has a story. -/
lemma Runner.exists_story {runner : Runner σ} {s done : RunState σ} {root : Path} {session : σ}
    {notes : List Log.Entry} {items : List Item} {result : Except RunError Summary}
    (hspares : runner.connector.Spares s.tree)
    (hconnect : runner.connector.connect s.session = (session, .ok notes))
    (happlies : runner.Applies {} items (runner.opened root session notes s) result done)
    (hrun : runner.run s = (result, (runner.release done).enter (lastPhase result))) :
    ∃ applied rest ending told,
      items = applied.map (fun script => .ok script.1) ++ rest ∧
      (∀ script ∈ applied, s.tree.readText script.1.path = .ok script.2) ∧
      Halt s.tree applied rest ending told (runner.run s).1 ∧
      Passes runner.connector s (story applied ending (runner.connector.close done.session).2)
        (runner.run s).2 := by
  have htree : (runner.opened root session notes s).tree = s.tree :=
    congrArg Situation.tree (runner.situation_opened root session notes s)
  have hempty : (Summary.ofScripts [] : Summary) = {} := rfl
  rw [← hempty] at happlies
  obtain ⟨applied, rest, ending, told, horder, hread, hhalt, hpasses⟩ :=
    happlies.passes (htree ▸ hspares)
  rw [htree, List.nil_append] at hhalt
  rw [htree] at hread
  refine ⟨applied, rest, ending, told, horder, hread, by rwa [hrun], ?_⟩
  rw [hrun]
  have hreleased := ((opened_passes hconnect root).trans hpasses).trans (runner.release_passes done)
  exact hreleased.followed (Passes.record (.phaseChanged _ _) rfl)

/-- What a run over some items reports: it applies the first of them and halts in the rest. The
events of the run lead from its beginning to its end, and these are the milestones among them. -/
structure Reports (runner : Runner σ) (s : RunState σ) (items : List Item)
    (applied : List ReadScript) (rest : List Item) (ending : List Event) (told : List Log.Entry)
    (closing : Option DatabaseError) (events : List Event) : Prop where
  leads : Leads runner.connector s events (runner.run s).2
  order : items = applied.map (fun script => .ok script.1) ++ rest
  read : ∀ script ∈ applied, s.tree.readText script.1.path = .ok script.2
  halt : Halt s.tree applied rest ending told (runner.run s).1
  passed : milestones events = story applied ending closing
  /-- The log of the run itself, at the level of plain information and above. -/
  log : (logOf (events.filter fun e => !e.isNote)).filter Log.Entry.isProminent =
    storyLog applied told closing
  /-- This is the whole log if sessions are quiet. -/
  wholeLog : runner.connector.IsQuiet →
    (logOf events).filter Log.Entry.isProminent = storyLog applied told closing
  /-- On success there is a warning for each text in the totals. -/
  unterminated : ∀ summary, (runner.run s).1 = .ok summary →
    events.countP Event.isUnterminated = summary.unterminated
  executed : executionsIn events = succeeded (statementsOf applied) ++ executionsIn ending
  /-- A text that is warned of comes from lines behind all those that give a statement. -/
  apart : ∀ script ∈ applied, ∀ text, (split script.2).remainder = some text →
    ∃ front behind, readLines script.2 = front ++ behind ∧
      (split script.2).statements = front.filterMap ReadLine.statement? ∧
      text.sql = trim (CodeLine.joined (codeOf behind))

namespace Reports

variable {s : RunState σ} {items : List Item} {applied : List ReadScript} {rest : List Item}
  {ending : List Event} {told : List Log.Entry} {closing : Option DatabaseError}
  {events : List Event}

/-- **The whole log of a run in a database.** If its driver is quiet, then it is that of the run
itself. -/
theorem wholeLog_database {runner : Runner σ} {server : Server σ} {url : Text}
    (h : Reports runner s items applied rest ending told closing events)
    (hconnector : runner.connector = server.database url) (hserver : server.IsQuiet) :
    (logOf events).filter Log.Entry.isProminent = storyLog applied told closing :=
  h.wholeLog (hconnector ▸ isQuiet_database hserver url)

/-- **The whole log of a dry run.** It is that of the run itself. -/
theorem wholeLog_dryRun {runner : Runner ℕ} {start : RunState ℕ} {coloured : Bool}
    (h : Reports runner start items applied rest ending told closing events)
    (hconnector : runner.connector = dryRun coloured) :
    (logOf events).filter Log.Entry.isProminent = storyLog applied told closing :=
  h.wholeLog (hconnector ▸ isQuiet_dryRun coloured)

end Reports

namespace Runner

/-- **What a run reports.** If a run opens a session and statements do not change the tree, then the
log of the run at the level of plain information and above is this, in order. For each script that
is reached there is its start, and a warning for each directive without a token outside of comments,
up to the last line that was read. If the script is completed, a warning follows for the text at its
end that no delimiter closed, which is no part of anything that was executed. If the run succeeds,
its totals follow, and there are as many warnings of the second kind as they count. At the end there
is a warning if the session could not be closed. -/
theorem run_reports (runner : Runner σ) {s : RunState σ} {events : List Event}
    (hspares : runner.connector.Spares s.tree)
    (hjournal : (runner.run s).2.journal = s.journal ++ events)
    (hconnected : .connected none ∈ events) :
    ∃ items applied rest ending told closing, runner.locator.scripts s.tree = .ok items ∧
      Reports runner s items applied rest ending told closing events := by
  obtain ⟨first, items, session, notes, hitems, hconnect⟩ := exists_opened hjournal hconnected
  obtain ⟨root, result, done, happlies, hrun⟩ := runner.run_applies hspares hitems hconnect
  obtain ⟨applied, rest, ending, told, horder, hread, hhalt, events', hjournal', hpassed, hnotes⟩ :=
    exists_story hspares hconnect happlies hrun
  obtain rfl : events' = events := List.append_cancel_left (hjournal'.symm.trans hjournal)
  have hleads : Leads runner.connector s events' (runner.run s).2 := by
    obtain ⟨_, ⟨events, hleads, -⟩, -⟩ := runner.run_does s
    have hsame : events = events' := List.append_cancel_left (hleads.journal.symm.trans hjournal)
    rwa [hsame] at hleads
  refine ⟨_, applied, rest, ending, told, _, hitems,
    hleads, horder, hread, hhalt, hpassed, ?_, ?_, ?_, ?_, ?_⟩
  · have hnone : ∀ entry, .noted entry ∈ events'.filter (fun e => !e.isNote) →
        entry.isProminent = false := by
      intro entry hentry
      have hnote := (List.mem_filter.1 hentry).2
      cases hnote
    rw [prominent_eq hnone, milestones_filter_isNote, hpassed, hhalt.filterMap_logged?_story]
  · intro hquiet
    rw [prominent_eq fun entry hentry => hquiet entry (hnotes entry hentry), hpassed,
      hhalt.filterMap_logged?_story]
  · intro summary hsummary
    rw [← countP_milestones, hpassed, story, List.countP_append, List.countP_append,
      countP_flatMap_course]
    rw [hsummary] at hhalt
    cases hhalt
    rfl
  · rw [← executionsIn_milestones, hpassed, story, executionsIn_append, executionsIn_append,
      statementsOf, succeeded, List.map_flatMap]
    have hcourses : executionsIn (applied.flatMap course) =
        applied.flatMap fun script => succeeded (split script.2).statements := by
      rw [executionsIn, List.filterMap_flatMap]
      exact List.flatMap_congr fun script _ => executionsIn_course script
    rw [hcourses]
    exact List.append_nil _
  · intro script _ text htext
    exact exists_apart htext

end Runner

/-! ## An example -/

/-- A tree with two scripts: one with a directive without a token and with text at its end, and one
in which a statement is refused before such a directive. -/
def warnedScripts : FileTree where
  top := .directory
    [(encode "db", .directory
      [(encode "a.sql", .file (encode "DELIMITER \nA;\nB\n")),
        (encode "b.sql", .file (encode "C;\nDROP T;\nDELIMITER \n"))])]

/-- A runner whose connector executes every statement and does not close its session. -/
def carelessRunner : Runner Unit where
  locator := { root := encode "/db" }
  connector :=
    { target := "example"
      connect := fun _ => ((), .ok [])
      execute := fun _ _ => ((), {})
      close := fun _ => ((), some (.protocol "gone")) }

/-- The run of the cautious runner over the two scripts warns of the directive and of the text at
the end of the first one, and not of the directive behind the refused statement. That of the
careless runner warns of both directives, and tells of the totals and of the session. -/
theorem run_reports_warnedScripts :
    (∃ items applied rest ending told closing,
      cautiousRunner.locator.scripts warnedScripts = .ok items ∧
      Reports cautiousRunner { tree := warnedScripts, session := () }
        items applied rest ending told closing
        (cautiousRunner.run { tree := warnedScripts, session := () }).2.journal) ∧
    milestones (cautiousRunner.run { tree := warnedScripts, session := () }).2.journal =
      [.scriptStarted (encode "/db/a.sql"), .noticed (.missingToken 1), .executed ⟨"A;", 2⟩ none,
        .unterminated (encode "/db/a.sql") 3, .scriptStarted (encode "/db/b.sql"),
        .executed ⟨"C;", 1⟩ none, .executed ⟨"DROP T;", 2⟩ (some .rowNotFound), .closed none] ∧
    (logOf (cautiousRunner.run { tree := warnedScripts, session := () }).2.journal).filter
        Log.Entry.isProminent =
      [⟨.info, "sqlapply::driver", "applying script", [("script", .plain "/db/a.sql")]⟩,
        ⟨.warn, "sqlapply::splitter", "DELIMITER directive without a token ignored",
          [("line", .number 1)]⟩,
        ⟨.warn, "sqlapply::driver", "unterminated statement at end of script was not executed",
          [("script", .plain "/db/a.sql"), ("line", .number 3)]⟩,
        ⟨.info, "sqlapply::driver", "applying script", [("script", .plain "/db/b.sql")]⟩] ∧
    (logOf (carelessRunner.run { tree := warnedScripts, session := () }).2.journal).filter
        Log.Entry.isProminent =
      [⟨.info, "sqlapply::driver", "applying script", [("script", .plain "/db/a.sql")]⟩,
        ⟨.warn, "sqlapply::splitter", "DELIMITER directive without a token ignored",
          [("line", .number 1)]⟩,
        ⟨.warn, "sqlapply::driver", "unterminated statement at end of script was not executed",
          [("script", .plain "/db/a.sql"), ("line", .number 3)]⟩,
        ⟨.info, "sqlapply::driver", "applying script", [("script", .plain "/db/b.sql")]⟩,
        ⟨.warn, "sqlapply::splitter", "DELIMITER directive without a token ignored",
          [("line", .number 3)]⟩,
        ⟨.info, "sqlapply::driver", "all scripts applied",
          [("files", .number 2), ("statements", .number 3)]⟩,
        ⟨.warn, "sqlapply::driver", "failed to close connection",
          [("error", .plain "encountered unexpected or invalid data: gone")]⟩] := by
  have hconnected : .connected none ∈
      (cautiousRunner.run { tree := warnedScripts, session := () }).2.journal := by
    decide +kernel
  refine ⟨?_, by decide +kernel, by decide +kernel, by decide +kernel⟩
  exact Runner.run_reports cautiousRunner (s := { tree := warnedScripts, session := () })
    (fun _ _ => rfl) (List.nil_append _).symm hconnected

end ScriptRunner
