import Mathlib
import ScriptRunner.Proofs.Plans

/-!
# What the operator is told

An output without a limit and without faults takes all that is written to it (`Output.IsOpen`), so
what a part of a run tells the operator is a text that is added to the output (`Tells`).

What is shown of statements depends on the session: a connector may show each statement in its own
way, and the marks come to an end with the first statement that fails (`Runner.marks`). The entries
of scripts are put together from these (`Runner.entries`), and a whole run tells the entries of the
scripts that it plans to apply (`Applies.tells`).
-/

namespace ScriptRunner

open Text Script

variable {σ : Type}

/-! ## Open outputs -/

/-- An output that takes everything. -/
structure Output.IsOpen (output : Output) : Prop where
  room : output.room = none
  faults : output.faults = []

/-- An output that takes everything goes on to do so. -/
lemma Output.IsOpen.write {output : Output} (h : output.IsOpen) (bytes : Bytes) :
    (output.write bytes).1.IsOpen where
  room := by simp [Output.write, Output.take, h.room, h.faults]
  faults := by simp [Output.write, Output.take, h.room, h.faults]

/-- From one state to another, the operator is told a text, if the output takes everything. -/
def Tells (s : RunState σ) (text : Text) (t : RunState σ) : Prop :=
  s.output.IsOpen →
    t.output.IsOpen ∧ t.output.delivered = s.output.delivered ++ encode text

namespace Tells

variable {s t u : RunState σ} {text more : Text}

/-- What is told later comes behind what was told before. -/
lemma trans (h : Tells s text t) (h' : Tells t more u) : Tells s (text ++ more) u := by
  intro hopen
  obtain ⟨htold, hdelivered⟩ := h hopen
  obtain ⟨hmore, hbehind⟩ := h' htold
  exact ⟨hmore, by rw [hbehind, hdelivered, encode_append, List.append_assoc]⟩

/-- Nothing is told where the output stays as it is. -/
lemma of_output_eq (h : t.output = s.output) : Tells s [] t := by
  intro hopen
  rw [h]
  exact ⟨hopen, (List.append_nil _).symm⟩

/-- What is told behind a state is told behind any other one with the same output. -/
lemma preceded (h : Tells t text u) (houtput : t.output = s.output) : Tells s text u :=
  (of_output_eq houtput).trans h

/-- What is told is told as well if nothing is written behind it. -/
lemma followed (h : Tells s text t) (houtput : u.output = t.output) : Tells s text u := by
  have hboth := h.trans (of_output_eq houtput)
  rwa [List.append_nil] at hboth

/-- A text that is written is told. -/
lemma write (s : RunState σ) (lost : Text → Event) (text : Text) :
    Tells s text (s.write lost text) := by
  have houtput : (s.write lost text).output = (s.output.write (encode text)).1 := by
    unfold RunState.write
    dsimp only
    split <;> rfl
  intro hopen
  rw [houtput]
  exact ⟨hopen.write _, s.output.delivered_write_of_unlimited _ hopen.room hopen.faults⟩

/-- A line that is said is told with the line feed at its end. -/
lemma say (s : RunState σ) (line : Text) : Tells s (line ++ ['\n']) (s.say line) := write s _ _

end Tells

/-! ## Marks -/

/-- What comes of executing statements one after the other: the session behind them, whether all of
them succeeded, and what is shown. -/
structure Marks (σ : Type) where
  session : σ
  succeeded : Bool
  text : Text

/-- The same marks with a text behind them that depends on the success. -/
def Marks.followed (marks : Marks σ) (behind : Bool → Text) : Marks σ :=
  { marks with text := marks.text ++ behind marks.succeeded }

/-- A part of a run shows the marks of what it executes: it ends in their session, with success if
they have it, and the operator is told their text. -/
structure Shows {α : Type} (s : RunState σ) (marks : Marks σ)
    (applied : Except RunError α × RunState σ) : Prop where
  session : applied.2.session = marks.session
  isOk : applied.1.isOk = marks.succeeded
  tells : Tells s marks.text applied.2

namespace Runner

variable (runner : Runner σ)

/-- What is shown for a statement that succeeded, in the session behind it. -/
def mark (statement : Statement) (session : σ) : Text :=
  if runner.progress then
    (runner.connector.progressLine statement session).getD progressMarker
  else []

/-- What comes of statements that are executed up to the first one that fails. -/
def marks : σ → List Statement → Marks σ
  | session, [] => ⟨session, true, []⟩
  | session, statement :: rest =>
    let (session, reply) := runner.connector.execute statement.sql session
    if reply.error = none then
      let more := marks session rest
      { more with text := runner.mark statement session ++ more.text }
    else ⟨session, false, []⟩

/-- A statement that succeeds is marked, and those behind it are marked in the session behind it. -/
lemma marks_cons_of_none {statement : Statement} {session : σ} (rest : List Statement)
    (h : (runner.connector.execute statement.sql session).2.error = none) :
    runner.marks session (statement :: rest) =
      let behind := (runner.connector.execute statement.sql session).1
      { runner.marks behind rest with
        text := runner.mark statement behind ++ (runner.marks behind rest).text } := by
  rw [marks]
  exact if_pos h

/-- A statement that fails is not marked, nor are those behind it. -/
lemma marks_cons_of_some {statement : Statement} {session : σ} {error : DatabaseError}
    (rest : List Statement)
    (h : (runner.connector.execute statement.sql session).2.error = some error) :
    runner.marks session (statement :: rest) =
      ⟨(runner.connector.execute statement.sql session).1, false, []⟩ := by
  rw [marks]
  exact if_neg (by rw [h]; simp)

/-- What stands in front of the marks of a script. -/
def heading (script : ScriptFile) : Text :=
  "  " ++ runner.arrow ++ " " ++ Path.display script.name ++ " "

/-- What stands behind the marks of a script that was applied as a whole, and of one in which a
statement failed. -/
def verdict (succeeded : Bool) : Text :=
  ' ' :: (if succeeded then runner.paint .green "✓" else runner.paint .red "✗") ++ ['\n']

/-- The entry of a script. -/
def entry (session : σ) (script : ReadScript) : Marks σ :=
  let marks := (runner.marks session (split script.2).statements).followed runner.verdict
  { marks with text := runner.heading script.1 ++ marks.text }

/-- The entries of several scripts, up to the first one in which a statement fails. -/
def entries : σ → List ReadScript → Marks σ
  | session, [] => ⟨session, true, []⟩
  | session, script :: rest =>
    let first := runner.entry session script
    if first.succeeded then
      let more := entries first.session rest
      { more with text := first.text ++ more.text }
    else first

/-! ## Scripts -/

/-- The failure of a statement is the one that the connector reports. -/
lemma applyStatement_fst (statement : Statement) (s : RunState σ) :
    (runner.applyStatement statement s).1 =
      (runner.connector.execute statement.sql s.session).2.error.map fun e =>
        ⟨statement.sql, e.failureMessage⟩ := by
  rw [applyStatement_eq]
  cases (runner.connector.execute statement.sql s.session).2.error with
  | some error => rfl
  | none =>
    dsimp only
    split <;> rfl

/-- The operator is told the mark of a statement that succeeds, and nothing of one that fails. -/
lemma applyStatement_tells (statement : Statement) (s : RunState σ) :
    (runner.applyStatement statement s).2.session =
        (runner.connector.execute statement.sql s.session).1 ∧
      Tells s
        (if (runner.connector.execute statement.sql s.session).2.error = none then
          runner.mark statement (runner.connector.execute statement.sql s.session).1
        else [])
        (runner.applyStatement statement s).2 := by
  rw [applyStatement_eq]
  cases herror : (runner.connector.execute statement.sql s.session).2.error with
  | some error => exact ⟨rfl, Tells.of_output_eq rfl⟩
  | none =>
    rw [if_pos rfl, mark]
    dsimp only
    split
    · have hsession : ((runner.answered statement s).write .progressLost
          ((runner.connector.progressLine statement (runner.answered statement s).session).getD
            progressMarker)).session = (runner.answered statement s).session := by
        unfold RunState.write
        dsimp only
        split <;> rfl
      exact ⟨hsession, (Tells.write _ _ _).preceded rfl⟩
    · exact ⟨rfl, Tells.of_output_eq rfl⟩

/-- Reading lines shows the marks of the statements in them, and the verdict if one of them
fails. -/
lemma applyLines_shows (script : ScriptFile) (splitter : Splitter) (count : ℕ)
    (lines : List Text) (s : RunState σ) :
    Shows s
      ((runner.marks s.session (splitter.statements lines)).followed fun succeeded =>
        if succeeded then [] else runner.verdict false)
      (runner.applyLines script splitter count lines s) := by
  fun_induction applyLines runner script splitter count lines s with
  | case1 splitter count s => exact ⟨rfl, rfl, Tells.of_output_eq rfl⟩
  | case2 splitter count line rest s step noticed hstatement ih =>
    rw [splitter.statements_cons_of_none hstatement]
    exact ⟨ih.session, ih.isOk, ih.tells.preceded rfl⟩
  | case3 splitter count line rest s step noticed statement hstatement applied happly ih =>
    have hnoticed : noticed.session = s.session := rfl
    have hfailure := runner.applyStatement_fst statement noticed
    obtain ⟨hsession, htells⟩ := runner.applyStatement_tells statement noticed
    rw [happly, hnoticed] at hfailure hsession htells
    have hnone : (runner.connector.execute statement.sql s.session).2.error = none :=
      Option.map_eq_none_iff.mp hfailure.symm
    rw [if_pos hnone] at htells
    rw [splitter.statements_cons_of_some hstatement, runner.marks_cons_of_none _ hnone]
    rw [hsession] at ih
    refine ⟨ih.session, ih.isOk, ?_⟩
    have hboth := (htells.preceded rfl).trans ih.tells
    rwa [Marks.followed, ← List.append_assoc] at hboth
  | case4 splitter count line rest s step noticed statement hstatement failure applied happly =>
    have hnoticed : noticed.session = s.session := rfl
    have hfailure := runner.applyStatement_fst statement noticed
    obtain ⟨hsession, htells⟩ := runner.applyStatement_tells statement noticed
    rw [happly, hnoticed] at hfailure hsession htells
    obtain ⟨error, herror, -⟩ := Option.map_eq_some_iff.mp hfailure.symm
    rw [if_neg (by rw [herror]; simp)] at htells
    rw [splitter.statements_cons_of_some hstatement, runner.marks_cons_of_some _ herror]
    refine ⟨?_, rfl, (htells.preceded rfl).trans (Tells.say _ _)⟩
    rw [← hsession]
    exact congrArg Situation.session (applied.situation_say _)

/-- The state in which the lines of a script are read is told by its heading. -/
lemma announced_tells (script : ScriptFile) (s : RunState σ) :
    (runner.announced script s).session = s.session ∧
      Tells s (runner.heading script) (runner.announced script s) := by
  have hsession : (runner.announced script s).session = s.session := by
    unfold announced RunState.emit RunState.write
    dsimp only
    split <;> rfl
  exact ⟨hsession, (Tells.write _ _ _).preceded rfl⟩

/-- A script that can be read shows its entry. -/
lemma applyScript_shows (script : ScriptFile) (summary : Summary) {s : RunState σ}
    {content : Text} (hcontent : s.tree.readText script.path = .ok content) :
    Shows s (runner.entry s.session (script, content)) (runner.applyScript script summary s) := by
  obtain ⟨hsession, hheading⟩ := runner.announced_tells script s
  have hshows := runner.applyLines_shows script {} 0 (lines (dropByteOrderMark content))
    (runner.announced script s)
  rw [hsession] at hshows
  rw [runner.applyScript_eq script summary hcontent, entry, split_eq]
  generalize runner.marks s.session (Splitter.statements {} _) = marks at hshows ⊢
  obtain ⟨behind, succeeded, text⟩ := marks
  rcases happly : runner.applyLines script {} 0 (lines (dropByteOrderMark content))
    (runner.announced script s) with ⟨error | ⟨splitter, count⟩, applied⟩
  · rw [happly] at hshows
    obtain rfl : false = succeeded := hshows.isOk
    exact ⟨hshows.session, rfl, hheading.trans hshows.tells⟩
  · rw [happly] at hshows
    obtain rfl : true = succeeded := hshows.isOk
    refine ⟨(congrArg Situation.session (RunState.situation_say _ _)).trans hshows.session, rfl, ?_⟩
    have hended := (hheading.trans hshows.tells).trans ((Tells.say (RunState.recordAll applied
      (splitter.remainder.toList.map fun r => .unterminated script.path r.line))
        (' ' :: runner.paint .green "✓")).preceded rfl)
    rw [Marks.followed, if_pos rfl, List.append_nil, List.append_assoc] at hended
    exact hended

/-! ## Items -/

/-- From one state to another, the operator is told the entries of the scripts that are planned, and
the session is the one behind them. -/
def TellsEntries (s : RunState σ) (items : List Item) (t : RunState σ) : Prop :=
  t.session = (runner.entries s.session (legible s.tree items)).session ∧
    Tells s (runner.entries s.session (legible s.tree items)).text t

variable {runner} {script : ScriptFile} {summary summary' : Summary} {error : RunError}
  {s t u : RunState σ} {items : List Item}

/-- Nothing is told where there is nothing planned. -/
lemma tellsEntries_of_legible_eq_nil (h : legible s.tree items = [])
    (hsession : t.session = s.session) (houtput : t.output = s.output) :
    runner.TellsEntries s items t := by
  rw [TellsEntries, h]
  exact ⟨hsession, Tells.of_output_eq houtput⟩

/-- Where a script is not applied, its entry is the last one, if it has one at all. -/
lemma tellsEntries_of_error (h : runner.applyScript script summary s = (.error error, t))
    (items : List Item) : runner.TellsEntries s (.ok script :: items) t := by
  cases hread : s.tree.readText script.path with
  | error fileError =>
    rw [runner.applyScript_unreadable script summary hread] at h
    obtain rfl : s.record (.scriptStarted script.path) = t := (Prod.mk.inj h).2
    exact tellsEntries_of_legible_eq_nil (by rw [legible, hread]) rfl rfl
  | ok content =>
    have hshows := runner.applyScript_shows script summary hread
    rw [h] at hshows
    have hfailed : ¬ (runner.entry s.session (script, content)).succeeded = true := by
      rw [← hshows.isOk]
      exact Bool.false_ne_true
    rw [TellsEntries, legible, hread]
    dsimp only
    rw [entries, if_neg hfailed]
    exact ⟨hshows.session, hshows.tells⟩

/-- The entry of a script that is applied stands in front of those behind it. -/
lemma TellsEntries.cons (h : runner.applyScript script summary s = (.ok summary', t))
    (htree : t.tree = s.tree) (hrest : runner.TellsEntries t items u) :
    runner.TellsEntries s (.ok script :: items) u := by
  obtain ⟨content, hread, -, -⟩ := applyScript_eq_ok h
  have hshows := runner.applyScript_shows script summary hread
  rw [h] at hshows
  have hsucceeded : (runner.entry s.session (script, content)).succeeded = true := hshows.isOk.symm
  obtain ⟨hsession, htells⟩ := hrest
  rw [htree, show t.session = (runner.entry s.session (script, content)).session from
    hshows.session] at hsession htells
  rw [TellsEntries, legible, hread]
  dsimp only
  rw [entries, if_pos hsucceeded]
  exact ⟨hsession, hshows.tells.trans htells⟩

/-- Applying items tells the entries of the scripts among them. -/
lemma Applies.tells {result : Except RunError Summary}
    (h : runner.Applies summary items s result t) (hspares : runner.connector.Spares s.tree) :
    runner.TellsEntries s items t := by
  induction h with
  | notLocated summary error items s => exact tellsEntries_of_legible_eq_nil rfl rfl rfl
  | stopped items happly => exact tellsEntries_of_error happly items
  | last happly =>
    exact .cons happly (tree_of_applyScript happly hspares)
      (tellsEntries_of_legible_eq_nil rfl rfl rfl)
  | more happly _ ih =>
    have htree := tree_of_applyScript happly hspares
    exact .cons happly htree (ih (htree ▸ hspares))

/-! ## Whole runs -/

/-- What a run with a session tells before the first script. -/
def opening (runner : Runner σ) : Text :=
  runner.arrow ++ " Loading scripts from " ++ runner.paint .yellow runner.locator.root.display
    ++ ['\n'] ++ (runner.arrow ++ " Running scripts on "
      ++ runner.paint .yellow runner.connector.target ++ ['\n'])

/-- What a run with a session tells behind the last script. -/
def ending (runner : Runner σ) (session : σ) : Text :=
  match (runner.connector.close session).2 with
  | none => []
  | some error =>
    runner.paint .yellow "!" ++ " failed to close connection: " ++ error.message ++ ['\n']

/-- The operator is told the opening before the first item is applied. -/
lemma opened_tells (root : Path) (session : σ) (notes : List Log.Entry) :
    Tells s runner.opening (runner.opened root session notes s) := by
  have hloading : Tells s (runner.arrow ++ " Loading scripts from "
      ++ runner.paint .yellow runner.locator.root.display ++ ['\n']) _ := Tells.say _ _
  have hlocated : Tells s runner.opening (runner.located root s) :=
    hloading.trans ((Tells.say _ _).preceded rfl)
  exact hlocated.followed rfl

/-- The operator is told of a session that could not be closed. -/
lemma release_tells (runner : Runner σ) (s : RunState σ) :
    (runner.release s).session = (runner.connector.close s.session).1 ∧
      Tells s (runner.ending s.session) (runner.release s) := by
  unfold release ending
  rcases runner.connector.close s.session with ⟨session, error | _⟩
  · exact ⟨rfl, Tells.of_output_eq rfl⟩
  · exact ⟨congrArg Situation.session (RunState.situation_say _ _), (Tells.say _ _).preceded rfl⟩

/-- A run with a session tells the opening, the entries of the scripts that are planned, and what is
to be told of the end of the session. -/
lemma run_tells {first : ScriptFile} {session : σ} {notes : List Log.Entry}
    (hspares : runner.connector.Spares s.tree)
    (hitems : runner.locator.scripts s.tree = .ok (.ok first :: items))
    (hconnect : runner.connector.connect s.session = (session, .ok notes)) :
    let entries := runner.entries session (legible s.tree (.ok first :: items))
    (runner.run s).2.session = (runner.connector.close entries.session).1 ∧
      Tells s (runner.opening ++ entries.text ++ runner.ending entries.session)
        (runner.run s).2 := by
  obtain ⟨root, result, applied, happlies, hrun⟩ := runner.run_applies hspares hitems hconnect
  have hsituation := runner.situation_opened root session notes s
  have htree : (runner.opened root session notes s).tree = s.tree :=
    congrArg Situation.tree hsituation
  obtain ⟨hsession, htells⟩ := happlies.tells (htree ▸ hspares)
  rw [htree, show (runner.opened root session notes s).session = session from
    congrArg Situation.session hsituation] at hsession htells
  obtain ⟨hclosed, hended⟩ := runner.release_tells applied
  rw [hsession] at hclosed hended
  rw [hrun]
  have hall := ((opened_tells root session notes).trans htells).trans hended
  exact ⟨hclosed, hall.followed rfl⟩

end Runner

end ScriptRunner
