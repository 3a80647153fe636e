import Mathlib
import ScriptRunner.Proofs.Executions

/-!
# Two runs side by side

Two runs over the same tree go the same way, step by step, as long as their connectors answer alike
(`run_beside`). What may differ is what lies around the runs: what is told to the operator and what
becomes of it, the phase that they begin in, and what the sessions remember.

In which way this may differ is a matter of three relations: one of the states of the connectors
while no session is open, one of the states of open sessions, and one of the outputs. `Parallel`
says what these have to meet: connectors answer alike in related states, and what each runner tells
leads from related outputs to related ones.
-/

namespace ScriptRunner

open Text Script

variable {σ : Type}

/-! ## Events that make no difference -/

/-- Whether an event is about the phase, or about what the operator was told. -/
def Event.isAside : Event → Bool
  | .phaseChanged _ _ | .progressLost _ | .outputLost _ => true
  | _ => false

/-- The events other than asides. -/
def substance (events : List Event) : List Event := events.filter fun event => !event.isAside

/-- The substance of two lists of events, one behind the other. -/
lemma substance_append (events more : List Event) :
    substance (events ++ more) = substance events ++ substance more :=
  List.filter_append _ _

/-- Asides have no substance. -/
lemma substance_eq_nil {events : List Event} (h : ∀ event ∈ events, event.isAside = true) :
    substance events = [] :=
  List.filter_eq_nil_iff.2 fun event hevent => by simp [h event hevent]

namespace RunState

/-- A write changes the output, and adds at most an event that says what was lost. -/
lemma exists_write_eq (s : RunState σ) (lost : Text → Event) (text : Text)
    (hlost : ∀ error, (lost error).isAside = true) :
    ∃ events, (∀ event ∈ events, event.isAside = true) ∧
      s.write lost text =
        ({ s with output := (s.output.write (encode text)).1 } : RunState σ).recordAll events := by
  unfold write
  dsimp only
  split
  · exact ⟨[], by simp, by simp [recordAll]⟩
  · exact ⟨[_], by simpa using hlost _, rfl⟩

end RunState

namespace Runner

/-- The output when the progress of a statement was shown, if it is to be shown. -/
def shown (runner : Runner σ) (statement : Statement) (session : σ) (output : Output) : Output :=
  if runner.progress then
    (output.write (encode ((runner.connector.progressLine statement session).getD
      progressMarker))).1
  else output

/-- A statement that succeeds leaves a state that differs from the one in which it was answered by
what the operator was shown. -/
lemma exists_applyStatement_eq (runner : Runner σ) (statement : Statement) (s : RunState σ)
    (h : (runner.connector.execute statement.sql s.session).2.error = none) :
    ∃ events, (∀ event ∈ events, event.isAside = true) ∧
      runner.applyStatement statement s = (none,
        ({ runner.answered statement s with
          output := runner.shown statement (runner.answered statement s).session s.output } :
            RunState σ).recordAll events) := by
  rw [applyStatement_eq, h, shown]
  dsimp only
  split
  · obtain ⟨events, hevents, hwrite⟩ := (runner.answered statement s).exists_write_eq .progressLost
      ((runner.connector.progressLine statement (runner.answered statement s).session).getD
        progressMarker) fun _ => rfl
    rw [hwrite]
    exact ⟨events, hevents, rfl⟩
  · refine ⟨[], by simp, ?_⟩
    rw [RunState.recordAll, List.append_nil]
    rfl

/-- What is done behind a script that was applied: the next item is applied, or the run is at its
end. -/
def applyBehind (runner : Runner σ) (summary : Summary) (walk : Walk) :
    ℕ → RunState σ → Except RunError Summary × RunState σ
  | 0, s => (.ok summary, s.record (.finished summary.files summary.statements))
  | budget + 1, s =>
    match walk.next s.tree runner.locator.extension with
    | (none, _) => (.ok summary, s.record (.finished summary.files summary.statements))
    | (some item, walk) => runner.applyItems summary item walk budget s

/-- Items are applied by applying the first one, and then what is behind it. -/
lemma applyItems_eq (runner : Runner σ) (summary : Summary) (item : Item) (walk : Walk) (budget : ℕ)
    (s : RunState σ) :
    runner.applyItems summary item walk budget s =
      match item with
      | .error error => (.error (.locate error), s)
      | .ok script =>
        match runner.applyScript script summary s with
        | (.error error, s) => (.error error, s)
        | (.ok summary, s) => runner.applyBehind summary walk budget s := by
  rw [applyItems.eq_def]
  cases budget <;> rfl

end Runner

/-! ## Runners that go the same way -/

/-- Two runners that go the same way: they look for the same scripts, their connectors answer alike
in related states, and what they tell the operator leads from related outputs to related ones. -/
structure Parallel (runner runner' : Runner σ) (closed opened : σ → σ → Prop)
    (outputs : Output → Output → Prop) : Prop where
  locator : runner.locator = runner'.locator
  connect : ∀ x y, closed x y →
    (runner.connector.connect x).2 = (runner'.connector.connect y).2
  /-- Where no session is opened, the connectors are as before. -/
  refused : ∀ x y error, closed x y → (runner.connector.connect x).2 = .error error →
    closed (runner.connector.connect x).1 (runner'.connector.connect y).1
  accepted : ∀ x y notes, closed x y → (runner.connector.connect x).2 = .ok notes →
    opened (runner.connector.connect x).1 (runner'.connector.connect y).1
  execute : ∀ x y sql, opened x y →
    (runner.connector.execute sql x).2 = (runner'.connector.execute sql y).2 ∧
      opened (runner.connector.execute sql x).1 (runner'.connector.execute sql y).1
  close : ∀ x y, opened x y →
    (runner.connector.close x).2 = (runner'.connector.close y).2 ∧
      closed (runner.connector.close x).1 (runner'.connector.close y).1
  tell : ∀ output output' (text : Runner σ → Text), outputs output output' →
    outputs (output.write (encode (text runner))).1 (output'.write (encode (text runner'))).1
  showProgress : ∀ x y statement output output', opened x y → outputs output output' →
    outputs (runner.shown statement x output) (runner'.shown statement y output')

/-- Two runs side by side, which began with the given journals: they see the same tree, sessions and
outputs are related, and what happened in both has the same substance. -/
structure Beside (sessions : σ → σ → Prop) (outputs : Output → Output → Prop)
    (before before' : List Event) (s t : RunState σ) : Prop where
  tree : s.tree = t.tree
  session : sessions s.session t.session
  output : outputs s.output t.output
  journal : ∃ events events', s.journal = before ++ events ∧ t.journal = before' ++ events' ∧
    substance events = substance events'

variable {runner runner' : Runner σ} {closed opened sessions : σ → σ → Prop}
  {outputs : Output → Output → Prop} {before before' : List Event} {s t : RunState σ}

namespace Beside

/-- Two runs side by side at their beginning. -/
lemma start (htree : s.tree = t.tree) (hsession : sessions s.session t.session)
    (houtput : outputs s.output t.output) : Beside sessions outputs s.journal t.journal s t :=
  ⟨htree, hsession, houtput, [], [], by simp⟩

/-- More happens in both runs that has the same substance. -/
lemma recordBoth {events events' : List Event} (h : Beside sessions outputs before before' s t)
    (hevents : substance events = substance events') :
    Beside sessions outputs before before' (s.recordAll events) (t.recordAll events') where
  tree := h.tree
  session := h.session
  output := h.output
  journal := by
    obtain ⟨past, past', hs, ht, hpast⟩ := h.journal
    refine ⟨past ++ events, past' ++ events', ?_, ?_, ?_⟩
    · rw [RunState.recordAll, hs, List.append_assoc]
    · rw [RunState.recordAll, ht, List.append_assoc]
    · rw [substance_append, substance_append, hpast, hevents]

/-- The same happens in both runs. -/
lemma recordAll (h : Beside sessions outputs before before' s t) (events : List Event) :
    Beside sessions outputs before before' (s.recordAll events) (t.recordAll events) :=
  h.recordBoth rfl

/-- One and the same thing happens in both runs. -/
lemma record (h : Beside sessions outputs before before' s t) (event : Event) :
    Beside sessions outputs before before' (s.record event) (t.record event) :=
  h.recordAll [event]

/-- Something is asked of both connectors. -/
lemma withSession {sessions' : σ → σ → Prop} {x y : σ}
    (h : Beside sessions outputs before before' s t) (hsession : sessions' x y) :
    Beside sessions' outputs before before' { s with session := x } { t with session := y } :=
  ⟨h.tree, hsession, h.output, h.journal⟩

/-- Something is told to both operators, and it makes no other difference. -/
lemma withOutput {output output' : Output} {events events' : List Event}
    (h : Beside sessions outputs before before' s t) (houtput : outputs output output')
    (hevents : ∀ event ∈ events, event.isAside = true)
    (hevents' : ∀ event ∈ events', event.isAside = true) :
    Beside sessions outputs before before'
      (({ s with output := output } : RunState σ).recordAll events)
      (({ t with output := output' } : RunState σ).recordAll events') := by
  have houtputs : Beside sessions outputs before before'
      { s with output := output } { t with output := output' } :=
    ⟨h.tree, h.session, houtput, h.journal⟩
  refine houtputs.recordBoth ?_
  rw [substance_eq_nil hevents, substance_eq_nil hevents']

/-- Both runs enter a phase. -/
lemma enter (h : Beside sessions outputs before before' s t) (phase : Phase) :
    Beside sessions outputs before before' (s.enter phase) (t.enter phase) := by
  have hrecorded : Beside sessions outputs before before'
      (s.record (.phaseChanged s.phase phase)) (t.record (.phaseChanged t.phase phase)) :=
    h.recordBoth rfl
  exact ⟨hrecorded.tree, hrecorded.session, hrecorded.output, hrecorded.journal⟩

/-- Both operators are told what the runners have to tell them. -/
lemma emit (h : Beside sessions outputs before before' s t)
    (hparallel : Parallel runner runner' closed opened outputs) (text : Runner σ → Text) :
    Beside sessions outputs before before' (s.emit (text runner)) (t.emit (text runner')) := by
  obtain ⟨events, hevents, hs⟩ := s.exists_write_eq .outputLost (text runner) fun _ => rfl
  obtain ⟨events', hevents', ht⟩ := t.exists_write_eq .outputLost (text runner') fun _ => rfl
  rw [RunState.emit, RunState.emit, hs, ht]
  exact h.withOutput (hparallel.tell _ _ text h.output) hevents hevents'

/-- Both operators are told what the runners have to tell them, on a line of its own. -/
lemma say (h : Beside sessions outputs before before' s t)
    (hparallel : Parallel runner runner' closed opened outputs) (line : Runner σ → Text) :
    Beside sessions outputs before before' (s.say (line runner)) (t.say (line runner')) :=
  h.emit hparallel fun runner => line runner ++ ['\n']

end Beside

/-- The same comes of both runs, in states that are side by side. -/
def Agree {α : Type} (sessions : σ → σ → Prop) (outputs : Output → Output → Prop)
    (before before' : List Event) (p q : α × RunState σ) : Prop :=
  p.1 = q.1 ∧ Beside sessions outputs before before' p.2 q.2

/-- What comes of one run comes of the other. -/
lemma Agree.exists_eq {α : Type} {a : α} {q : α × RunState σ}
    (h : Agree sessions outputs before before' (a, s) q) :
    ∃ t, q = (a, t) ∧ Beside sessions outputs before before' s t :=
  ⟨q.2, Prod.ext h.1.symm rfl, h.2⟩

section Runs

variable (hparallel : Parallel runner runner' closed opened outputs)
include hparallel

/-! ## Applying scripts -/

/-- A statement is answered alike in both runs. -/
lemma Beside.answered (h : Beside opened outputs before before' s t) (statement : Statement) :
    Beside opened outputs before before' (runner.answered statement s)
      (runner'.answered statement t) := by
  obtain ⟨hreply, hsession⟩ := hparallel.execute _ _ statement.sql h.session
  have hasked := (h.record (.executing statement)).withSession hsession
  have hremoved : Beside opened outputs before before'
      { s.record (.executing statement) with
        session := (runner.connector.execute statement.sql s.session).1
        tree := Runner.removePaths s.tree
          (runner.connector.execute statement.sql s.session).2.removes }
      { t.record (.executing statement) with
        session := (runner'.connector.execute statement.sql t.session).1
        tree := Runner.removePaths t.tree
          (runner'.connector.execute statement.sql t.session).2.removes } :=
    ⟨by rw [hreply, h.tree], hasked.session, hasked.output, hasked.journal⟩
  refine hremoved.recordBoth ?_
  rw [hreply]

/-- A statement that is executed in both runs has the same failure, or none. -/
lemma applyStatement_agree (h : Beside opened outputs before before' s t) (statement : Statement) :
    Agree opened outputs before before' (runner.applyStatement statement s)
      (runner'.applyStatement statement t) := by
  have hanswered := h.answered hparallel statement
  have hreply := (hparallel.execute _ _ statement.sql h.session).1
  cases herror : (runner.connector.execute statement.sql s.session).2.error with
  | some error =>
    rw [Runner.applyStatement_eq, Runner.applyStatement_eq, ← hreply, herror]
    exact ⟨rfl, hanswered⟩
  | none =>
    obtain ⟨events, hevents, hs⟩ := runner.exists_applyStatement_eq statement s herror
    obtain ⟨events', hevents', ht⟩ :=
      runner'.exists_applyStatement_eq statement t (hreply ▸ herror)
    rw [hs, ht]
    -- One of the runs may show its progress and the other not, so both are led back to the answer.
    exact ⟨rfl, hanswered.withOutput
      (hparallel.showProgress _ _ statement _ _ hanswered.session h.output) hevents hevents'⟩

/-- The lines of a script come to the same in both runs. -/
lemma applyLines_agree (h : Beside opened outputs before before' s t) (script : ScriptFile)
    (splitter : Splitter) (count : ℕ) (lines : List Text) :
    Agree opened outputs before before' (runner.applyLines script splitter count lines s)
      (runner'.applyLines script splitter count lines t) := by
  induction lines generalizing splitter count s t with
  | nil => exact ⟨rfl, h⟩
  | cons line rest ih =>
    have hnoticed := h.recordAll ((splitter.push line).notice.toList.map .noticed)
    rw [Runner.applyLines, Runner.applyLines]
    cases hstatement : (splitter.push line).statement with
    | none => exact ih hnoticed _ _
    | some statement =>
      have hagree := applyStatement_agree hparallel hnoticed statement
      dsimp only
      rcases happly : runner.applyStatement statement
        (s.recordAll ((splitter.push line).notice.toList.map .noticed)) with ⟨failure, s'⟩
      rw [happly] at hagree
      obtain ⟨t', happly', hbeside⟩ := hagree.exists_eq
      rw [happly']
      cases failure with
      | none => exact ih hbeside _ _
      | some failure =>
        exact ⟨rfl, hbeside.say hparallel fun runner => ' ' :: runner.paint .red "✗"⟩

/-- A script comes to the same in both runs. -/
lemma applyScript_agree (h : Beside opened outputs before before' s t) (script : ScriptFile)
    (summary : Summary) :
    Agree opened outputs before before' (runner.applyScript script summary s)
      (runner'.applyScript script summary t) := by
  have hstarted := h.record (.scriptStarted script.path)
  cases hcontent : s.tree.readText script.path with
  | error error =>
    have hcontent' : t.tree.readText script.path = .error error := h.tree ▸ hcontent
    rw [runner.applyScript_unreadable script summary hcontent,
      runner'.applyScript_unreadable script summary hcontent']
    exact ⟨rfl, hstarted⟩
  | ok content =>
    have hcontent' : t.tree.readText script.path = .ok content := h.tree ▸ hcontent
    rw [runner.applyScript_eq script summary hcontent,
      runner'.applyScript_eq script summary hcontent']
    have hannounced : Beside opened outputs before before' (runner.announced script s)
        (runner'.announced script t) :=
      hstarted.emit hparallel fun runner =>
        "  " ++ runner.arrow ++ " " ++ Path.display script.name ++ " "
    have hagree := applyLines_agree hparallel hannounced script {} 0
      (lines (dropByteOrderMark content))
    rcases hread : runner.applyLines script {} 0 (lines (dropByteOrderMark content))
      (runner.announced script s) with ⟨error | ⟨splitter, count⟩, s'⟩
    · rw [hread] at hagree
      obtain ⟨t', hread', hbeside⟩ := hagree.exists_eq
      rw [hread']
      exact ⟨rfl, hbeside⟩
    · rw [hread] at hagree
      obtain ⟨t', hread', hbeside⟩ := hagree.exists_eq
      rw [hread']
      exact ⟨rfl, (hbeside.recordAll _).say hparallel fun runner =>
        ' ' :: runner.paint .green "✓"⟩

/-- An item comes to the same in both runs if what is behind it does. -/
lemma applyItems_agree_of_behind (h : Beside opened outputs before before' s t) (summary : Summary)
    (item : Item) (walk : Walk) (budget : ℕ)
    (hbehind : ∀ (summary : Summary) (s t : RunState σ), Beside opened outputs before before' s t →
      Agree opened outputs before before' (runner.applyBehind summary walk budget s)
        (runner'.applyBehind summary walk budget t)) :
    Agree opened outputs before before' (runner.applyItems summary item walk budget s)
      (runner'.applyItems summary item walk budget t) := by
  rw [runner.applyItems_eq, runner'.applyItems_eq]
  cases item with
  | error error => exact ⟨rfl, h⟩
  | ok script =>
    have hagree := applyScript_agree hparallel h script summary
    dsimp only
    rcases happly : runner.applyScript script summary s with ⟨error | summary', s'⟩
    · rw [happly] at hagree
      obtain ⟨t', happly', hbeside⟩ := hagree.exists_eq
      rw [happly']
      exact ⟨rfl, hbeside⟩
    · rw [happly] at hagree
      obtain ⟨t', happly', hbeside⟩ := hagree.exists_eq
      rw [happly']
      exact hbehind summary' s' t' hbeside

/-- The items of a walk come to the same in both runs. -/
lemma applyItems_agree (h : Beside opened outputs before before' s t) (summary : Summary)
    (item : Item) (walk : Walk) (budget : ℕ) :
    Agree opened outputs before before' (runner.applyItems summary item walk budget s)
      (runner'.applyItems summary item walk budget t) := by
  induction budget generalizing summary item walk s t with
  | zero =>
    exact applyItems_agree_of_behind hparallel h summary item walk 0 fun summary s t h =>
      ⟨rfl, h.record _⟩
  | succ budget ih =>
    refine applyItems_agree_of_behind hparallel h summary item walk _ fun summary s t h => ?_
    rw [Runner.applyBehind, Runner.applyBehind, ← h.tree, ← hparallel.locator]
    rcases walk.next s.tree runner.locator.extension with ⟨_ | item, behind⟩
    · exact ⟨rfl, h.record _⟩
    · exact ih h summary item behind

/-! ## The whole run -/

/-- Sessions are closed in both runs, with the same answer. -/
lemma release_beside (h : Beside opened outputs before before' s t) :
    Beside closed outputs before before' (runner.release s) (runner'.release t) := by
  obtain ⟨hanswer, hsession⟩ := hparallel.close _ _ h.session
  unfold Runner.release
  rcases hs : runner.connector.close s.session with ⟨session, answer⟩
  rcases ht : runner'.connector.close t.session with ⟨session', answer'⟩
  rw [hs, ht] at hanswer hsession
  obtain rfl : answer = answer' := hanswer
  have hclosed := (h.withSession hsession).record (.closed answer)
  cases answer with
  | none => exact hclosed
  | some error =>
    exact hclosed.say hparallel fun runner =>
      runner.paint .yellow "!" ++ " failed to close connection: " ++ error.message

/-- What is done in a session comes to the same in both runs. -/
lemma applyInSession_agree (h : Beside closed outputs before before' s t) (first : Item)
    (walk : Walk) (budget : ℕ) :
    Agree closed outputs before before' (runner.applyInSession first walk budget s)
      (runner'.applyInSession first walk budget t) := by
  have hanswer := hparallel.connect _ _ h.session
  have hrefused := fun error => hparallel.refused _ _ error h.session
  have haccepted := fun notes => hparallel.accepted _ _ notes h.session
  unfold Runner.applyInSession
  rcases hs : runner.connector.connect s.session with ⟨session, answer⟩
  rcases ht : runner'.connector.connect t.session with ⟨session', answer'⟩
  rw [hs, ht] at hanswer hrefused haccepted
  obtain rfl : answer = answer' := hanswer
  cases answer with
  | error error => exact ⟨rfl, (h.withSession (hrefused error rfl)).record _⟩
  | ok notes =>
    have hrunning := ((h.withSession (haccepted notes rfl)).recordAll
      (.connected none :: notes.map .noted)).enter .running
    obtain ⟨hresult, happlied⟩ := applyItems_agree hparallel hrunning {} first walk budget
    exact ⟨hresult, release_beside hparallel happlied⟩

/-- Locating and applying scripts comes to the same in both runs. -/
lemma locateAndApply_agree (h : Beside closed outputs before before' s t) :
    Agree closed outputs before before' (runner.locateAndApply s) (runner'.locateAndApply t) := by
  have hsaid := h.say hparallel fun runner => runner.arrow ++ " Loading scripts from "
    ++ runner.paint .yellow runner.locator.root.display
  unfold Runner.locateAndApply
  dsimp only
  generalize s.say _ = said at hsaid ⊢
  generalize t.say _ = said' at hsaid ⊢
  rw [← hsaid.tree, ← hparallel.locator]
  cases runner.locator.resolveRoot said.tree with
  | error error => exact ⟨rfl, hsaid⟩
  | ok root =>
    have hwalking := hsaid.record (.walkStarted root runner.locator.extension)
    dsimp only
    rw [← hwalking.tree]
    -- The walk sees the same tree in both runs, so its first item is the same.
    rcases (Walk.unopened root).next (said.record _).tree runner.locator.extension
      with ⟨_ | error | first, rest⟩
    · exact ⟨rfl, hwalking⟩
    · exact ⟨rfl, hwalking⟩
    · have hlocated := (hwalking.enter .located).say hparallel fun runner =>
        runner.arrow ++ " Running scripts on " ++ runner.paint .yellow runner.connector.target
      dsimp only
      rw [← hlocated.tree]
      exact applyInSession_agree hparallel hlocated _ _ _

/-- **Two runs side by side** have the same result, and end in the same phase. -/
theorem run_beside (h : Beside closed outputs before before' s t) :
    (runner.run s).1 = (runner'.run t).1 ∧ (runner.run s).2.phase = (runner'.run t).2.phase ∧
      Beside closed outputs before before' (runner.run s).2 (runner'.run t).2 := by
  obtain ⟨hresult, happlied⟩ := locateAndApply_agree hparallel h
  -- The last phase depends on the result alone, whatever phase the run began in.
  have hphase : (runner.run s).2.phase = (runner'.run t).2.phase :=
    congrArg (fun result : Except RunError Summary =>
      if result.isOk then Phase.done else Phase.aborted) hresult
  refine ⟨hresult, hphase, ?_⟩
  unfold Runner.run
  dsimp only
  rw [hresult]
  exact happlied.enter _

end Runs

end ScriptRunner
