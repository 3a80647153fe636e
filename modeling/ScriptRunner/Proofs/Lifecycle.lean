import Mathlib
import ScriptRunner.Proofs.Stages

/-!
# The lifecycle of a run

The acts of one run come in one of three orders (`Lifecycle`): nothing but the abortion, a refused
session and the abortion, or a session in which statements are executed and which is closed before
the run ends. The first of them is that of a root without a script to begin with.

Runs may follow one another, with anything happening in between to what is outside of the program
(`World`). Each of them leaves no session open, so all their events together are in order: a
statement is executed only in an open session, and every session that was opened is closed
(`sessionStep`).
-/

namespace ScriptRunner

open Text Script

variable {σ : Type}

/-! ## The acts of one run -/

/-- How the acts of one run can follow one another, between the phase that it begins in and the
phase that it ends in. -/
inductive Lifecycle (before : Phase) : List Event → Phase → Prop
  /-- No script was found, and no session was asked for. -/
  | fruitless : Lifecycle before [.phaseChanged before .aborted] .aborted
  /-- A session was asked for and not opened. -/
  | refused (error : DatabaseError) :
      Lifecycle before
        [.phaseChanged before .located, .connected (some error), .phaseChanged .located .aborted]
        .aborted
  /-- A session was opened, and closed before the run ended, whatever came of it. -/
  | served (executions : List Execution) (closing : Option DatabaseError) (last : Phase)
      (hlast : last = .done ∨ last = .aborted) :
      Lifecycle before
        ([.phaseChanged before .located, .connected none, .phaseChanged .located .running]
          ++ executions.map Execution.event
          ++ [.closed closing, .phaseChanged .running last])
        last

namespace Runner

/-- The acts of a run are those of a lifecycle, the first of the three if there is no script to
begin with and only then. -/
lemma run_does (runner : Runner σ) (s : RunState σ) :
    ∃ done, Does runner.connector s done (runner.run s).2 ∧
      Lifecycle s.phase done (lastPhase (runner.run s).1) ∧
      (done = [.phaseChanged s.phase .aborted] ↔ runner.locator.Fruitless s.tree) := by
  have hfailed : (runner.locateAndApply s).1.isOk = false →
      lastPhase (runner.run s).1 = .aborted := fun h => if_neg (by rw [run]; simp [h])
  rcases runner.locator.fruitless_or_first s.tree with
    hfruitless | ⟨root, first, rest, hroot, hnext⟩
  · obtain ⟨hdoes, hresult⟩ := runner.locateAndApply_of_fruitless hfruitless
    have hrun := runner.run_does_of_locateAndApply hdoes
    rw [hfailed hresult] at hrun ⊢
    exact ⟨_, hrun, .fruitless, iff_of_true rfl hfruitless⟩
  · have hfirst := Locator.not_fruitless hroot hnext
    obtain ⟨located, hlocated, hsituation, happly⟩ :=
      runner.locateAndApply_of_first hroot hnext
    have hphase : located.phase = .located := hlocated.phase_eq
    rcases hconnect : runner.connector.connect located.session with ⟨session, error | notes⟩
    · obtain ⟨hdoes, hresult⟩ := runner.applyInSession_of_error (.ok first) rest
        ((Walk.unopened root).budget s.tree runner.locator.extension) hconnect
      rw [← happly] at hdoes hresult
      have hrun := runner.run_does_of_locateAndApply (hlocated.trans hdoes)
      rw [hfailed (by rw [hresult]; rfl)] at hrun ⊢
      exact ⟨_, hrun, .refused error, iff_of_false (by simp [phaseAfter]) hfirst⟩
    · obtain ⟨running, closing, hrunning, -, hclosed, -⟩ := runner.applyInSession_of_ok (.ok first)
        rest ((Walk.unopened root).budget s.tree runner.locator.extension) hconnect
      obtain ⟨executions, hexecutes⟩ := runner.exists_applyItems_executes {} (.ok first) rest
        ((Walk.unopened root).budget s.tree runner.locator.extension) running
      have hdoes := (hrunning.trans hexecutes).trans hclosed
      rw [← happly, hphase] at hdoes
      have hrun := runner.run_does_of_locateAndApply (hlocated.trans hdoes)
      refine ⟨_, hrun, ?_, iff_of_false (by simp) hfirst⟩
      have hlast : phaseAfter s.phase ([.phaseChanged s.phase .located] ++
          ([.connected none, .phaseChanged .located .running] ++ executions.map Execution.event
            ++ [.closed closing])) = .running := by
        rw [phaseAfter_append, phaseAfter_append, phaseAfter_append, phaseAfter_executions]
        rfl
      rw [hlast]
      simpa using Lifecycle.served executions closing _ (lastPhase_eq _)

end Runner

/-! ## Sessions -/

/-- Whether an event is the closing of a session. -/
def Event.isClosed : Event → Bool
  | .closed _ => true
  | _ => false

/-- Whether a session is open after an event. There is no answer if the event is out of order: a
session asked for while one is open, or a statement executed or a session closed while none is. -/
def sessionStep : Bool → Event → Option Bool
  | false, .connected none => some true
  | true, .connected _ => none
  | false, .executed _ _ => none
  | false, .closed _ => none
  | true, .closed _ => some false
  | isOpen, _ => some isOpen

/-- Events that are no acts leave sessions alone. -/
lemma foldlM_sessionStep_acts (isOpen : Bool) (events : List Event) :
    (acts events).foldlM sessionStep isOpen = events.foldlM sessionStep isOpen := by
  induction events generalizing isOpen with
  | nil => rfl
  | cons e events ih =>
    rw [List.foldlM_cons, acts]
    cases he : e.isAct with
    | true =>
      rw [List.filter_cons_of_pos he, List.foldlM_cons]
      exact congrArg _ (funext fun isOpen => ih isOpen)
    | false =>
      have hstep : sessionStep isOpen e = some isOpen := by
        cases e <;> cases isOpen <;> first | rfl | cases he
      rw [List.filter_cons_of_neg (by simp [he]), hstep]
      exact ih isOpen

/-- A lifecycle begins and ends without an open session, and all its events are in order. -/
lemma Lifecycle.foldlM_sessionStep {before last : Phase} {done : List Event}
    (h : Lifecycle before done last) : done.foldlM sessionStep false = some false := by
  cases h with
  | fruitless => rfl
  | refused error => rfl
  | served executions closing last hlast =>
    have hexecutions : (executions.map Execution.event).foldlM sessionStep true = some true := by
      induction executions with
      | nil => rfl
      | cons execution executions ih => exact ih
    rw [List.foldlM_append, List.foldlM_append]
    have hopened : [.phaseChanged before .located, .connected none,
        .phaseChanged .located .running].foldlM sessionStep false = some true := rfl
    rw [hopened]
    change ((executions.map Execution.event).foldlM sessionStep true).bind _ = _
    rw [hexecutions]
    rfl

/-- An event that is in order opens a session or closes one, or leaves sessions alone. -/
lemma count_of_sessionStep {isOpen next : Bool} {e : Event} (h : sessionStep isOpen e = some next) :
    (if e = .connected none then 1 else 0) + isOpen.toNat =
      (if e.isClosed then 1 else 0) + next.toNat := by
  cases e with
  | connected error =>
    cases error <;> cases isOpen <;> cases next <;> first | rfl | cases h
  | executed statement error => cases isOpen <;> cases next <;> first | rfl | cases h
  | closed error => cases isOpen <;> cases next <;> first | rfl | cases h
  | _ =>
    obtain rfl : isOpen = next := by cases isOpen <;> exact Option.some.inj h
    simp [Event.isClosed]

/-- One session more was opened than closed if one is open, and as many otherwise. -/
lemma count_of_foldlM_sessionStep {isOpen isOpen' : Bool} {events : List Event}
    (h : events.foldlM sessionStep isOpen = some isOpen') :
    events.count (.connected none) + isOpen.toNat =
      events.countP Event.isClosed + isOpen'.toNat := by
  induction events generalizing isOpen with
  | nil =>
    obtain rfl : isOpen = isOpen' := Option.some.inj h
    rfl
  | cons e events ih =>
    rw [List.foldlM_cons] at h
    obtain ⟨next, hnext, hrest⟩ := Option.bind_eq_some_iff.1 h
    have hstep := count_of_sessionStep hnext
    have hcount := ih hrest
    simp only [List.count_cons, List.countP_cons, beq_iff_eq]
    omega

/-- Where a statement is executed, one session more was opened than closed. -/
lemma count_before_execution {before after : List Event} {statement : Statement}
    {error : Option DatabaseError} {isOpen : Bool}
    (h : (before ++ .executed statement error :: after).foldlM sessionStep false = some isOpen) :
    before.count (.connected none) = before.countP Event.isClosed + 1 := by
  rw [List.foldlM_append] at h
  obtain ⟨next, hbefore, hrest⟩ := Option.bind_eq_some_iff.1 h
  rw [List.foldlM_cons] at hrest
  cases next with
  | false => cases hrest
  | true => exact count_of_foldlM_sessionStep hbefore

/-! ## Many runs -/

/-- What a run finds outside of the program. -/
structure World (σ : Type) where
  tree : FileTree
  session : σ
  output : Output

/-- What a state finds outside of the program. -/
def RunState.world (s : RunState σ) : World σ := ⟨s.tree, s.session, s.output⟩

/-- The state with another world around it. -/
def RunState.within (s : RunState σ) (world : World σ) : RunState σ :=
  { s with tree := world.tree, session := world.session, output := world.output }

namespace Runner

/-- The state after several runs. Before each of them, the world changes in the given way. -/
def runs (runner : Runner σ) : List (World σ → World σ) → RunState σ → RunState σ
  | [], s => s
  | change :: changes, s => runner.runs changes (runner.run (s.within (change s.world))).2

/-- Any number of runs add events that are in order and leave no session open. -/
lemma runs_orderly (runner : Runner σ) (changes : List (World σ → World σ)) (s : RunState σ) :
    ∃ events, (runner.runs changes s).journal = s.journal ++ events ∧
      events.foldlM sessionStep false = some false := by
  induction changes generalizing s with
  | nil => exact ⟨[], (List.append_nil _).symm, rfl⟩
  | cons change changes ih =>
    obtain ⟨_, ⟨events, hleads, rfl⟩, hlifecycle, -⟩ := runner.run_does (s.within (change s.world))
    obtain ⟨more, hmore, horderly⟩ := ih (runner.run (s.within (change s.world))).2
    have hevents : events.foldlM sessionStep false = some false := by
      rw [← foldlM_sessionStep_acts]
      exact hlifecycle.foldlM_sessionStep
    refine ⟨events ++ more, ?_, ?_⟩
    · rw [runs, hmore, hleads.journal, List.append_assoc]
      rfl
    · rw [List.foldlM_append, hevents]
      exact horderly

/-! ## Closing decides nothing -/

/-- The runner whose sessions close in another way. -/
def withClose (runner : Runner σ) (close : σ → σ × Option DatabaseError) : Runner σ :=
  { runner with connector := { runner.connector with close := close } }

variable (runner : Runner σ) (close : σ → σ × Option DatabaseError)

/-- Lines are applied without closing anything. -/
lemma applyLines_withClose (script : ScriptFile) (splitter : Splitter) (count : ℕ)
    (lines : List Text) (s : RunState σ) :
    (runner.withClose close).applyLines script splitter count lines s =
      runner.applyLines script splitter count lines s := by
  induction lines generalizing splitter count s with
  | nil => rfl
  | cons line rest ih =>
    have hstatement : (runner.withClose close).applyStatement = runner.applyStatement := rfl
    simp only [applyLines, hstatement, ih]
    rfl

/-- Scripts are applied without closing anything. -/
lemma applyScript_withClose (script : ScriptFile) (summary : Summary) (s : RunState σ) :
    (runner.withClose close).applyScript script summary s =
      runner.applyScript script summary s := by
  simp only [applyScript, applyLines_withClose]
  rfl

/-- Items are applied without closing anything. -/
lemma applyItems_withClose (summary : Summary) (item : Item) (walk : Walk) (budget : ℕ)
    (s : RunState σ) :
    (runner.withClose close).applyItems summary item walk budget s =
      runner.applyItems summary item walk budget s := by
  induction budget generalizing summary item walk s with
  | zero => simp only [applyItems.eq_def, applyScript_withClose]
  | succ budget ih =>
    rw [applyItems.eq_def, applyItems.eq_def runner]
    simp only [applyScript_withClose, ih]
    rfl

/-- The result of a session does not depend on how it is closed. -/
lemma applyInSession_withClose (first : Item) (walk : Walk) (budget : ℕ) (s : RunState σ) :
    ((runner.withClose close).applyInSession first walk budget s).1 =
      (runner.applyInSession first walk budget s).1 := by
  unfold applyInSession
  rw [show (runner.withClose close).connector.connect = runner.connector.connect from rfl]
  rcases runner.connector.connect s.session with ⟨session, error | notes⟩
  · rfl
  · dsimp only
    rw [applyItems_withClose]

/-- The result of a run does not depend on how its session is closed. -/
lemma run_withClose (s : RunState σ) :
    ((runner.withClose close).run s).1 = (runner.run s).1 := by
  have hlocate : ((runner.withClose close).locateAndApply s).1 = (runner.locateAndApply s).1 := by
    unfold locateAndApply
    dsimp only
    rw [show (runner.withClose close).locator = runner.locator from rfl,
      show (runner.withClose close).connector.target = runner.connector.target from rfl,
      show (runner.withClose close).arrow = runner.arrow from rfl,
      show (runner.withClose close).paint = runner.paint from rfl]
    split
    · rfl
    · split
      · rfl
      · rfl
      · exact runner.applyInSession_withClose close _ _ _ _
  exact hlocate

/-- **The lifecycle of runs.** The acts of any run are those of a lifecycle that begins in the phase
the run finds, and they are a true account of what was asked of the connector. They are the abortion
alone exactly if there is no script to begin with, so no session is asked for before a script is
found. The run ends in the phase `done` exactly if it succeeds.

Over any number of runs, between which the world may change in any way, as many sessions are closed
as were opened, and every statement is executed while one is open. How a session is closed changes
neither the result of its run nor the phase that the run ends in. -/
theorem run_lifecycle (runner : Runner σ) :
    (∀ s : RunState σ, ∃ events,
      Leads runner.connector s events (runner.run s).2 ∧
      Lifecycle s.phase (acts events) (runner.run s).2.phase ∧
      (acts events = [.phaseChanged s.phase .aborted] ↔ runner.locator.Fruitless s.tree) ∧
      ((runner.run s).2.phase = .done ↔ (runner.run s).1.isOk = true)) ∧
    (∀ (changes : List (World σ → World σ)) (s : RunState σ), ∃ events,
      (runner.runs changes s).journal = s.journal ++ events ∧
      events.countP Event.isClosed = events.count (.connected none) ∧
      ∀ before statement error after, events = before ++ .executed statement error :: after →
        before.count (.connected none) = before.countP Event.isClosed + 1) ∧
    ∀ (close : σ → σ × Option DatabaseError) (s : RunState σ),
      ((runner.withClose close).run s).1 = (runner.run s).1 ∧
      ((runner.withClose close).run s).2.phase = (runner.run s).2.phase := by
  refine ⟨fun s => ?_, fun changes s => ?_, fun close s => ?_⟩
  · obtain ⟨_, ⟨events, hleads, rfl⟩, hlifecycle, hfruitless⟩ := runner.run_does s
    exact ⟨events, hleads, hlifecycle, hfruitless, lastPhase_eq_done_iff _⟩
  · obtain ⟨events, hjournal, horderly⟩ := runner.runs_orderly changes s
    refine ⟨events, hjournal, (count_of_foldlM_sessionStep horderly).symm, ?_⟩
    rintro before statement error after rfl
    exact count_before_execution horderly
  · have hresult := runner.run_withClose close s
    exact ⟨hresult, congrArg lastPhase hresult⟩

end Runner

end ScriptRunner
