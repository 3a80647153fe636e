import Mathlib
import ScriptRunner.Proofs.Executions
import ScriptRunner.Proofs.WalkItems

/-!
# The stages of a run

A run locates the scripts, opens a session, applies the scripts, closes the session and enters its
last phase. Each stage has its own acts. There is one place where a session is closed, and one where
the last phase is entered, so the acts of a whole run are put together from those of its stages.
-/

namespace ScriptRunner

open Text Script

variable {σ : Type}

/-! ## Roots without a first script -/

namespace Locator

variable {locator : Locator} {tree : FileTree} {root : Path} {first : ScriptFile} {rest : Walk}

/-- There is no script to begin with: the root is rejected, or the walk yields no item, or an error
as its first one. -/
def Fruitless (locator : Locator) (tree : FileTree) : Prop :=
  (∃ error, locator.scripts tree = .error error) ∨ locator.scripts tree = .ok [] ∨
    ∃ error rest, locator.scripts tree = .ok (.error error :: rest)

/-- There is a script to begin with if the first step of the walk yields one. -/
lemma not_fruitless (hroot : locator.resolveRoot tree = .ok root)
    (hnext : (Walk.unopened root).next tree locator.extension = (some (.ok first), rest)) :
    ¬ locator.Fruitless tree := by
  have hscripts := scripts_of_ok hroot
  rw [Walk.items_eq, hnext] at hscripts
  rintro (⟨error, h⟩ | h | ⟨error, items, h⟩) <;> rw [hscripts] at h <;> cases h

/-- There is no script to begin with, or the first step of the walk yields one. -/
lemma fruitless_or_first (locator : Locator) (tree : FileTree) :
    locator.Fruitless tree ∨ ∃ root first rest, locator.resolveRoot tree = .ok root ∧
      (Walk.unopened root).next tree locator.extension = (some (.ok first), rest) := by
  cases hroot : locator.resolveRoot tree with
  | error error => exact .inl (.inl ⟨error, scripts_of_error hroot⟩)
  | ok root =>
    have hscripts := scripts_of_ok hroot
    rw [Walk.items_eq] at hscripts
    rcases hnext : (Walk.unopened root).next tree locator.extension
      with ⟨_ | (error | first), rest⟩
    · rw [hnext] at hscripts
      exact .inl (.inr (.inl hscripts))
    · rw [hnext] at hscripts
      exact .inl (.inr (.inr ⟨error, _, hscripts⟩))
    · exact .inr ⟨root, first, rest, rfl, hnext⟩

/-- If a script is the first of all items, the first step of the walk yields it, and the others are
the items of the walk behind it. -/
lemma exists_first_of_scripts {items : List Item}
    (h : locator.scripts tree = .ok (.ok first :: items)) :
    ∃ root rest, locator.resolveRoot tree = .ok root ∧
      (Walk.unopened root).next tree locator.extension = (some (.ok first), rest) ∧
      rest.items tree locator.extension = items := by
  rcases locator.fruitless_or_first tree with hfruitless | ⟨root, found, rest, hroot, hnext⟩
  · rcases hfruitless with ⟨error, hscripts⟩ | hscripts | ⟨error, behind, hscripts⟩ <;>
      rw [h] at hscripts <;> cases hscripts
  · obtain ⟨rfl, hitems⟩ : found = first ∧ rest.items tree locator.extension = items := by
      rw [scripts_of_ok hroot, Walk.items_eq, hnext] at h
      simpa using h
    exact ⟨root, rest, hroot, hnext, hitems⟩

end Locator

namespace Runner

/-! ## Locating scripts -/

/-- Without a script to begin with, nothing happens and the run fails. -/
lemma locateAndApply_of_fruitless (runner : Runner σ) {s : RunState σ}
    (h : runner.locator.Fruitless s.tree) :
    Does runner.connector s [] (runner.locateAndApply s).2 ∧
      (runner.locateAndApply s).1.isOk = false := by
  set said := s.say (runner.arrow ++ " Loading scripts from "
    ++ runner.paint .yellow runner.locator.root.display) with hsaid
  have hloading : Does runner.connector s [] said := Does.say _
  have htree : said.tree = s.tree := congrArg Situation.tree (s.situation_say _)
  unfold locateAndApply
  dsimp only
  rw [← hsaid, htree]
  cases hroot : runner.locator.resolveRoot s.tree with
  | error error => exact ⟨hloading, rfl⟩
  | ok root =>
    have hwalking := hloading.trans
      (Does.record (e := .walkStarted root runner.locator.extension) rfl)
    dsimp only
    rw [show (said.record (.walkStarted root runner.locator.extension)).tree = s.tree from htree]
    rcases hnext : (Walk.unopened root).next s.tree runner.locator.extension
      with ⟨_ | (error | first), rest⟩
    · exact ⟨hwalking, rfl⟩
    · exact ⟨hwalking, rfl⟩
    · exact absurd h (Locator.not_fruitless hroot hnext)

/-- The state in which a session is asked for: the first script was found, and the operator was told
where scripts come from and where they go to. -/
def located (runner : Runner σ) (root : Path) (s : RunState σ) : RunState σ :=
  RunState.say
    (((s.say (runner.arrow ++ " Loading scripts from "
      ++ runner.paint .yellow runner.locator.root.display)).record
        (.walkStarted root runner.locator.extension)).enter .located)
    (runner.arrow ++ " Running scripts on " ++ runner.paint .yellow runner.connector.target)

/-- Up to the demand for a session only the phase changes. -/
lemma situation_located (runner : Runner σ) (root : Path) (s : RunState σ) :
    (runner.located root s).situation = { s.situation with phase := .located } := by
  have hsaid : (s.say (runner.arrow ++ " Loading scripts from "
      ++ runner.paint .yellow runner.locator.root.display)).situation = s.situation :=
    s.situation_say _
  rw [located, RunState.situation_say, ← hsaid]
  rfl

/-- Up to the demand for a session nothing is asked of the connector. -/
lemma located_does (runner : Runner σ) (root : Path) (s : RunState σ) :
    Does runner.connector s [.phaseChanged s.phase .located] (runner.located root s) := by
  set said := s.say (runner.arrow ++ " Loading scripts from "
    ++ runner.paint .yellow runner.locator.root.display) with hsaid
  have hphase : said.phase = s.phase := congrArg Situation.phase (s.situation_say _)
  have hwalking : Does runner.connector s []
      (said.record (.walkStarted root runner.locator.extension)) :=
    (Does.say _).trans (Does.record rfl)
  rw [← hphase]
  exact hwalking.trans ((Does.enter _ .located).trans (Does.say _))

/-- With a script to begin with, the run is located, and a session is asked for. -/
lemma locateAndApply_eq_of_first (runner : Runner σ) {s : RunState σ} {root : Path}
    {first : ScriptFile} {rest : Walk} (hroot : runner.locator.resolveRoot s.tree = .ok root)
    (hnext : (Walk.unopened root).next s.tree runner.locator.extension =
      (some (.ok first), rest)) :
    runner.locateAndApply s = runner.applyInSession (.ok first) rest
      ((Walk.unopened root).budget s.tree runner.locator.extension) (runner.located root s) := by
  set said := s.say (runner.arrow ++ " Loading scripts from "
    ++ runner.paint .yellow runner.locator.root.display) with hsaid
  have htree : said.tree = s.tree := congrArg Situation.tree (s.situation_say _)
  unfold locateAndApply
  dsimp only
  rw [← hsaid, htree, hroot]
  dsimp only
  rw [show (said.record (.walkStarted root runner.locator.extension)).tree = s.tree from htree,
    hnext]
  dsimp only
  rw [← show (runner.located root s).tree = s.tree from
    congrArg Situation.tree (runner.situation_located root s)]
  rfl

/-- With a script to begin with, there is a state in which a session is asked for. -/
lemma locateAndApply_of_first (runner : Runner σ) {s : RunState σ} {root : Path}
    {first : ScriptFile} {rest : Walk} (hroot : runner.locator.resolveRoot s.tree = .ok root)
    (hnext : (Walk.unopened root).next s.tree runner.locator.extension =
      (some (.ok first), rest)) :
    ∃ located, Does runner.connector s [.phaseChanged s.phase .located] located ∧
      located.situation = { s.situation with phase := .located } ∧
      runner.locateAndApply s = runner.applyInSession (.ok first) rest
        ((Walk.unopened root).budget s.tree runner.locator.extension) located :=
  ⟨runner.located root s, runner.located_does root s, runner.situation_located root s,
    runner.locateAndApply_eq_of_first hroot hnext⟩

/-! ## The session -/

/-- A session that is refused is asked for once, and there is nothing to close. -/
lemma applyInSession_of_error (runner : Runner σ) (first : Item) (walk : Walk) (budget : ℕ)
    {s : RunState σ} {session : σ} {error : DatabaseError}
    (h : runner.connector.connect s.session = (session, .error error)) :
    Does runner.connector s [.connected (some error)]
        (runner.applyInSession first walk budget s).2 ∧
      (runner.applyInSession first walk budget s).1 = .error (.connect error) := by
  unfold applyInSession
  rw [h]
  refine ⟨Does.single rfl rfl ?_, rfl⟩
  simp only [Situation.after?, RunState.situation_session, h, if_true]
  rfl

/-- Closing the session is a single act, whether it succeeds or fails. -/
lemma release_does (runner : Runner σ) (s : RunState σ) :
    ∃ closing, Does runner.connector s [.closed closing] (runner.release s) := by
  rcases hclose : runner.connector.close s.session with ⟨session, closing⟩
  have hclosed : Does runner.connector s [.closed closing]
      (({ s with session := session } : RunState σ).record (.closed closing)) := by
    refine Does.single rfl rfl ?_
    simp only [Situation.after?, RunState.situation_session, hclose, if_true]
    rfl
  refine ⟨closing, ?_⟩
  unfold release
  rw [hclose]
  cases closing with
  | none => exact hclosed
  | some error => exact hclosed.trans (Does.say _)

/-- The state in which the first item is applied: a session was opened, with the given notes. -/
def inSession (session : σ) (notes : List Log.Entry) (s : RunState σ) : RunState σ :=
  RunState.enter
    (({ s with session := session } : RunState σ).recordAll (.connected none :: notes.map .noted))
    .running

/-- A session that is opened is asked for once. -/
lemma inSession_does (runner : Runner σ) {s : RunState σ} {session : σ} {notes : List Log.Entry}
    (h : runner.connector.connect s.session = (session, .ok notes)) :
    Does runner.connector s [.connected none, .phaseChanged s.phase .running]
      (inSession session notes s) := by
  let connected : RunState σ :=
    ({ s with session := session } : RunState σ).record (.connected none)
  have hconnected : Does runner.connector s [.connected none] connected := by
    refine Does.single rfl rfl ?_
    simp only [Situation.after?, RunState.situation_session, h, if_true]
    rfl
  have hnoted : Does runner.connector connected [] (connected.recordAll (notes.map .noted)) :=
    Does.recordAll (by simp [Event.isAct])
  have hrecorded : (connected.recordAll (notes.map .noted)).enter .running =
      inSession session notes s := by
    simp [inSession, connected, RunState.record, RunState.recordAll, RunState.enter]
  rw [← hrecorded]
  exact (hconnected.trans hnoted).trans (Does.enter _ _)

/-- A session that is opened is closed when the items are applied, and the result is theirs. -/
lemma applyInSession_eq_of_ok (runner : Runner σ) (first : Item) (walk : Walk) (budget : ℕ)
    {s : RunState σ} {session : σ} {notes : List Log.Entry}
    (h : runner.connector.connect s.session = (session, .ok notes)) :
    runner.applyInSession first walk budget s =
      ((runner.applyItems {} first walk budget (inSession session notes s)).1,
        runner.release (runner.applyItems {} first walk budget (inSession session notes s)).2) := by
  rw [applyInSession, h]
  rfl

/-- A session that is opened has a state in which the items are applied. -/
lemma applyInSession_of_ok (runner : Runner σ) (first : Item) (walk : Walk) (budget : ℕ)
    {s : RunState σ} {session : σ} {notes : List Log.Entry}
    (h : runner.connector.connect s.session = (session, .ok notes)) :
    ∃ running closing,
      Does runner.connector s [.connected none, .phaseChanged s.phase .running] running ∧
      running.situation = ⟨.running, s.tree, session⟩ ∧
      Does runner.connector (runner.applyItems {} first walk budget running).2 [.closed closing]
        (runner.applyInSession first walk budget s).2 ∧
      (runner.applyInSession first walk budget s).1 =
        (runner.applyItems {} first walk budget running).1 := by
  obtain ⟨closing, hclosed⟩ :=
    runner.release_does (runner.applyItems {} first walk budget (inSession session notes s)).2
  rw [runner.applyInSession_eq_of_ok first walk budget h]
  exact ⟨_, closing, runner.inSession_does h, rfl, hclosed, rfl⟩

/-! ## The last phase -/

/-- The phase that a run ends in. -/
def lastPhase (result : Except RunError Summary) : Phase := if result.isOk then .done else .aborted

/-- A run ends in the phase `done` if it succeeds and only then. -/
lemma lastPhase_eq_done_iff (result : Except RunError Summary) :
    lastPhase result = .done ↔ result.isOk = true := by
  unfold lastPhase
  split <;> simp_all

/-- A run ends in one of two phases. -/
lemma lastPhase_eq (result : Except RunError Summary) :
    lastPhase result = .done ∨ lastPhase result = .aborted := by
  unfold lastPhase
  split
  · exact .inl rfl
  · exact .inr rfl

/-- Entering the last phase is the last act of a run. -/
lemma run_does_of_locateAndApply (runner : Runner σ) {s : RunState σ} {done : List Event}
    (h : Does runner.connector s done (runner.locateAndApply s).2) :
    Does runner.connector s
      (done ++ [.phaseChanged (phaseAfter s.phase done) (lastPhase (runner.run s).1)])
      (runner.run s).2 := by
  rw [← h.phase_eq]
  exact h.trans (Does.enter _ _)

/-! ## A run with a session -/

variable {runner : Runner σ} {s : RunState σ} {root : Path} {first : ScriptFile} {rest : Walk}
  {session : σ} {notes : List Log.Entry}

/-- The state in which the first item of a run is applied. -/
def opened (runner : Runner σ) (root : Path) (session : σ) (notes : List Log.Entry)
    (s : RunState σ) : RunState σ :=
  inSession session notes (runner.located root s)

/-- The situation in which the first item of a run is applied. -/
lemma situation_opened (runner : Runner σ) (root : Path) (session : σ) (notes : List Log.Entry)
    (s : RunState σ) :
    (runner.opened root session notes s).situation = ⟨.running, s.tree, session⟩ := by
  have htree : (runner.located root s).tree = s.tree :=
    congrArg Situation.tree (runner.situation_located root s)
  rw [← htree]
  rfl

/-- A run has found a script and opened a session when the first item is applied. -/
lemma opened_does (hconnect : runner.connector.connect s.session = (session, .ok notes)) :
    Does runner.connector s
      [.phaseChanged s.phase .located, .connected none, .phaseChanged .located .running]
      (runner.opened root session notes s) := by
  have hsituation := runner.situation_located root s
  have hsession : (runner.located root s).session = s.session :=
    congrArg Situation.session hsituation
  have hphase : (runner.located root s).phase = .located := congrArg Situation.phase hsituation
  have hopened := runner.inSession_does (hsession.symm ▸ hconnect)
  rw [hphase] at hopened
  exact (runner.located_does root s).trans hopened

/-- A run that opens a session has found a script to begin with, and the connector has opened the
session for it. -/
lemma exists_opened {events : List Event}
    (hjournal : (runner.run s).2.journal = s.journal ++ events)
    (hconnected : .connected none ∈ events) :
    ∃ first items session notes, runner.locator.scripts s.tree = .ok (.ok first :: items) ∧
      runner.connector.connect s.session = (session, .ok notes) := by
  -- What the run does can be read off the events that it adds.
  have hacts : ∀ done, Does runner.connector s done (runner.run s).2 → .connected none ∈ done := by
    rintro done ⟨events', hleads, rfl⟩
    obtain rfl : events' = events := List.append_cancel_left (hleads.journal.symm.trans hjournal)
    exact List.mem_filter.2 ⟨hconnected, rfl⟩
  rcases runner.locator.fruitless_or_first s.tree with
    hfruitless | ⟨root, first, rest, hroot, hnext⟩
  · have hdone := hacts _ (runner.run_does_of_locateAndApply
      (runner.locateAndApply_of_fruitless hfruitless).1)
    simp at hdone
  · have hsession : (runner.located root s).session = s.session :=
      congrArg Situation.session (runner.situation_located root s)
    rcases hconnect : runner.connector.connect s.session with ⟨session, error | notes⟩
    · obtain ⟨hrefused, -⟩ := runner.applyInSession_of_error (.ok first) rest
        ((Walk.unopened root).budget s.tree runner.locator.extension) (hsession.symm ▸ hconnect)
      rw [← runner.locateAndApply_eq_of_first hroot hnext] at hrefused
      have hdone := hacts _ (runner.run_does_of_locateAndApply
        ((runner.located_does root s).trans hrefused))
      simp at hdone
    · have hscripts : runner.locator.scripts s.tree =
          .ok (.ok first :: rest.items s.tree runner.locator.extension) := by
        rw [Locator.scripts_of_ok hroot, Walk.items_eq, hnext]
      exact ⟨first, _, session, notes, hscripts, rfl⟩

/-- With a script to begin with and a session, a run applies the items in the session, closes it and
enters its last phase. -/
lemma run_eq_of_opened (hroot : runner.locator.resolveRoot s.tree = .ok root)
    (hnext : (Walk.unopened root).next s.tree runner.locator.extension = (some (.ok first), rest))
    (hconnect : runner.connector.connect s.session = (session, .ok notes)) :
    runner.run s =
      let applied := runner.applyItems {} (.ok first) rest
        ((Walk.unopened root).budget s.tree runner.locator.extension)
        (runner.opened root session notes s)
      (applied.1, (runner.release applied.2).enter (lastPhase applied.1)) := by
  have hsession : (runner.located root s).session = s.session :=
    congrArg Situation.session (runner.situation_located root s)
  rw [run, runner.locateAndApply_eq_of_first hroot hnext,
    runner.applyInSession_eq_of_ok _ _ _ (hsession.symm ▸ hconnect)]
  rfl

end Runner

end ScriptRunner
