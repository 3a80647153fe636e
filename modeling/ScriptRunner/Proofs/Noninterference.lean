import Mathlib
import ScriptRunner.Proofs.FailFast
import ScriptRunner.Proofs.Lifecycle
import ScriptRunner.Proofs.SideBySide

/-!
# What the operator is told decides nothing

Runs over the same tree come to the same (`Account`), whatever their outputs take, whatever they
show of their progress and however many runs came before, if the connector only remembers the
statements of the session that is open. And an output that takes only so many bytes gets the
beginning of what one without a limit gets, over any number of runs (`Runner.noninterference`).

Both are about two runs side by side. For the first, the outputs need not be related at all, and of
the open sessions it is enough that the same statements were executed in them. For the second, the
connectors are in the same state and one output is the other one cut short (`CutShort`).
-/

namespace ScriptRunner

open Text Script

variable {σ : Type}

/-! ## What a run comes to -/

/-- What a run comes to, apart from what it tells the operator. -/
structure Account where
  result : Except RunError Summary
  phase : Phase
  /-- The statements that were executed, with the answers to them. -/
  executions : List Execution
  /-- The answers to the demands for a session. -/
  connects : List (Option DatabaseError)
  /-- The answers to the closing of sessions. -/
  closes : List (Option DatabaseError)
  /-- The entries of the log that are at least of the level of plain information. -/
  log : List Log.Entry

/-- The answer to a demand for a session. -/
def Event.connected? : Event → Option (Option DatabaseError)
  | .connected error => some error
  | _ => none

/-- The answer to the closing of a session. -/
def Event.closed? : Event → Option (Option DatabaseError)
  | .closed error => some error
  | _ => none

/-- Whether an entry is at least of the level of plain information. -/
def Log.Entry.isProminent (entry : Log.Entry) : Bool := entry.level.rank ≤ Level.info.rank

/-- The account of a result, a phase and some events. -/
def Account.of (result : Except RunError Summary) (phase : Phase) (events : List Event) :
    Account where
  result := result
  phase := phase
  executions := executionsIn events
  connects := events.filterMap Event.connected?
  closes := events.filterMap Event.closed?
  log := (logOf events).filter Log.Entry.isProminent

/-- What is made of single events is the same without asides if nothing is made of these. -/
lemma filterMap_substance {α : Type} {f : Event → Option α}
    (hf : ∀ event : Event, event.isAside = true → f event = none) (events : List Event) :
    (substance events).filterMap f = events.filterMap f := by
  induction events with
  | nil => rfl
  | cons event events ih =>
    have hcons : substance (event :: events) = substance [event] ++ substance events :=
      substance_append [event] events
    rw [hcons, List.filterMap_append, ih]
    cases haside : event.isAside with
    | true =>
      rw [substance_eq_nil (by simpa using haside), List.filterMap_cons_none (hf event haside)]
      rfl
    | false =>
      have hsingle : substance [event] = [event] := by simp [substance, haside]
      rw [hsingle]
      exact List.filterMap_append.symm

/-- Nothing in an account is made of asides. -/
lemma Account.of_substance (result : Except RunError Summary) (phase : Phase)
    (events : List Event) : of result phase (substance events) = of result phase events := by
  have hlog : ∀ events : List Event, (logOf events).filter Log.Entry.isProminent =
      events.filterMap fun event => event.logged?.filter Log.Entry.isProminent := fun events =>
    List.filter_filterMap
  have hexecutions : executionsIn (substance events) = executionsIn events :=
    filterMap_substance (fun event haside => by cases event <;> first | rfl | cases haside) events
  have hconnects := filterMap_substance (f := Event.connected?)
    (fun event haside => by cases event <;> first | rfl | cases haside) events
  have hcloses := filterMap_substance (f := Event.closed?)
    (fun event haside => by cases event <;> first | rfl | cases haside) events
  have hprominent := filterMap_substance
    (f := fun event => event.logged?.filter Log.Entry.isProminent)
    (fun event haside => by cases event <;> first | rfl | cases haside) events
  rw [of, of, hexecutions, hconnects, hcloses, hlog, hlog, hprominent]

namespace Runner

/-- What a run from a state comes to. -/
def account (runner : Runner σ) (s : RunState σ) : Account :=
  .of (runner.run s).1 (runner.run s).2.phase
    ((runner.run s).2.journal.drop s.journal.length)

/-- The state after a number of runs. -/
def after (runner : Runner σ) : ℕ → RunState σ → RunState σ
  | 0, s => s
  | count + 1, s => runner.after count (runner.run s).2

/-- The runner that shows its progress in another way, or not at all. -/
def showing (runner : Runner σ) (progress coloured : Bool)
    (progressLine : Statement → σ → Option Text) : Runner σ :=
  { runner with
    connector := { runner.connector with progressLine := progressLine }
    progress := progress
    coloured := coloured }

end Runner

/-- Runs side by side come to the same. -/
lemma account_eq_of_beside {runner runner' : Runner σ} {closed opened : σ → σ → Prop}
    {outputs : Output → Output → Prop} {s t : RunState σ}
    (hparallel : Parallel runner runner' closed opened outputs)
    (h : Beside closed outputs s.journal t.journal s t) : runner.account s = runner'.account t := by
  obtain ⟨hresult, hphase, hbeside⟩ := run_beside hparallel h
  obtain ⟨events, events', hs, ht, hsubstance⟩ := hbeside.journal
  rw [Runner.account, Runner.account, hs, ht, List.drop_left, List.drop_left, hresult, hphase,
    ← Account.of_substance, hsubstance, Account.of_substance]

/-! ## Connectors that remember a session -/

namespace Connector

/-- The state of a connector that opened a session and executed statements in it. -/
def inSession (c : Connector σ) (x : σ) (sqls : List Text) : σ :=
  sqls.foldl (fun session sql => (c.execute sql session).1) (c.connect x).1

/-- The statement executed last leads from the state in front of it. -/
lemma inSession_concat (c : Connector σ) (x : σ) (sqls : List Text) (sql : Text) :
    c.inSession x (sqls ++ [sql]) = (c.execute sql (c.inSession x sqls)).1 := by
  rw [inSession, List.foldl_concat]
  rfl

/-- What a connector answers depends only on the statements that it was given in the session that
is open, whatever was done in former sessions. -/
structure Forgets (c : Connector σ) : Prop where
  connect : ∀ x y, (c.connect x).2 = (c.connect y).2
  execute : ∀ x y sqls sql,
    (c.execute sql (c.inSession x sqls)).2 = (c.execute sql (c.inSession y sqls)).2
  close : ∀ x y sqls, (c.close (c.inSession x sqls)).2 = (c.close (c.inSession y sqls)).2

/-- Open sessions in which the same statements were executed. -/
def SameSession (c : Connector σ) (x y : σ) : Prop :=
  ∃ a b sqls, x = c.inSession a sqls ∧ y = c.inSession b sqls

end Connector

/-- A runner goes the same way whatever it shows, and whatever becomes of what it tells. -/
lemma parallel_showing (runner : Runner σ) (hforgets : runner.connector.Forgets)
    (progress coloured : Bool) (progressLine : Statement → σ → Option Text) :
    Parallel (runner.showing progress coloured progressLine) runner (fun _ _ => True)
      runner.connector.SameSession fun _ _ => True where
  locator := rfl
  connect x y _ := hforgets.connect x y
  refused _ _ _ _ _ := trivial
  accepted x y _ _ _ := ⟨x, y, [], rfl, rfl⟩
  execute := by
    rintro _ _ sql ⟨a, b, sqls, rfl, rfl⟩
    exact ⟨hforgets.execute a b sqls sql, a, b, sqls ++ [sql],
      (runner.connector.inSession_concat a sqls sql).symm,
      (runner.connector.inSession_concat b sqls sql).symm⟩
  close := by
    rintro _ _ ⟨a, b, sqls, rfl, rfl⟩
    exact ⟨hforgets.close a b sqls, trivial⟩
  tell _ _ _ _ := trivial
  showProgress _ _ _ _ _ _ _ := trivial

/-! ## Outputs with a limit -/

/-- An output that took the first bytes of what another one took, up to a limit, and is ready to
take more up to it. -/
structure CutShort (limit : ℕ) (output whole : Output) : Prop where
  faults : output.faults = []
  faults_whole : whole.faults = []
  room : output.room = some (limit - whole.delivered.length)
  room_whole : whole.room = none
  delivered : output.delivered = whole.delivered.take limit

/-- One output stays the other one cut short when both are written to. -/
lemma CutShort.write {limit : ℕ} {output whole : Output} (h : CutShort limit output whole)
    (bytes : Bytes) : CutShort limit (output.write bytes).1 (whole.write bytes).1 where
  faults := by simp [Output.write, Output.take, h.faults, h.room]
  faults_whole := by simp [Output.write, Output.take, h.faults_whole, h.room_whole]
  room := by
    rw [whole.delivered_write_of_unlimited bytes h.room_whole h.faults_whole, List.length_append,
      ← Nat.sub_sub]
    simp [Output.write, Output.take, h.faults, h.room]
  room_whole := by simp [Output.write, Output.take, h.faults_whole, h.room_whole]
  delivered := by
    rw [whole.delivered_write_of_unlimited bytes h.room_whole h.faults_whole, List.take_append,
      ← h.delivered]
    simp [Output.write, Output.take, h.faults, h.room]

/-- A runner goes the same way whether its output has a limit or not. -/
lemma parallel_cutShort (runner : Runner σ) (limit : ℕ) :
    Parallel runner runner Eq Eq (CutShort limit) where
  locator := rfl
  connect := by
    rintro x _ rfl
    rfl
  refused := by
    rintro x _ _ rfl _
    rfl
  accepted := by
    rintro x _ _ rfl _
    rfl
  execute := by
    rintro x _ sql rfl
    exact ⟨rfl, rfl⟩
  close := by
    rintro x _ rfl
    exact ⟨rfl, rfl⟩
  tell _ _ _ h := h.write _
  showProgress := by
    rintro x _ statement output output' rfl h
    unfold Runner.shown
    split
    · exact h.write _
    · exact h

namespace Runner

/-- Runs over a tree that statements do not change leave it as it is. -/
lemma tree_after (runner : Runner σ) (count : ℕ) {s : RunState σ}
    (hspares : runner.connector.Spares s.tree) : (runner.after count s).tree = s.tree := by
  induction count generalizing s with
  | zero => rfl
  | succ count ih =>
    obtain ⟨_, hdoes, -⟩ := runner.run_does s
    have htree := hdoes.tree_eq hspares
    rw [after, ih (htree ▸ hspares), htree]

/-- Any number of runs side by side stay so. -/
lemma after_beside {runner runner' : Runner σ} {closed opened : σ → σ → Prop}
    {outputs : Output → Output → Prop} {before before' : List Event} {s t : RunState σ}
    (hparallel : Parallel runner runner' closed opened outputs) (count : ℕ)
    (h : Beside closed outputs before before' s t) :
    Beside closed outputs before before' (runner.after count s) (runner'.after count t) := by
  induction count generalizing s t with
  | zero => exact h
  | succ count ih => exact ih (run_beside hparallel h).2.2

/-- **What the operator is told decides nothing.** If statements do not change the tree and the
connector only remembers the open session, then a run comes to the same as any other one over the
tree: in whatever way it shows its progress, or not at all, whatever outputs the two have, and
however many runs came before. And over any number of runs, an output that takes only so many bytes
gets exactly the first ones of what an output without a limit gets. -/
theorem noninterference (runner : Runner σ) {s t : RunState σ} (htree : s.tree = t.tree)
    (hspares : runner.connector.Spares t.tree) (hforgets : runner.connector.Forgets)
    (progress coloured : Bool) (progressLine : Statement → σ → Option Text) (count : ℕ) :
    (runner.showing progress coloured progressLine).account
        ((runner.showing progress coloured progressLine).after count s) =
      runner.account t ∧
    ∀ limit, (runner.after count { s with output := { room := some limit } }).output.delivered =
      (runner.after count { s with output := {} }).output.delivered.take limit := by
  constructor
  · -- The runs before leave the tree as it is, and nothing else of theirs matters.
    have hsame : ((runner.showing progress coloured progressLine).after count s).tree = t.tree := by
      rw [← htree] at hspares ⊢
      exact tree_after _ count hspares
    exact account_eq_of_beside (parallel_showing runner hforgets progress coloured progressLine)
      (.start hsame trivial trivial)
  · intro limit
    have hcut : CutShort limit { room := some limit } {} := ⟨rfl, rfl, rfl, rfl, List.take_nil.symm⟩
    have hstart := Beside.start (s := { s with output := { room := some limit } })
      (t := { s with output := {} }) rfl (Eq.refl s.session) hcut
    exact (after_beside (parallel_cutShort runner limit) count hstart).output.delivered

end Runner

/-! ## An example -/

/-- A runner that executes nothing and shows each statement with its number. -/
def countingRunner : Runner ℕ where
  locator := { root := encode "/db" }
  connector := dryRun false

/-- All that the connector of this runner remembers is the number of statements in the session, and
its answers do not depend on it. -/
lemma forgets_countingRunner : countingRunner.connector.Forgets where
  connect _ _ := rfl
  execute _ _ _ _ := rfl
  close _ _ _ := rfl

/-- A state with an output that takes no more than ten bytes, and with a counter left over. -/
def spentState : RunState ℕ where
  tree := twoScripts
  session := 7
  output := { room := some 10 }

/-- A state to begin with. -/
def freshState : RunState ℕ where
  tree := twoScripts
  session := 0

/-- When two runs without progress came before, a third one still executes what a first one does. -/
theorem noninterference_countingRunner :
    ((countingRunner.showing false true fun _ _ => none).account
        ((countingRunner.showing false true fun _ _ => none).after 2 spentState) =
      countingRunner.account freshState ∧
    ∀ limit, (countingRunner.after 2
        { spentState with output := { room := some limit } }).output.delivered =
      (countingRunner.after 2 { spentState with output := {} }).output.delivered.take limit) ∧
    (countingRunner.account freshState).executions =
      [(⟨"A;", 1⟩, none), (⟨"B;", 1⟩, none), (⟨"DROP T;", 2⟩, none), (⟨"C;", 3⟩, none)] := by
  have htree : spentState.tree = freshState.tree := rfl
  have hspares : countingRunner.connector.Spares freshState.tree := fun _ _ => rfl
  exact ⟨countingRunner.noninterference htree hspares forgets_countingRunner false true
    (fun _ _ => none) 2, by decide +kernel⟩

end ScriptRunner
