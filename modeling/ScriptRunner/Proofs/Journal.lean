import Mathlib
import ScriptRunner.Proofs.SplitterRuns
import ScriptRunner.Run.Runner

/-!
# What a journal tells

A journal is a true account: the events that a part of a run adds to it can be replayed on the
connector, each with the answer that it records, and lead to the situation that the run is then in
(`Leads`). What the operator was told is not part of the situation, and no event about it changes
anything.

The events that count in a replay are the acts: the phases that are entered and what is asked of
the connector. `Does` says which acts a part of a run adds. It holds of one part behind the other,
so the acts of a run are put together from those of its parts. While scripts are applied, all acts
are executed statements, and `Executes` says which ones.
-/

namespace ScriptRunner

open Text Script

variable {σ : Type}

/-! ## Replaying events -/

/-- What events can change. -/
structure Situation (σ : Type) where
  phase : Phase
  tree : FileTree
  session : σ

namespace RunState

/-- The situation that a run is in. -/
def situation (s : RunState σ) : Situation σ := ⟨s.phase, s.tree, s.session⟩

/-- The phase of the situation is that of the run. -/
@[simp] lemma situation_phase (s : RunState σ) : s.situation.phase = s.phase := rfl

/-- The tree of the situation is that of the run. -/
@[simp] lemma situation_tree (s : RunState σ) : s.situation.tree = s.tree := rfl

/-- The session of the situation is that of the run. -/
@[simp] lemma situation_session (s : RunState σ) : s.situation.session = s.session := rfl

/-- Saying something leaves the situation as it is, whether the write fails or not. -/
lemma situation_say (s : RunState σ) (line : Text) : (s.say line).situation = s.situation := by
  unfold say emit write
  dsimp only
  split <;> rfl

end RunState

/-- The situation after an event. There is none if the event cannot happen in the given situation:
the phase it begins in is another one, or the connector gives another answer. -/
def Situation.after? (c : Connector σ) (x : Situation σ) : Event → Option (Situation σ)
  | .phaseChanged before phase =>
    if before = x.phase then some { x with phase := phase } else none
  | .connected error =>
    match c.connect x.session with
    | (session, .error e) => if error = some e then some { x with session := session } else none
    | (session, .ok _) => if error = none then some { x with session := session } else none
  | .executed statement error =>
    let (session, reply) := c.execute statement.sql x.session
    if error = reply.error then
      some { x with session := session, tree := Runner.removePaths x.tree reply.removes }
    else none
  | .closed error =>
    let (session, answer) := c.close x.session
    if error = answer then some { x with session := session } else none
  | _ => some x

/-- The events that a replay heeds: changes of the phase, and what is asked of the connector. -/
def Event.isAct : Event → Bool
  | .phaseChanged _ _ | .connected _ | .executed _ _ | .closed _ => true
  | _ => false

/-- The acts among some events, in their order. -/
def acts (events : List Event) : List Event := events.filter Event.isAct

/-- The acts of two lists, one behind the other. -/
lemma acts_append (events more : List Event) : acts (events ++ more) = acts events ++ acts more :=
  List.filter_append _ _

/-- There are no acts among events none of which is one. -/
lemma acts_eq_nil {events : List Event} (h : ∀ e ∈ events, e.isAct = false) : acts events = [] :=
  List.filter_eq_nil_iff.2 fun e he => by simp [h e he]

/-- Only an act changes the situation. -/
lemma Situation.after?_of_isAct_eq_false (c : Connector σ) (x : Situation σ) {e : Event}
    (h : e.isAct = false) : x.after? c e = some x := by
  cases e <;> first | rfl | cases h

/-- What a replayed event can change: the phase, the session alone, or all that a statement does. -/
lemma Situation.after?_eq_some {c : Connector σ} {x y : Situation σ} {e : Event}
    (h : x.after? c e = some y) :
    (e.isAct = false ∧ y = x) ∨
    (∃ phase, e = .phaseChanged x.phase phase ∧ y = { x with phase := phase }) ∨
    (∃ error session, (e = .connected error ∨ e = .closed error) ∧
      y = { x with session := session }) ∨
    ∃ statement, e = .executed statement (c.execute statement.sql x.session).2.error ∧
      y = { x with
        session := (c.execute statement.sql x.session).1
        tree := Runner.removePaths x.tree (c.execute statement.sql x.session).2.removes } := by
  cases e with
  | phaseChanged before phase =>
    simp only [after?, Option.ite_none_right_eq_some] at h
    obtain ⟨rfl, h⟩ := h
    exact .inr (.inl ⟨phase, rfl, (Option.some.inj h).symm⟩)
  | connected error =>
    rcases hconnect : c.connect x.session with ⟨session, error' | notes⟩ <;>
      simp only [after?, hconnect, Option.ite_none_right_eq_some] at h <;>
      exact .inr (.inr (.inl ⟨error, session, .inl rfl, (Option.some.inj h.2).symm⟩))
  | executed statement error =>
    simp only [after?, Option.ite_none_right_eq_some] at h
    obtain ⟨rfl, h⟩ := h
    exact .inr (.inr (.inr ⟨statement, rfl, (Option.some.inj h).symm⟩))
  | closed error =>
    simp only [after?, Option.ite_none_right_eq_some] at h
    exact .inr (.inr (.inl ⟨error, _, .inr rfl, (Option.some.inj h.2).symm⟩))
  | _ => exact .inl ⟨rfl, (Option.some.inj h).symm⟩

/-- From one state to another, the journal grows by the given events, and these are what
happened. -/
structure Leads (c : Connector σ) (s : RunState σ) (events : List Event) (t : RunState σ) :
    Prop where
  journal : t.journal = s.journal ++ events
  situation : events.foldlM (Situation.after? c) s.situation = some t.situation

namespace Leads

variable {c : Connector σ} {s t u : RunState σ} {events more : List Event} {e : Event}

/-- What happens later comes behind what happened before. -/
lemma trans (h : Leads c s events t) (h' : Leads c t more u) : Leads c s (events ++ more) u where
  journal := by rw [h'.journal, h.journal, List.append_assoc]
  situation := by
    rw [List.foldlM_append, h.situation]
    exact h'.situation

/-- One event that happens in a situation leads to the situation after it. -/
lemma single (hj : t.journal = s.journal ++ [e]) (hs : s.situation.after? c e = some t.situation) :
    Leads c s [e] t where
  journal := hj
  situation := by
    rw [List.foldlM_cons, hs]
    rfl

/-- Events that are no acts leave the situation as it is. -/
lemma of_no_acts (h : ∀ e ∈ events, e.isAct = false) (hj : t.journal = s.journal ++ events)
    (hs : t.situation = s.situation) : Leads c s events t where
  journal := hj
  situation := by
    rw [hs]
    clear hj
    induction events with
    | nil => rfl
    | cons e events ih =>
      rw [List.foldlM_cons, Situation.after?_of_isAct_eq_false c _ (h e List.mem_cons_self)]
      exact ih fun e he => h e (List.mem_cons_of_mem _ he)

end Leads

/-- The phase behind some events that begin in a phase. -/
def phaseAfter (phase : Phase) (events : List Event) : Phase :=
  events.foldl (fun phase event => match event with
    | .phaseChanged _ next => next
    | _ => phase) phase

/-- Events begin in the phase behind those before them. -/
lemma phaseAfter_append (phase : Phase) (events more : List Event) :
    phaseAfter phase (events ++ more) = phaseAfter (phaseAfter phase events) more :=
  List.foldl_append

/-- A replay ends in the phase that was entered last. -/
lemma phase_of_foldlM {c : Connector σ} {x y : Situation σ} {events : List Event}
    (h : events.foldlM (Situation.after? c) x = some y) :
    y.phase = phaseAfter x.phase (acts events) := by
  induction events generalizing x with
  | nil =>
    obtain rfl : x = y := Option.some.inj h
    rfl
  | cons e events ih =>
    rw [List.foldlM_cons] at h
    obtain ⟨z, hz, hrest⟩ := Option.bind_eq_some_iff.1 h
    rw [ih hrest]
    have hphase : z.phase = phaseAfter x.phase (acts [e]) := by
      rcases Situation.after?_eq_some hz with ⟨he, rfl⟩ | ⟨phase, rfl, rfl⟩ |
        ⟨error, session, rfl | rfl, rfl⟩ | ⟨statement, rfl, rfl⟩
      · rw [acts_eq_nil (by simpa using he)]
        rfl
      all_goals rfl
    rw [hphase, ← phaseAfter_append, ← acts_append]
    rfl

/-! ## Acts -/

/-- From one state to another, the given acts happen, and no others. -/
def Does (c : Connector σ) (s : RunState σ) (done : List Event) (t : RunState σ) : Prop :=
  ∃ events, Leads c s events t ∧ acts events = done

namespace Does

variable {c : Connector σ} {s t u : RunState σ} {events done more : List Event} {e : Event}

/-- What happens later comes behind what happened before. -/
lemma trans (h : Does c s done t) (h' : Does c t more u) : Does c s (done ++ more) u := by
  obtain ⟨events, hleads, hacts⟩ := h
  obtain ⟨events', hleads', hacts'⟩ := h'
  exact ⟨events ++ events', hleads.trans hleads', by rw [acts_append, hacts, hacts']⟩

/-- The phase is the one that was entered last. -/
lemma phase_eq (h : Does c s done t) : t.phase = phaseAfter s.phase done := by
  obtain ⟨events, hleads, rfl⟩ := h
  exact phase_of_foldlM hleads.situation

/-- An act happens if the journal grows by it and it leads to the new situation. -/
lemma single (ha : e.isAct = true) (hj : t.journal = s.journal ++ [e])
    (hs : s.situation.after? c e = some t.situation) : Does c s [e] t :=
  ⟨[e], .single hj hs, by rw [acts, List.filter_singleton, ha]; rfl⟩

/-- Nothing happens where the journal grows by events that are no acts. -/
lemma of_no_acts (events : List Event) (h : ∀ e ∈ events, e.isAct = false)
    (hj : t.journal = s.journal ++ events) (hs : t.situation = s.situation) : Does c s [] t :=
  ⟨events, .of_no_acts h hj hs, acts_eq_nil h⟩

/-- Nothing happens where nothing is done. -/
lemma refl (s : RunState σ) : Does c s [] s :=
  of_no_acts [] (by simp) (List.append_nil _).symm rfl

/-- Nothing happens by an entry in the journal that is no act. -/
lemma record (h : e.isAct = false) : Does c s [] (s.record e) :=
  of_no_acts [e] (by simpa using h) rfl rfl

/-- Nothing happens by entries in the journal that are no acts. -/
lemma recordAll (h : ∀ e ∈ events, e.isAct = false) : Does c s [] (s.recordAll events) :=
  of_no_acts events h rfl rfl

/-- Nothing happens by telling the operator something, whether the write fails or not. -/
lemma write {lost : Text → Event} (h : ∀ error, (lost error).isAct = false) (text : Text) :
    Does c s [] (s.write lost text) := by
  unfold RunState.write
  dsimp only
  split
  · exact of_no_acts [] (by simp) (List.append_nil _).symm rfl
  · exact of_no_acts [lost _] (by simpa using h _) rfl rfl

/-- Nothing happens by saying something. -/
lemma say (line : Text) : Does c s [] (s.say line) := write (fun _ => rfl) _

/-- Going over to another phase is an act. -/
lemma enter (s : RunState σ) (phase : Phase) :
    Does c s [.phaseChanged s.phase phase] (s.enter phase) :=
  single rfl rfl (if_pos rfl)

end Does

/-! ## Executed statements -/

/-- A statement that was executed, with the error if it failed. -/
abbrev Execution : Type := Statement × Option DatabaseError

/-- Executions of statements all of which succeed. -/
def succeeded (statements : List Statement) : List Execution :=
  statements.map fun statement => (statement, none)

/-- The event of an execution. -/
def Execution.event (execution : Execution) : Event := .executed execution.1 execution.2

/-- Executions do not change the phase. -/
lemma phaseAfter_executions (phase : Phase) (executions : List Execution) :
    phaseAfter phase (executions.map Execution.event) = phase := by
  induction executions with
  | nil => rfl
  | cons execution executions ih => exact ih

/-- From one state to another, the given statements are executed with the given answers, and
nothing else is asked of the connector. -/
def Executes (c : Connector σ) (s : RunState σ) (executions : List Execution) (t : RunState σ) :
    Prop :=
  Does c s (executions.map Execution.event) t

namespace Executes

variable {c : Connector σ} {s t u : RunState σ} {executions more : List Execution}

/-- What is executed later comes behind what was executed before. -/
lemma trans (h : Executes c s executions t) (h' : Executes c t more u) :
    Executes c s (executions ++ more) u := by
  have hboth := Does.trans h h'
  rwa [← List.map_append] at hboth

/-- Nothing more is executed where nothing happens behind the executions. -/
lemma followed (h : Executes c s executions t) (h' : Does c t [] u) : Executes c s executions u := by
  have hboth := Does.trans h h'
  rwa [List.append_nil] at hboth

/-- Nothing more is executed where nothing happens in front of the executions. -/
lemma preceded (h : Executes c t executions u) (h' : Does c s [] t) : Executes c s executions u :=
  Does.trans h' h

/-- Nothing is executed where nothing is done. -/
lemma refl (s : RunState σ) : Executes c s [] s := Does.refl s

end Executes

/-! ## Answers -/

/-- What a connector answers to statements that are executed one after the other. -/
def Connector.answers (c : Connector σ) : σ → List Text → List (Option DatabaseError)
  | _, [] => []
  | session, sql :: rest =>
    let (session, reply) := c.execute sql session
    reply.error :: c.answers session rest

/-- The executions in a replay have the answers of the connector. -/
lemma answers_of_foldlM {c : Connector σ} {x y : Situation σ} {events : List Event}
    {executions : List Execution} (h : events.foldlM (Situation.after? c) x = some y)
    (hacts : acts events = executions.map Execution.event) :
    executions.map Prod.snd = c.answers x.session (executions.map fun e => e.1.sql) := by
  induction events generalizing x executions with
  | nil =>
    obtain rfl : executions = [] := List.map_eq_nil_iff.1 hacts.symm
    rfl
  | cons e events ih =>
    rw [List.foldlM_cons] at h
    obtain ⟨z, hz, hrest⟩ := Option.bind_eq_some_iff.1 h
    rcases Situation.after?_eq_some hz with ⟨he, rfl⟩ | ⟨phase, rfl, rfl⟩ |
      ⟨error, session, rfl | rfl, rfl⟩ | ⟨statement, rfl, rfl⟩
    · rw [acts, List.filter_cons_of_neg (by simp [he])] at hacts
      exact ih hrest hacts
    -- The other acts are no executions.
    · cases executions <;> cases hacts
    · cases executions <;> cases hacts
    · cases executions <;> cases hacts
    · rw [acts, List.filter_cons_of_pos rfl] at hacts
      cases executions with
      | nil => cases hacts
      | cons execution executions =>
        obtain ⟨he, hmore⟩ := List.cons.inj hacts
        obtain ⟨rfl, herror⟩ := Event.executed.inj he
        rw [List.map_cons, List.map_cons, Connector.answers, ← herror, ih hrest hmore]

/-- The executed statements have the answers of the connector. -/
lemma Executes.answers {c : Connector σ} {s t : RunState σ} {executions : List Execution}
    (h : Executes c s executions t) :
    executions.map Prod.snd = c.answers s.session (executions.map fun e => e.1.sql) := by
  obtain ⟨events, hleads, hacts⟩ := h
  exact answers_of_foldlM hleads.situation hacts

/-! ## Trees that executions leave alone -/

/-- Executing statements never changes the tree. -/
def Connector.Spares (c : Connector σ) (tree : FileTree) : Prop :=
  ∀ sql session, Runner.removePaths tree (c.execute sql session).2.removes = tree

/-- A replay leaves a tree that executions do not change as it is. -/
lemma tree_of_foldlM {c : Connector σ} {x y : Situation σ} {events : List Event}
    (h : events.foldlM (Situation.after? c) x = some y) (hspares : c.Spares x.tree) :
    y.tree = x.tree := by
  induction events generalizing x with
  | nil => rw [← Option.some.inj h]
  | cons e events ih =>
    rw [List.foldlM_cons] at h
    obtain ⟨z, hz, hrest⟩ := Option.bind_eq_some_iff.1 h
    have htree : z.tree = x.tree := by
      rcases Situation.after?_eq_some hz with ⟨-, rfl⟩ | ⟨phase, -, rfl⟩ |
        ⟨error, session, -, rfl⟩ | ⟨statement, -, rfl⟩
      · rfl
      · rfl
      · rfl
      · exact hspares _ _
    rw [← htree] at hspares ⊢
    exact ih hrest hspares

/-- A tree that executions do not change stays as it is, whatever else happens. -/
lemma Does.tree_eq {c : Connector σ} {s t : RunState σ} {done : List Event}
    (h : Does c s done t) (hspares : c.Spares s.tree) : t.tree = s.tree := by
  obtain ⟨events, hleads, -⟩ := h
  exact tree_of_foldlM hleads.situation hspares

end ScriptRunner
