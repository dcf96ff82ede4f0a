import ConnectionPool.Proofs.Staleness

/-! Statements that outlive their handles. A handle makes statements only while it is valid. A statement
knows its connection and nothing else, so that it is executed there whoever has the connection by then;
nobody else has it as long as the handle is valid. -/
namespace ConnectionPool

theorem Action.thenPure {σ α β : Type} (m : Action σ α) (f : α → β) (w : World σ) :
    ((m >>= fun a => pure (f a)) w).2 = (m w).2 := by
  cases done : m w with
  | mk r later =>
    cases r with
    | error e => rw [bindError done]
    | ok a => rw [bindOk done]; rfl

inductive Execution where
  | query (sql : String) (params : List Value)
  | update (sql : String) (params : List Value)

namespace Execution

def call (c : Nat) : Execution → Call
  | query sql params => .executeQuery c sql params
  | update sql params => .executeUpdate c sql params

def step : Execution → Scenario.StatementStep
  | query sql params => .query sql params
  | update sql params => .update sql params

variable {σ : Type} [Conditions σ]

def on (c : Nat) (w : World σ) : Execution → World σ
  | query sql params => (Database.executeQuery c sql params).effect w
  | update sql params => (Database.executeUpdate c sql params).effect w

theorem onCall (x : Execution) (c : Nat) (w : World σ) :
    x.on c w = (Database.perform (x.call c) w).2 := by
  cases x with
  | query sql params => exact Action.thenPure _ _ w
  | update sql params => exact Action.thenPure _ _ w

end Execution

/- Neither the handle of a statement nor its pool is asked when it is executed. -/
theorem Scenario.Stage.statementExecuted {st : Stage} {number c : Nat}
    (made : st.statements[number]? = some (some c)) (x : Execution) :
    (st.statementStep number x.step).2 = { st with world := x.on c st.world } := by
  unfold statementStep
  rw [made]
  cases x with
  | query sql params => rfl
  | update sql params => rfl

namespace Traffic

variable {σ : Type} [Conditions σ]

structure Statement where
  handle : Nat
  connection : Nat
  deriving DecidableEq, Repr

def Moment.statement? (m : Moment σ) : Option Statement :=
  match m.event with
  | .use number .createStatement =>
    m.state.handles[number]?.bind fun h =>
      match (h.use m.state.pool Operation.createStatement.on m.state.world).1 with
      | .ok _ => some ⟨number, h.entry.connection⟩
      | .error _ => none
  | _ => none

namespace Statement

def execute (t : Statement) (x : Execution) : Event σ := .outside fun w => x.on t.connection w

structure Stands (t : Statement) (h : Handle) (s : State σ) : Prop where
  reaches : ∀ x : Execution, s.Possible (t.execute x) ∧ ∃ failed,
    (s.step (t.execute x)).world.trace = s.world.trace ++ [⟨x.call t.connection, failed⟩]
  alone : h.valid s.pool = true → s.pool.holders t.connection = [h.entry] ∧ h.entry ∈ s.pool.active ∧
    ∀ (number : Nat) (k : Handle), s.handles[number]? = some k → k.valid s.pool = true →
      k.entry.connection = t.connection → number = t.handle
  stale : h.valid s.pool = false → h.Inert s.pool s.world

end Statement

namespace State

variable {source : Source} {config : Config} {world : World σ} {history : List (Moment σ)} {s : State σ}

theorem statementMade {m : Moment σ} {t : Statement} (made : m.statement? = some t) :
    m.event = .use t.handle .createStatement ∧ ∃ h : Handle, m.state.handles[t.handle]? = some h ∧
      h.valid m.state.pool = true ∧ h.entry.connection = t.connection := by
  unfold Moment.statement? at made
  split at made
  · rename_i number event
    obtain ⟨h, found, made⟩ := Option.bind_eq_some_iff.mp made
    split at made
    · rename_i ok
      cases made
      refine ⟨event, h, found, ?_, rfl⟩
      by_contra bad
      rw [h.useIf, if_neg bad] at ok
      cases ok
    · cases made
  · cases made

theorem executed (s : State σ) (t : Statement) (x : Execution) :
    (s.step (t.execute x)).world = (Database.perform (x.call t.connection) s.world).2 :=
  x.onCall t.connection s.world

theorem statementStands (run : Run (.start source config world) history s) {t : Statement} {h : Handle}
    (found : s.handles[t.handle]? = some h) (same : h.entry.connection = t.connection) :
    t.Stands h s where
  reaches x := by
    have growth := (Database.callsPerform (x.call t.connection) s.world).grows
    rw [← x.onCall] at growth
    refine ⟨growth, ?_⟩
    rw [executed]
    exact Database.performTrace _ _
  alone good := by
    have custody := kept run
    have active := (custody.handleValid (List.mem_of_getElem? found)).mp good
    refine ⟨?_, active, fun number k there valid shared => ?_⟩
    · rw [← same]
      exact Pool.filterOne custody.ledger.connections (List.mem_append_right _ active)
    · exact (runOwned run).apart there found valid good (shared.trans same.symm)
  stale bad := Handle.inert bad

end State

/- A statement can be executed in every later state, even if the handle through which it was made leads
nowhere any more. -/
theorem statementsStand {source : Source} {config : Config} {world : World σ}
    {history : List (Moment σ)} {s : State σ} (run : Run (.start source config world) history s)
    {m : Moment σ} (member : m ∈ history) {t : Statement} (made : m.statement? = some t) :
    ∃ h k : Handle, m.state.handles[t.handle]? = some h ∧ h.valid m.state.pool = true ∧
      s.handles[t.handle]? = some k ∧ k.entry = h.entry ∧ h.entry.connection = t.connection ∧
      t.Stands k s := by
  obtain ⟨event, h, found, good, connection⟩ := State.statementMade made
  have stays : m.next.handles[t.handle]? = some h := by
    obtain ⟨s, e⟩ := m
    dsimp only at event found
    subst event
    simp only [Moment.next, State.step, found]
  obtain ⟨k, now, entry, _⟩ := State.handleLater run member stays
  refine ⟨h, k, found, good, now, entry, connection, State.statementStands run now ?_⟩
  rw [entry, connection]

def lent : List (Event Scenario.Plan) :=
  [.acquireDefault, .use 0 .createStatement, .giveBack 0, .acquireDefault]

theorem lentPossible : ∀ e ∈ lent, ∀ t : State Scenario.Plan, t.Possible e := by
  simp [lent, State.Possible]

theorem statementsStandHeld :
    let s := State.small.after (lent.take 2)
    ∃ k : Handle, s.handles[0]? = some k ∧ k.valid s.pool = true ∧ s.pool.holders 0 = [k.entry] ∧
      ∃ failed, (s.step (Statement.execute ⟨0, 0⟩ (.query "SELECT 1" []))).world.trace =
        s.world.trace ++ [⟨.executeQuery 0 "SELECT 1" [], failed⟩] := by
  intro s
  have run : Run State.small (State.small.history (lent.take 2)) s :=
    State.small.run fun e member => lentPossible e (List.mem_of_mem_take member)
  obtain ⟨_, k, _, _, found, _, _, stands⟩ := statementsStand run
    (List.mem_cons_of_mem _ List.mem_cons_self) (by decide +kernel : _ = some (Statement.mk 0 0))
  have good : ∀ k ∈ s.handles[0]?, k.valid s.pool = true := by decide +kernel
  exact ⟨k, found, good k found, (stands.alone (good k found)).1, (stands.reaches _).2⟩

theorem statementOutlives : ∃ history s, Run State.small history s ∧
    ∃ m ∈ history, ∃ t ∈ m.statement?, (∃ h ∈ s.handles[t.handle]?, h.valid s.pool = false) ∧
      (∃ k ∈ s.handles[1]?, k.valid s.pool = true ∧ k.entry.connection = t.connection) ∧
      s.world.Tried (s.step (t.execute (.query "SELECT 1" []))).world
        (.executeQuery t.connection "SELECT 1" []) := by
  refine ⟨_, _, State.small.run lentPossible, _, List.mem_cons_of_mem _ List.mem_cons_self, ⟨0, 0⟩,
    by decide +kernel, by decide +kernel, by decide +kernel, ?_⟩
  rw [State.executed]
  exact Database.performTried _ _

end Traffic
end ConnectionPool
