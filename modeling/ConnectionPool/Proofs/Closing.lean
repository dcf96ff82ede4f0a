import ConnectionPool.Proofs.Checkouts
import ConnectionPool.Proofs.Fitness
import ConnectionPool.Proofs.Selection
import ConnectionPool.Proofs.Signals

/-! What it takes to close all connections of a pool at once. Each of them is closed once, in a fixed
order, and none is left out because a call about it or about another one fails. -/
namespace ConnectionPool

def Call.closes? : Call → Option Nat
  | close c => some c
  | _ => none

variable {σ : Type}

inductive World.Closes (w : World σ) (c : Nat) : List CallRecord → Prop where
  | unread (failed : Bool) : w.Closes c [⟨.autoCommit c, true⟩, ⟨.close c, failed⟩]
  | settled (on : (w.session c).autoCommit = true) (failed : Bool) :
      w.Closes c [⟨.autoCommit c, false⟩, ⟨.close c, failed⟩]
  | pending (off : (w.session c).autoCommit = false) (stuck failed : Bool) :
      w.Closes c [⟨.autoCommit c, false⟩, ⟨.rollback c, stuck⟩, ⟨.close c, failed⟩]

theorem World.Closes.once {w : World σ} {c : Nat} {calls : List CallRecord} (h : w.Closes c calls) :
    calls.filterMap (·.call.closes?) = [c] := by
  cases h with
  | unread => rfl
  | settled => rfl
  | pending => rfl

theorem World.Closes.allOnce {w : World σ} {l : List Nat} {parts : List (List CallRecord)}
    (h : List.Forall₂ w.Closes l parts) : parts.flatten.filterMap (·.call.closes?) = l := by
  induction h with
  | nil => rfl
  | cons closes _ ih => rw [List.flatten_cons, List.filterMap_append, closes.once, ih]; rfl

theorem World.Closes.later {w later : World σ} {c : Nat} {calls : List CallRecord}
    (same : later.session c = w.session c) (h : later.Closes c calls) : w.Closes c calls := by
  cases h with
  | unread failed => exact .unread failed
  | settled on failed => exact .settled (same ▸ on) failed
  | pending off stuck failed => exact .pending (same ▸ off) stuck failed

variable [Conditions σ]

theorem World.sessionsLaw :
    World.ClosingLaw (fun w later : World σ => ∀ c, later.session c = w.session c) where
  refl _ _ := rfl
  trans first last c := (last c).trans (first c)
  perform call w c := (World.untouchedLaw.perform call w).session c
  lapse _ _ := rfl
  closing d w c := by
    simp only [session, connection?, update, List.getElem?_modify]
    cases w.connections[c]? with
    | none => rfl
    | some k =>
      by_cases same : d = c
      · simp [same]
      · simp [same]

theorem Database.closeTrace (c : Nat) (w : World σ) :
    ∃ failed, ((Database.close c).effect w).trace = w.trace ++ [⟨.close c, failed⟩] := by
  obtain ⟨failed, trace⟩ := performTrace (.close c) w
  refine ⟨failed, ?_⟩
  cases h : perform (.close c) w with
  | mk r later =>
    rw [h] at trace
    cases r with
    | error e => rw [Action.effect, close, Action.bindError h]; exact trace
    | ok u => rw [Action.effect, close, Action.bindOk h]; exact trace

theorem Entry.rollbackCalls (e : Entry) (w : World σ) :
    ∃ calls, (e.rollbackIfNeeded w).2.trace = w.trace ++ calls ∧
      ∀ failed, w.Closes e.connection (calls ++ [⟨.close e.connection, failed⟩]) := by
  cases asking : Database.perform (.autoCommit e.connection) w with
  | mk r read =>
    cases r with
    | error x =>
      have unread : e.rollbackIfNeeded w = (.error x, read) := Action.bindError (Action.bindError asking)
      rw [unread, Database.performError asking]
      exact ⟨_, rfl, .unread⟩
    | ok u =>
      have same := (World.untouchedLaw.perform (.autoCommit e.connection)).of asking
      have asked : Database.autoCommit e.connection w =
          (.ok (w.session e.connection).autoCommit, read) := by
        rw [← same.session]
        exact Action.bindOk asking
      rw [rollbackIfNeeded, Action.bindOk asked]
      cases flag : (w.session e.connection).autoCommit with
      | true => exact ⟨_, Database.performOk asking, .settled flag⟩
      | false =>
        obtain ⟨stuck, trace⟩ := Database.performTrace (.rollback e.connection) read
        rw [Database.performOk asking, List.append_assoc] at trace
        exact ⟨_, trace, .pending flag stuck⟩

theorem Entry.closeCalls (e : Entry) (w : World σ) :
    ∃ calls, w.Closes e.connection calls ∧ (e.close w).trace = w.trace ++ calls := by
  obtain ⟨calls, trace, closes⟩ := e.rollbackCalls w
  obtain ⟨failed, closed⟩ := Database.closeTrace e.connection (e.rollbackIfNeeded.effect w)
  refine ⟨_, closes failed, ?_⟩
  rw [← List.append_assoc, ← trace]
  exact closed

namespace Pool

def closingOrder (p : Pool) : List Nat := (p.active.reverse ++ p.idle.reverse).map Entry.connection

theorem discardAllCalls (l : List Entry) (p : Pool) (w : World σ) :
    ∃ parts, List.Forall₂ w.Closes (l.map Entry.connection) parts ∧
      (discardAll l p w).2.trace = w.trace ++ parts.flatten := by
  induction l generalizing p w with
  | nil => exact ⟨[], .nil, (List.append_nil _).symm⟩
  | cons e l ih =>
    obtain ⟨calls, closes, trace⟩ := e.closeCalls w
    obtain ⟨parts, rest, more⟩ := ih (p.revoke e) (e.close w)
    have same := World.sessionsLaw.closeEntry e w
    -- Closing the first one leaves all sessions as they were, so the rest can be read against `w` too.
    refine ⟨calls :: parts, .cons closes (rest.imp fun _ _ => World.Closes.later (same _)), ?_⟩
    rw [List.flatten_cons, ← List.append_assoc, ← trace]
    exact more

end Pool

namespace Traffic

def Event.change {σ : Type} : Event σ → Pool → Pool
  | set setting, p => setting.apply p
  | shutdown, p => { p with shutDown := true }
  | _, p => p

namespace State

variable {s : State σ} {e : Event σ} {history : List (Moment σ)} {source : Source} {config : Config}
  {world : World σ}

theorem stepEmptied (empties : e.empties = true) : s.step e = s.onPool (Pool.reconfigure e.change) := by
  cases e with
  | set setting =>
    cases setting with
    | badTolerance => cases empties
    | _ => rfl
  | forceCloseAll => rfl
  | shutdown => rfl
  | _ => cases empties

omit [Conditions σ] in
theorem changeKeeps (e : Event σ) (p : Pool) : (e.change p).idle = p.idle ∧
    (e.change p).active = p.active ∧ (e.change p).signals = p.signals ∧ (e.change p).tally = p.tally := by
  cases e with
  | set setting => cases setting <;> exact ⟨rfl, rfl, rfl, rfl⟩
  | _ => exact ⟨rfl, rfl, rfl, rfl⟩

theorem closesNothing (idle : s.pool.idle = []) (active : s.pool.active = []) :
    (s.step .forceCloseAll).world = s.world := by
  change (Pool.discardAll (s.pool.active.reverse ++ s.pool.idle.reverse) _ s.world).2 = s.world
  rw [active, idle]
  rfl

theorem startedStep (run : Run (.start source config world) history s) (possible : s.Possible e)
    (before : s.pool.active.Sublist (started history)) :
    (s.step e).pool.active.Sublist (started history ++ (Moment.mk s e).started) := by
  cases found : s.pursuit? e with
  | none =>
    have fewer := quietActive possible found
    exact (fewer.trans before).trans (List.sublist_append_left _ _)
  | some x =>
    obtain ⟨_, _, _, held, r, took, active, _⟩ := pursuitBegins run found
    obtain ⟨time, pool⟩ := pursuitPool found
    have taken : s.pool.active = held ++ r.active := by
      have taken := took.active
      rw [pool] at taken
      exact taken
    have fewer : r.active.Sublist s.pool.active := taken ▸ List.sublist_append_right held r.active
    rw [active]
    exact (fewer.trans before).append_right _

theorem startedKept (run : Run (.start source config world) history s) :
    s.pool.active.Sublist (started history) := by
  induction run with
  | none => exact List.nil_sublist _
  | @more history s before e possible ih =>
    rw [started, List.flatMap_append, List.flatMap_singleton]
    exact startedStep before possible ih

end State

structure ClosesAll (history : List (Moment σ)) (m : Moment σ) : Prop where
  idle : m.next.pool.idle = []
  active : m.next.pool.active = []
  handles : m.next.handles = m.state.handles ∧ ∀ h ∈ m.next.handles, h.valid m.next.pool = false
  checkouts : m.state.pool.active.Sublist (started history)
  returned : m.state.pool.idle.map Entry.connection <:+ returns history
  calls : ∃ parts, List.Forall₂ m.state.world.Closes m.state.pool.closingOrder parts ∧
    m.next.world.trace = m.state.world.trace ++ parts.flatten
  closes : (m.next.world.trace.drop m.state.world.trace.length).filterMap (·.call.closes?) =
    m.state.pool.closingOrder
  once : m.state.pool.closingOrder.Nodup
  tally : m.next.pool.tally = m.state.pool.tally
  signals : m.next.pool.signals = m.state.pool.signals + 1
  woken : m.next.waiters = m.state.waiters ∧ ∀ y ∈ m.next.waiters, y.heard < m.next.pool.signals
  config : m.next.pool.config = (m.event.change m.state.pool).config
  source : m.next.pool.source = (m.event.change m.state.pool).source
  shutDown : m.next.pool.shutDown = (m.event.change m.state.pool).shutDown
  code : m.next.pool.expectedCode =
    typeCode m.next.pool.source.url m.next.pool.source.username m.next.pool.source.password
  again : (m.next.step .forceCloseAll).world = m.next.world

theorem emptyingComplete {source : Source} {config : Config} {world : World σ}
    {history : List (Moment σ)} {s : State σ} (run : Run (.start source config world) history s)
    {e : Event σ} (empties : e.empties = true) : ClosesAll history ⟨s, e⟩ := by
  have next : s.step e = s.onPool (Pool.reconfigure e.change) := State.stepEmptied empties
  obtain ⟨idle, active, signals, tally⟩ := State.changeKeeps e s.pool
  obtain ⟨revoked, pool⟩ := s.pool.reconfigurePool e.change s.world
  rw [signals] at pool
  have emptied := State.kept (run.more e (State.insidePossible (State.emptiesInside empties)))
  obtain ⟨parts, closes, trace⟩ := Pool.discardAllCalls (s.pool.active.reverse ++ s.pool.idle.reverse)
    { (e.change s.pool).refreshCode with active := [], idle := [] } s.world
  have trace : (s.step e).world.trace = s.world.trace ++ parts.flatten := by
    rw [next, ← trace, ← active, ← idle]
    rfl
  have pool : (s.step e).pool = { (e.change s.pool).refreshCode with
      active := [], idle := [], revoked := revoked, signals := s.pool.signals + 1 } := next ▸ pool
  have gone : (s.step e).pool.idle = [] ∧ (s.step e).pool.active = [] := by
    rw [pool]
    exact ⟨rfl, rfl⟩
  exact {
    idle := gone.1
    active := gone.2
    handles := by
      refine ⟨by rw [Moment.next, next]; rfl, fun h member => Bool.eq_false_iff.mpr fun good => ?_⟩
      have out := (emptied.handleValid member).mp good
      rw [gone.2] at out
      cases out
    checkouts := State.startedKept run
    returned := State.returnsKept run
    calls := ⟨parts, closes, trace⟩
    closes := by
      rw [Moment.next, trace, List.drop_left]
      exact World.Closes.allOnce closes
    once := by
      refine (List.Perm.nodup_iff (List.Perm.map _ ?_)).mpr (State.kept run).ledger.connections
      exact (s.pool.active.reverse_perm.append s.pool.idle.reverse_perm).trans List.perm_append_comm
    tally := (congrArg Pool.tally pool).trans tally
    signals := congrArg Pool.signals pool
    woken := by
      rw [Moment.next, pool, next]
      exact ⟨rfl, fun y waits => Nat.lt_succ_of_le (State.unheard run waits).1⟩
    config := by rw [Moment.next, pool]; rfl
    source := by rw [Moment.next, pool]; rfl
    shutDown := by rw [Moment.next, pool]; rfl
    code := by rw [Moment.next, pool]; rfl
    again := State.closesNothing gone.1 gone.2 }

def occupied : List (Event Scenario.Plan) :=
  [.set (.maxActive 3), .acquireDefault, .acquireDefault, .acquireDefault,
    .use 0 (.setAutoCommit false), .giveBack 2]

def outage : Event Scenario.Plan :=
  .meanwhile 1 ⟨[(⟨some 0, .rollback⟩, ⟨.connection "lost", none⟩),
    (⟨some 0, .close⟩, ⟨.connection "lost", none⟩),
    (⟨some 1, .autoCommit⟩, ⟨.connection "lost", none⟩)], [], 0⟩

theorem emptyingCompleteOutage :
    let s := (State.paired.after occupied).step outage
    let t := s.step .shutdown
    t.pool.idle = [] ∧ t.pool.active = [] ∧ t.pool.shutDown = true ∧
      (∃ parts, List.Forall₂ s.world.Closes [1, 0, 2] parts ∧
        t.world.trace = s.world.trace ++ parts.flatten) ∧
      (s.world.session 0).autoCommit = false ∧ (s.world.session 1).autoCommit = true ∧
      (s.handles.map (·.valid s.pool) = [true, true, false]) ∧
      ∀ h ∈ t.handles, h.valid t.pool = false := by
  intro s t
  have run : Run State.paired _ s :=
    (State.paired.run (by simp [occupied, State.Possible])).more _ (State.meanwhilePossible _ _ _)
  have closed := emptyingComplete run (e := .shutdown) rfl
  have order : s.pool.closingOrder = [1, 0, 2] := by decide +kernel
  have calls := closed.calls
  dsimp only at calls
  rw [order] at calls
  exact ⟨closed.idle, closed.active, closed.shutDown, calls, by decide +kernel, by decide +kernel,
    by decide +kernel, closed.handles.2⟩

end Traffic
end ConnectionPool
