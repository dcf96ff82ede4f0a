import ConnectionPool.Proofs.Signals
import ConnectionPool.Proofs.Staleness

/-! The end of a pool. A pool that was shut down has no connections and gets none any more. Those who
wait have been signalled and are turned away, as is everybody who comes later, and whatever is still
done with the pool or with old handles of it reaches no driver. -/
namespace ConnectionPool

namespace Pool

structure Stopped (p : Pool) : Prop where
  shutDown : p.shutDown = true
  idle : p.idle = []
  active : p.active = []

theorem Setting.applyStopped (setting : Setting) {p : Pool} (h : p.Stopped) :
    (setting.apply p).Stopped := by
  cases setting <;> exact ⟨h.shutDown, h.idle, h.active⟩

variable {σ : Type} [Conditions σ] {p : Pool}

theorem shutdownStops (p : Pool) (w : World σ) : (p.shutdown w).1.Stopped := by
  obtain ⟨_, pool⟩ := p.reconfigurePool (fun p => { p with shutDown := true }) w
  change (p.reconfigure (fun p => { p with shutDown := true }) w).1.Stopped
  rw [pool]
  exact ⟨rfl, rfl, rfl⟩

theorem Stopped.resume (h : p.Stopped) (a : Attempt) (w : World σ) :
    p.resume a w = (.failed .poolClosed, p, w) := by
  rw [Pool.resume, pursue.eq_def, if_pos h.shutDown]

theorem Stopped.forceCloseAll (h : p.Stopped) (w : World σ) :
    (p.forceCloseAll w).1.Stopped ∧ (p.forceCloseAll w).2 = w := by
  simp only [Pool.forceCloseAll, closeAll, h.active, h.idle]
  exact ⟨⟨h.shutDown, rfl, rfl⟩, rfl⟩

theorem Stopped.set (h : p.Stopped) (setting : Setting) (w : World σ) :
    (p.set setting w).1.Stopped ∧ (p.set setting w).2 = w := by
  have applied := setting.applyStopped h
  unfold Pool.set
  split
  · exact ⟨applied, rfl⟩
  · exact applied.forceCloseAll w

theorem Stopped.giveBack (h : p.Stopped) {x : Handle} (stale : x.valid p = false) (w : World σ) :
    (x.giveBack p w).2.1.Stopped ∧ (x.giveBack p w).2.2 = w := by
  cases released : x.released with
  | true =>
    rw [(Handle.giveBackAgain released).1]
    exact ⟨h, rfl⟩
  | false =>
    have bad : p.valid x.entry = false := by
      rw [Handle.valid, released] at stale
      exact stale
    rw [(Handle.giveBackStale released bad (by rw [h.active]; rfl)).1]
    exact ⟨⟨h.shutDown, h.idle, h.active⟩, rfl⟩

end Pool

namespace Traffic

variable {σ : Type} [Conditions σ]

namespace State

variable {s : State σ} {e : Event σ} {history : List (Moment σ)}

theorem stoppedHandles (kept : s.Kept history) (h : s.pool.Stopped) :
    ∀ x ∈ s.handles, x.valid s.pool = false := by
  intro x member
  refine Bool.eq_false_iff.mpr fun good => ?_
  have active := (kept.handleValid member).mp good
  rw [h.active] at active
  cases active

theorem stoppedPursuit (h : s.pool.Stopped) {x : Pursuit} (found : s.pursuit? e = some x) :
    x.pool.Stopped ∧ x.pool.resume x.attempt s.world = (.failed .poolClosed, x.pool, s.world) := by
  obtain ⟨time, pool⟩ := pursuitPool found
  have stopped : x.pool.Stopped := by
    rw [pool]
    exact ⟨h.shutDown, h.idle, h.active⟩
  exact ⟨stopped, stopped.resume x.attempt s.world⟩

theorem stoppedStep (kept : s.Kept history) (h : s.pool.Stopped) (e : Event σ) :
    (s.step e).pool.Stopped ∧ (e.Inside → (s.step e).world = s.world) := by
  cases going : s.pursuit? e with
  | some x =>
    obtain ⟨stopped, result⟩ := stoppedPursuit h going
    rw [stepPursuit going, (settlePool _ _ _).1, (settlePool _ _ _).2, result]
    exact ⟨stopped, fun _ => rfl⟩
  | none =>
    have inert {number : Nat} {x : Handle} (found : s.handles[number]? = some x) :
        x.Inert s.pool s.world := Handle.inert (stoppedHandles kept h x (List.mem_of_getElem? found))
    cases e with
    | acquire | acquireDefault => cases going
    | wake number =>
      have found : s.waiter? number = none := Option.map_eq_none_iff.mp going
      simp only [step, found]
      exact ⟨h, fun _ => trivial⟩
    | giveBack number =>
      cases found : s.handles[number]? with
      | none => simp only [step, found]; exact ⟨h, fun _ => trivial⟩
      | some x =>
        have given := h.giveBack (inert found).invalid s.world
        simp only [step, found]
        exact ⟨given.1, fun _ => given.2⟩
    | validate number config =>
      cases found : s.handles[number]? with
      | none => simp only [step, found]; exact ⟨h, fun _ => trivial⟩
      | some x => simp only [step, found, (inert found).validate]; exact ⟨h, fun _ => trivial⟩
    | use number operation =>
      cases found : s.handles[number]? with
      | none => simp only [step, found]; exact ⟨h, fun _ => trivial⟩
      | some x =>
        simp only [step, found, Action.effect, (inert found).use]
        exact ⟨h, fun _ => trivial⟩
    | ping number sql =>
      cases found : s.handles[number]? with
      | none => simp only [step, found]; exact ⟨h, fun _ => trivial⟩
      | some x => simp only [step, found, (inert found).ping]; exact ⟨h, fun _ => trivial⟩
    | set setting =>
      obtain ⟨stopped, world⟩ := h.set setting s.world
      exact ⟨stopped, fun _ => world⟩
    | forceCloseAll =>
      obtain ⟨stopped, world⟩ := h.forceCloseAll s.world
      exact ⟨stopped, fun _ => world⟩
    | shutdown =>
      have shut : Pool.Stopped { s.pool with shutDown := true } := ⟨rfl, h.idle, h.active⟩
      obtain ⟨stopped, world⟩ := shut.forceCloseAll s.world
      exact ⟨stopped, fun _ => world⟩
    | outside change => exact ⟨h, fun inside => inside.elim⟩

theorem stoppedWaiters {source : Source} {config : Config} {world : World σ}
    (run : Run (.start source config world) history s) {m : Moment σ} (member : m ∈ history)
    (shut : m.event = .shutdown) :
    s.pool.Stopped ∧ ∀ y ∈ s.waiters, y ∈ m.state.waiters ∧ y.heard < s.pool.signals := by
  induction run with
  | none => cases member
  | @more history s before e possible ih =>
    rcases List.mem_append.mp member with earlier | latest
    · obtain ⟨stopped, signalled⟩ := ih earlier
      refine ⟨(stoppedStep (kept before) stopped e).1, fun y waits => ?_⟩
      have old : y ∈ s.waiters := by
        rcases waitersStep (s.course e possible) waits with old | ⟨_, _, x, found, _⟩
        · exact old
        · rw [stepPursuit found, (stoppedPursuit stopped found).2] at waits
          exact enterWaiters waits
      obtain ⟨since, heard⟩ := signalled y old
      exact ⟨since, Nat.lt_of_lt_of_le heard (signalsGrow (kept before) possible)⟩
    · cases List.mem_singleton.mp latest
      dsimp only at shut
      subst shut
      refine ⟨Pool.shutdownStops s.pool s.world, fun y waits => ?_⟩
      obtain ⟨_, pool⟩ := s.pool.reconfigurePool (fun p => { p with shutDown := true }) s.world
      have signals : (s.step .shutdown).pool.signals = s.pool.signals + 1 := congrArg (·.signals) pool
      rw [signals]
      exact ⟨waits, Nat.lt_succ_of_le (unheard before waits).1⟩

end State

theorem stoppedForGood {source : Source} {config : Config} {world : World σ}
    {history : List (Moment σ)} {s : State σ} (run : Run (.start source config world) history s)
    {m : Moment σ} (member : m ∈ history) (shut : m.event = .shutdown) :
    s.pool.Stopped ∧ (∀ h ∈ s.handles, h.Inert s.pool s.world) ∧
    (∀ y ∈ s.waiters, y ∈ m.state.waiters ∧ y.heard < s.pool.signals) ∧
    ∀ e : Event σ, (∀ x, s.pursuit? e = some x →
        x.pool.resume x.attempt s.world = (.failed .poolClosed, x.pool, s.world)) ∧
      (e.Inside → (s.step e).world = s.world) := by
  obtain ⟨stopped, waiters⟩ := State.stoppedWaiters run member shut
  have custody := State.kept run
  refine ⟨stopped, fun h found => ?_, waiters, fun e => ⟨fun x found => ?_, ?_⟩⟩
  · exact Handle.inert (State.stoppedHandles custody stopped h found)
  · exact (State.stoppedPursuit stopped found).2
  · exact (State.stoppedStep custody stopped e).2

theorem stoppedForGoodWaiting :
    let s := State.small.after (waiting ++ [.shutdown, .giveBack 0])
    s.pool.Stopped ∧ (∃ y ∈ s.waiters, y.heard < s.pool.signals) ∧
      (∃ x, s.pursuit? (.wake 1) = some x ∧
        x.pool.resume x.attempt s.world = (.failed .poolClosed, x.pool, s.world)) ∧
      s.world.isClosed 0 = true ∧ (s.step (.use 0 .rollback)).world = s.world := by
  intro s
  have run : Run State.small (State.small.history (waiting ++ [.shutdown, .giveBack 0])) s :=
    State.small.run (by simp [waiting, State.Possible])
  obtain ⟨stopped, _, signalled, law⟩ := stoppedForGood run (m := ⟨State.small.after waiting, .shutdown⟩)
    (List.mem_cons_of_mem _ (List.mem_cons_of_mem _ List.mem_cons_self)) rfl
  obtain ⟨y, waits⟩ := List.exists_mem_of_ne_nil s.waiters (by decide)
  obtain ⟨x, found⟩ := Option.isSome_iff_exists.mp (by decide : (s.pursuit? (.wake 1)).isSome)
  exact ⟨stopped, ⟨y, waits, (signalled y waits).2⟩, ⟨x, found, (law (.wake 1)).1 x found⟩,
    by decide, (law (.use 0 .rollback)).2 trivial⟩

end Traffic
end ConnectionPool
