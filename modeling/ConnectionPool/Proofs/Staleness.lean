import ConnectionPool.Proofs.Epochs
import ConnectionPool.Scenario.Stage

/-! Stale handles. A handle that was given back, or whose entry is invalid, leads nowhere any more,
whoever has its connection by now. If it was not given back before, to give it back is counted as a bad
connection, and nothing else comes of it; to give it back again changes nothing at all. -/
namespace ConnectionPool

namespace Handle

variable {σ : Type} [Conditions σ] {h : Handle} {p : Pool} {w : World σ}

structure Inert (h : Handle) (p : Pool) (w : World σ) : Prop where
  invalid : h.valid p = false
  closed : h.isClosed p w = true
  connection : h.connection p = .error .invalidHandle
  use : ∀ {α : Type} (action : Nat → Action σ α), h.use p action w = (.error .invalidHandle, w)
  validate : ∀ config, h.validate p config w = (false, w)
  ping : ∀ sql, h.ping p sql w = (.error .connectionClosed, w)

theorem inert (stale : h.valid p = false) : h.Inert p w := by
  have unusable : ¬h.valid p = true := Bool.eq_false_iff.mp stale
  refine ⟨stale, ?_, if_neg unusable, fun action => ?_, fun config => if_neg unusable,
    fun sql => if_neg unusable⟩
  · rw [isClosed, stale]
    rfl
  · rw [h.useIf, if_neg unusable]

theorem giveBackStale (out : h.released = false) (bad : p.valid h.entry = false)
    (absent : p.active.eraseP (·.serial == h.entry.serial) = p.active) :
    h.giveBack p w = ({ h with released := true }, p.countBad, w) ∧
      h.close p w = (.ok (), { h with released := true }, p.countBad, w) := by
  have given : h.giveBack p w = ({ h with released := true }, p.countBad, w) := by
    rw [giveBack, out, if_neg Bool.false_ne_true, Pool.releaseInvalid bad, absent]
  refine ⟨given, ?_⟩
  rw [close, out, if_neg Bool.false_ne_true, given]

end Handle

namespace Scenario

def HandleStep.givesBack : HandleStep → Bool
  | drop | release _ | onConnection .close => true
  | _ => false

theorem Stage.givenBack {st : Stage} {number place : Nat} {p : Pool} {h : Handle}
    (found : st.handle? number = some (place, p, h)) {step : HandleStep}
    (gives : step.givesBack = true) :
    (st.handleStep number step).2.pools = st.pools.set place (h.giveBack p st.world).2.1 ∧
      (st.handleStep number step).2.world = (h.giveBack p st.world).2.2 := by
  unfold handleStep
  rw [found]
  cases step with
  | drop => exact ⟨rfl, rfl⟩
  | release receiver => exact ⟨rfl, rfl⟩
  | onConnection step =>
    cases step with
    | close =>
      dsimp only [Handle.close]
      split
      · rename_i released
        rw [(Handle.giveBackAgain released).1]
        exact ⟨rfl, rfl⟩
      · exact ⟨rfl, rfl⟩
    | _ => cases gives
  | _ => cases gives

end Scenario

def Handle.Leaves (h : Handle) (p after : Pool) : Prop :=
  ∀ (st : Scenario.Stage) (number place : Nat), st.handle? number = some (place, p, h) →
    ∀ step : Scenario.HandleStep, step.givesBack = true →
      (st.handleStep number step).2.pools = st.pools.set place after ∧
      (st.handleStep number step).2.world = st.world

theorem Handle.leaves {h given : Handle} {p after : Pool}
    (gives : ∀ w : World Scenario.Plan, h.giveBack p w = (given, after, w)) : h.Leaves p after := by
  intro st number place found step back
  obtain ⟨pools, world⟩ := Scenario.Stage.givenBack found back
  rw [gives] at pools world
  exact ⟨pools, world⟩

namespace Traffic

variable {σ : Type} [Conditions σ]

namespace State

variable {s : State σ} {e : Event σ} {number : Nat} {h : Handle} {history : List (Moment σ)}

theorem givenBackReleased (found : s.handles[number]? = some h) :
    ∃ k, (s.step (.giveBack number)).handles[number]? = some k ∧ k.released = true := by
  refine ⟨(h.giveBack s.pool s.world).1, ?_, ?_⟩
  · simp only [step, found]
    exact List.getElem?_set_self (List.getElem?_eq_some_iff.mp found).1
  · unfold Handle.giveBack
    split
    · assumption
    · rfl

end State

theorem staleInert {source : Source} {config : Config} {world : World σ}
    {history : List (Moment σ)} {s : State σ} (run : Run (.start source config world) history s) :
    (∀ m ∈ history, ∀ (number : Nat) (h : Handle), m.next.handles[number]? = some h →
      h.valid m.next.pool = false → ∃ k : Handle, s.handles[number]? = some k ∧ k.entry = h.entry ∧
        (h.released = true → k.released = true) ∧ k.Inert s.pool s.world) ∧
    (∀ (number : Nat) (h : Handle), s.handles[number]? = some h → h.valid s.pool = false →
      h.released = false →
        s.step (.giveBack number) = { s with
          pool.tally.badConnections := s.pool.tally.badConnections + 1
          handles := s.handles.set number { h with released := true } } ∧
        h.close s.pool s.world = (.ok (), { h with released := true }, s.pool.countBad, s.world) ∧
        h.Leaves s.pool s.pool.countBad) ∧
    ∀ m ∈ history, ∀ (number : Nat) (h : Handle), m.event = .giveBack number →
      m.state.handles[number]? = some h → ∃ k : Handle, s.handles[number]? = some k ∧
        s.step (.giveBack number) = s ∧
        k.close s.pool s.world = (.error .alreadyClosed, k, s.pool, s.world) ∧
        k.Leaves s.pool s.pool := by
  refine ⟨fun m member number h found stale => ?_, fun number h found stale out => ?_,
    fun m member number h given found => ?_⟩
  · obtain ⟨k, there, entry, fades, released⟩ := State.handleLater run member found
    refine ⟨k, there, entry, released, Handle.inert (Bool.eq_false_iff.mpr fun good => ?_)⟩
    exact Bool.eq_false_iff.mp stale (fades good)
  · have bad : s.pool.valid h.entry = false := by
      rw [Handle.valid, out] at stale
      exact stale
    have absent := (State.kept run).ledger.absent bad
    have gives (τ : Type) [Conditions τ] (w : World τ) := h.giveBackStale (w := w) out bad absent
    refine ⟨?_, (gives σ s.world).2, Handle.leaves fun w => (gives _ w).1⟩
    simp only [State.step, found, (gives σ s.world).1]
    rfl
  · obtain ⟨m, e⟩ := m
    dsimp only at given found
    subst given
    obtain ⟨j, there, released⟩ := State.givenBackReleased found
    obtain ⟨k, now, _, _, kept⟩ := State.handleLater run member there
    have again (τ : Type) [Conditions τ] (w : World τ) :=
      Handle.giveBackAgain (p := s.pool) (w := w) (kept released)
    refine ⟨k, now, ?_, (again σ s.world).2, Handle.leaves fun w => (again _ w).1⟩
    obtain ⟨bound, rfl⟩ := List.getElem?_eq_some_iff.mp now
    simp only [State.step, now, (again σ s.world).1, List.set_getElem_self]

theorem takenOverPossible : ∀ e ∈ takenOver, ∀ t : State Scenario.Plan, t.Possible e :=
  List.forall_mem_cons.mpr ⟨fun _ => trivial, List.forall_mem_cons.mpr
    ⟨fun t => t.meanwhilePossible _ _, by simp [State.Possible]⟩⟩

theorem staleInertTakenOver :
    let t := State.small.after (takenOver.take 3)
    let s := State.small.after takenOver
    s.pool.tally.badConnections = t.pool.tally.badConnections + 1 ∧
    (∃ h k : Handle, s.handles[0]? = some h ∧ s.handles[1]? = some k ∧ k.valid s.pool = true ∧
      h.entry.connection = k.entry.connection ∧ h.Inert s.pool s.world) ∧
    s.step (.giveBack 0) = s := by
  intro t s
  have before : Run State.small (State.small.history (takenOver.take 3)) t :=
    State.small.run fun e member => takenOverPossible e (List.mem_of_mem_take member)
  have run : Run State.small (State.small.history takenOver) s := State.small.run takenOverPossible
  obtain ⟨h, first⟩ := Option.isSome_iff_exists.mp (by decide : t.handles[0]?.isSome)
  obtain ⟨k, second⟩ := Option.isSome_iff_exists.mp (by decide : s.handles[1]?.isSome)
  have stale : ∀ h ∈ t.handles[0]?, h.valid t.pool = false ∧ h.released = false := by decide
  have held : ∀ k ∈ s.handles[1]?, k.valid s.pool = true ∧ k.entry.connection = 0 := by decide
  have shared : ∀ h ∈ t.handles[0]?, h.entry.connection = 0 := by decide
  have counted := ((staleInert before).2.1 0 h first (stale h first).1 (stale h first).2).1
  obtain ⟨law, _, again⟩ := staleInert run
  obtain ⟨j, now, entry, _, inert⟩ := law _
    (List.mem_cons_of_mem _ (List.mem_cons_of_mem _ List.mem_cons_self)) 0 h first (stale h first).1
  obtain ⟨_, _, same, _⟩ := again ⟨t, .giveBack 0⟩ (List.mem_cons_of_mem _ (List.mem_cons_of_mem _
    (List.mem_cons_of_mem _ List.mem_cons_self))) 0 h rfl first
  refine ⟨congrArg (·.pool.tally.badConnections) counted, ⟨j, k, now, second, (held k second).1, ?_,
    inert⟩, same⟩
  rw [entry, shared h first, (held k second).2]

end Traffic
end ConnectionPool
