import ConnectionPool.Proofs.Checkouts
import ConnectionPool.Proofs.Selection
import ConnectionPool.Proofs.Signals

/-! What becomes of a connection that its holder returns while it is still valid. It is kept for reuse if
it is open, the pool has a use for it, and what may be pending on it can be rolled back; otherwise it is
closed, if it is not closed already. Nobody is told which of these it was, but for one counter. -/
namespace ConnectionPool

variable {σ : Type} [Conditions σ]

def World.RollsBack (w : World σ) (c : Nat) : Prop :=
  ∃ flag read, Database.autoCommit c w = (.ok flag, read) ∧
    (flag = true ∨ ∃ later, Database.rollback c read = (.ok (), later))

theorem Entry.rollbackIff {e : Entry} {w : World σ} :
    (e.rollbackIfNeeded w).1.isOk = true ↔ w.RollsBack e.connection := by
  constructor
  · intro ok
    cases rolled : e.rollbackIfNeeded w with
    | mk r later =>
      rw [rolled] at ok
      cases r with
      | error => cases ok
      | ok =>
        obtain ⟨flag, read, asking, rest⟩ := Action.bindSucceeds rolled
        cases flag with
        | true => exact ⟨true, read, asking, .inl rfl⟩
        | false => exact ⟨false, read, asking, .inr ⟨later, rest⟩⟩
  · rintro ⟨flag, read, asking, settled⟩
    rw [rollbackIfNeeded, Action.bindOk asking]
    cases flag with
    | true => rfl
    | false =>
      obtain ⟨later, rolled⟩ := settled.resolve_left Bool.false_ne_true
      change (Database.rollback e.connection read).1.isOk = true
      rw [rolled]
      rfl

namespace Pool

variable {p : Pool} {e : Entry} {w : World σ}

structure HasUse (p : Pool) (e : Entry) : Prop where
  running : p.shutDown = false
  room : p.idle.length < p.config.maxIdle.toNat
  target : e.typeCode = p.expectedCode

structure Keeps (p : Pool) (e : Entry) (w : World σ) : Prop where
  usable : w.isClosed e.connection = false
  use : p.HasUse e
  settled : w.RollsBack e.connection

def Spoils (p : Pool) (e : Entry) (w : World σ) : Prop :=
  w.isClosed e.connection = true ∨ p.HasUse e ∧ ¬w.RollsBack e.connection

omit [Conditions σ] in
theorem reusableIff : p.reusable e = true ↔ p.HasUse e := by
  simp only [reusable, Bool.and_eq_true, Bool.not_eq_true', decide_eq_true_eq, beq_iff_eq]
  constructor
  · rintro ⟨⟨running, room⟩, target⟩
    exact ⟨running, room, target⟩
  · rintro ⟨running, room, target⟩
    exact ⟨⟨running, room⟩, target⟩

structure Replaces (p : Pool) (e k : Entry) : Prop where
  fresh : k.serial = p.serials
  connection : k.connection = e.connection
  identity : k.identity = e.identity
  typeCode : k.typeCode = e.typeCode
  createdAt : k.createdAt = e.createdAt
  lastUsedAt : k.lastUsedAt = e.lastUsedAt

structure Returned (p : Pool) (e : Entry) (w : World σ) (q : Pool) (later : World σ) : Prop where
  kept : p.Keeps e w → ∃ k, p.Replaces e k ∧ q.idle = p.idle ++ [k]
  lost : ¬p.Keeps e w → q.idle = p.idle ∧
    (w.isClosed e.connection = true ∨ w.Tried later (.close e.connection))
  spoilt : p.Spoils e w → q.tally.badConnections = p.tally.badConnections + 1
  unspoilt : ¬p.Spoils e w → q.tally.badConnections = p.tally.badConnections

theorem keepReturned (usable : w.isClosed e.connection = false) (use : p.HasUse e) :
    p.Returned e w ((p.without e w.clock).keep e w).1 ((p.without e w.clock).keep e w).2 := by
  unfold keep
  split
  · rename_i later rolled
    have settled : w.RollsBack e.connection := Entry.rollbackIff.mp (by rw [rolled]; rfl)
    have fine : ¬p.Spoils e w := by
      rintro (closed | ⟨_, pending⟩)
      · rw [usable] at closed; cases closed
      · exact pending settled
    exact ⟨fun _ => ⟨e.rewrap p.serials later.clock, ⟨rfl, rfl, rfl, rfl, rfl, rfl⟩, rfl⟩,
      fun not => absurd ⟨usable, use, settled⟩ not, fun spoils => absurd spoils fine, fun _ => rfl⟩
  · rename_i failed rolled
    have pending : ¬w.RollsBack e.connection := by
      intro settled
      have rolls := Entry.rollbackIff.mpr settled
      rw [rolled] at rolls
      cases rolls
    have growth := ((World.calledLaw.rollback e).of rolled).grows
    exact ⟨fun kept => absurd kept.settled pending,
      fun _ => ⟨rfl, .inr ((e.closeTried failed).earlier growth)⟩, fun _ => rfl,
      fun not => absurd (.inr ⟨use, pending⟩) not⟩

theorem releaseReturned (good : p.valid e = true) :
    p.Returned e w (p.release e w).1 (p.release e w).2 := by
  have back := releaseBack p e w
  generalize p.release e w = r at back
  cases back with
  | invalid bad => rw [bad] at good; cases good
  | closed _ closed =>
    have lost : ¬p.Keeps e w := by
      intro kept
      have usable := kept.usable
      rw [closed] at usable
      cases usable
    exact ⟨fun kept => absurd kept lost, fun _ => ⟨rfl, .inl closed⟩, fun _ => rfl,
      fun not => absurd (.inl closed) not⟩
  | kept _ usable reusable result =>
    have returned := keepReturned (p := p) usable (reusableIff.mp reusable)
    rw [result] at returned
    exact ⟨returned.kept, returned.lost, returned.spoilt, returned.unspoilt⟩
  | surplus _ usable useless =>
    have idle : ¬p.HasUse e := by
      intro use
      have reusable : p.reusable e = true := reusableIff.mpr use
      exact Bool.eq_false_iff.mp useless reusable
    have fine : ¬p.Spoils e w := by
      rintro (closed | ⟨use, _⟩)
      · rw [usable] at closed; cases closed
      · exact idle use
    exact ⟨fun kept => absurd kept.use idle, fun _ => ⟨rfl, .inr (e.closeTried w)⟩,
      fun spoils => absurd spoils fine, fun _ => rfl⟩

end Pool

def Handle.Quiet (h : Handle) (p : Pool) : Prop :=
  ∀ (st : Scenario.Stage) (number place : Nat), st.handle? number = some (place, p, h) →
    ∀ step : Scenario.HandleStep, step.givesBack = true →
      ∀ error, (st.handleStep number step).1 ≠ .failed error

theorem Handle.quiet {h : Handle} (out : h.released = false) (p : Pool) : h.Quiet p := by
  intro st number place found step gives error failed
  unfold Scenario.Stage.handleStep at failed
  rw [found] at failed
  cases step with
  | drop => cases failed
  | release receiver =>
    dsimp only at failed
    split at failed <;> cases failed
  | onConnection step =>
    cases step with
    | close =>
      dsimp only [Handle.close] at failed
      rw [out, if_neg Bool.false_ne_true] at failed
      cases failed
    | _ => cases gives
  | _ => cases gives

namespace Traffic

structure TakesBack (s : State σ) (number : Nat) (h : Handle) (t : State σ) : Prop where
  active : ∃ before after, s.pool.active = before ++ h.entry :: after ∧ t.pool.active = before ++ after
  valid : ∀ f, t.pool.valid f = true ↔ s.pool.valid f = true ∧ f.serial ≠ h.entry.serial
  handles : t.handles = s.handles.set number { h with released := true }
  kept : s.pool.Keeps h.entry s.world ↔ ∃ k, s.pool.Replaces h.entry k ∧
    (∀ f ∈ s.pool.idle ++ s.pool.active ++ s.handles.map (·.entry), f.serial ≠ k.serial) ∧
    t.pool.valid k = true ∧ t.pool.idle = s.pool.idle ++ [k]
  lost : ¬s.pool.Keeps h.entry s.world → t.pool.idle = s.pool.idle ∧
    (s.world.isClosed h.entry.connection = true ∨ s.world.Tried t.world (.close h.entry.connection))
  spoilt : s.pool.Spoils h.entry s.world →
    t.pool.tally.badConnections = s.pool.tally.badConnections + 1
  unspoilt : ¬s.pool.Spoils h.entry s.world →
    t.pool.tally.badConnections = s.pool.tally.badConnections
  signals : t.pool.signals = s.pool.signals + 1
  woken : t.waiters = s.waiters ∧ ∀ y ∈ t.waiters, y.heard < t.pool.signals
  answered : (h.close s.pool s.world).1 = .ok ()
  comesBack : h.ComesBack s.pool
  quiet : h.Quiet s.pool

namespace State

variable {s : State σ} {number : Nat} {h : Handle}

theorem stepReleased (found : s.handles[number]? = some h) (out : h.released = false) :
    s.step (.giveBack number) = { s with
      pool := (s.pool.release h.entry s.world).1
      world := (s.pool.release h.entry s.world).2
      handles := s.handles.set number { h with released := true } } := by
  simp only [step, found, Handle.giveBack, out, if_neg Bool.false_ne_true]

theorem serialsOlder {history : List (Moment σ)} (kept : s.Kept history) {f : Entry}
    (member : f ∈ s.pool.idle ++ s.pool.active ++ s.handles.map (·.entry)) :
    f.serial < s.pool.serials := by
  rcases List.mem_append.mp member with pooled | issued
  · exact kept.ledger.issued _ (List.mem_map_of_mem pooled)
  · obtain ⟨x, among, rfl⟩ := List.mem_map.mp issued
    exact kept.issued.known x among

end State

theorem returnCharacterised {source : Source} {config : Config} {world : World σ}
    {history : List (Moment σ)} {s : State σ} (run : Run (.start source config world) history s)
    {number : Nat} {h : Handle} (found : s.handles[number]? = some h)
    (held : h.valid s.pool = true) : TakesBack s number h (s.step (.giveBack number)) := by
  have kept := State.kept run
  have member := List.mem_of_getElem? found
  obtain ⟨out, good⟩ : h.released = false ∧ s.pool.valid h.entry = true := by
    simpa [Handle.valid] using held
  have next := State.stepReleased found out
  obtain ⟨idle, tally, serials, pool, _⟩ := Pool.releaseValid (w := s.world) good
  have returned := Pool.releaseReturned (w := s.world) good
  obtain ⟨before, after, split, erased⟩ :=
    Pool.eraseSplit ((kept.handleValid member).mp held) kept.ledger.activeSerials
  have revoked (f : Entry) : (s.pool.release h.entry s.world).1.valid f = true ↔
      s.pool.valid f = true ∧ f.serial ≠ h.entry.serial := by
    rw [pool, Pool.validIff, Pool.validIff, List.mem_cons, not_or, and_comm]
  rw [next]
  exact {
    active := ⟨before, after, split, by rw [pool]; exact erased⟩
    valid := revoked
    handles := rfl
    kept := by
      constructor
      · intro keeps
        obtain ⟨k, again, idle⟩ := returned.kept keeps
        have fresh := again.fresh
        -- Its serial is the next one, which no entry so far has, whether it is pooled, issued or revoked.
        refine ⟨k, again, fun f there => ?_, (revoked k).mpr ⟨?_, ?_⟩, idle⟩
        · exact fresh ▸ Nat.ne_of_lt (State.serialsOlder kept there)
        · rw [Pool.validIff, fresh]
          exact fun old => Nat.lt_irrefl _ (kept.ledger.past _ old)
        · exact fresh ▸ Nat.ne_of_gt (kept.issued.known h member)
      · rintro ⟨k, _, _, _, idle⟩
        by_contra lost
        rw [(returned.lost lost).1] at idle
        simp at idle
    lost := returned.lost
    spoilt := returned.spoilt
    unspoilt := returned.unspoilt
    signals := by rw [pool]
    woken := by
      rw [pool]
      exact ⟨rfl, fun y waits => Nat.lt_succ_of_le (State.unheard run waits).1⟩
    answered := by rw [Handle.close, out, if_neg Bool.false_ne_true]
    comesBack := h.comesBack s.pool
    quiet := Handle.quiet out s.pool }

def pendingTwice : List (Event Scenario.Plan) :=
  [.acquireDefault, .acquireDefault, .use 0 (.setAutoCommit false), .use 1 (.setAutoCommit false)]

def rollbackLost : Event Scenario.Plan :=
  .meanwhile 1 ⟨[(⟨some 1, .rollback⟩, ⟨.connection "lost", none⟩)], [], 0⟩

theorem returnCharacterisedPending :
    let s := (State.paired.after pendingTwice).step rollbackLost
    let t := s.step (.giveBack 0)
    ∃ h k : Handle, s.handles[0]? = some h ∧ t.handles[1]? = some k ∧
      s.pool.Keeps h.entry s.world ∧ (∃ e, s.pool.Replaces h.entry e ∧ t.pool.idle = [e]) ∧
      t.pool.Spoils k.entry t.world ∧ (t.step (.giveBack 1)).pool.idle = t.pool.idle ∧
      (t.step (.giveBack 1)).pool.tally.badConnections = 1 := by
  intro s t
  have before : Run State.paired _ s :=
    (State.paired.run (by simp [pendingTwice, State.Possible])).more _
      (State.meanwhilePossible _ _ _)
  have run : Run State.paired _ t := before.more (.giveBack 0) trivial
  obtain ⟨h, first⟩ := Option.isSome_iff_exists.mp (by decide +kernel : s.handles[0]?.isSome)
  obtain ⟨k, second⟩ := Option.isSome_iff_exists.mp (by decide +kernel : t.handles[1]?.isSome)
  have heldFirst : ∀ h ∈ s.handles[0]?, h.valid s.pool = true ∧
      s.world.isClosed h.entry.connection = false ∧ s.pool.reusable h.entry = true ∧
      (h.entry.rollbackIfNeeded s.world).1.isOk = true := by
    decide +kernel
  have heldSecond : ∀ k ∈ t.handles[1]?, k.valid t.pool = true ∧ t.pool.reusable k.entry = true ∧
      (k.entry.rollbackIfNeeded t.world).1.isOk = false := by
    decide +kernel
  have empty : s.pool.idle = [] ∧ t.pool.tally.badConnections = 0 := by decide +kernel
  obtain ⟨held, usable, use, rolled⟩ := heldFirst h first
  have keeps : s.pool.Keeps h.entry s.world :=
    ⟨usable, Pool.reusableIff.mp use, Entry.rollbackIff.mp rolled⟩
  obtain ⟨e, again, _, _, idle⟩ := (returnCharacterised before first held).kept.mp keeps
  rw [empty.1] at idle
  obtain ⟨held, use, failed⟩ := heldSecond k second
  have pending : ¬t.world.RollsBack k.entry.connection := fun settled => by
    rw [Entry.rollbackIff.mpr settled] at failed
    cases failed
  have spoils : t.pool.Spoils k.entry t.world := .inr ⟨Pool.reusableIff.mp use, pending⟩
  have taken := returnCharacterised run second held
  refine ⟨h, k, first, second, keeps, ⟨e, again, idle⟩, spoils,
    (taken.lost fun keeps => pending keeps.settled).1, ?_⟩
  rw [taken.spoilt spoils, empty.2]

end Traffic
end ConnectionPool
