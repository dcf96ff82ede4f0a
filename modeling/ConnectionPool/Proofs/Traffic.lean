import ConnectionPool.Pool.Acquire
import ConnectionPool.Pool.Handle
import ConnectionPool.Proofs.Growth
import ConnectionPool.Scenario.Plan

/-! A pool in the hands of any number of threads. Each critical section of the pool is one event. An
acquire that waits is between two of its sections: any other events may come before the one that
wakes it, and others may do to the world what they like meanwhile. A run is a sequence of events with
the states in which they occurred, so that what a law says of the past is read off the history. -/
namespace ConnectionPool

section Laws

variable {σ α : Type} [Conditions σ] {R : World σ → World σ → Prop}

omit [Conditions σ] in
theorem Handle.useIf (h : Handle) (p : Pool) (action : Nat → Action σ α) (w : World σ) :
    h.use p action w =
      if h.valid p then action h.entry.connection w else (.error .invalidHandle, w) := by
  unfold Handle.use Handle.connection
  split <;> rfl

theorem World.Law.use (law : World.Law R) (h : Handle) (p : Pool) {action : Nat → Action σ α}
    (keeps : (action h.entry.connection).Keeps R) : (h.use p action).Keeps R := by
  intro w
  rw [h.useIf]
  split
  · exact keeps w
  · exact law.refl w

theorem World.Law.pingHandle (law : World.Law R) (h : Handle) (p : Pool) (sql : String) (w : World σ) :
    R w (h.ping p sql w).2 := by
  unfold Handle.ping
  split
  · exact law.ping _ _ _
  · exact law.refl w

theorem World.ClosingLaw.validate (law : World.ClosingLaw R) (h : Handle) (p : Pool) (config : Config)
    (w : World σ) : R w (h.validate p config w).2 := by
  unfold Handle.validate
  split
  · exact law.probeEntry h.entry config w
  · exact law.refl w

end Laws

def Pool.KeepsEntries (change : Pool → Pool) : Prop :=
  ∀ p, (change p).idle = p.idle ∧ (change p).active = p.active ∧ (change p).serials = p.serials ∧
    (change p).revoked = p.revoked ∧ (change p).signals = p.signals

theorem Pool.Setting.applyAllows (setting : Pool.Setting) {p : Pool}
    (one : 1 ≤ p.config.maxActive.toNat) : 1 ≤ (setting.apply p).config.maxActive.toNat := by
  cases setting with
  | maxActive n => exact p.config.allowsOne n
  | _ => exact one

namespace Traffic

inductive Operation where
  | createStatement
  | query (sql : String) (params : List Value)
  | execute (sql : String) (params : List Value)
  | autoCommit
  | setAutoCommit (value : Bool)
  | isolation
  | setIsolation (level : Isolation)
  | commit
  | rollback

/-- One critical section of a pool, one use of a handle, or what happens outside. -/
inductive Event (σ : Type) where
  | acquire (username password : Option String) (deadline : Option Nat)
  | acquireDefault
  /-- An acquire that waits goes on, for a signal, at its time limit or for no reason. -/
  | wake (number : Nat)
  | giveBack (handle : Nat)
  | validate (handle : Nat) (config : Config)
  | use (handle : Nat) (operation : Operation)
  | ping (handle : Nat) (sql : String)
  | set (setting : Pool.Setting)
  | forceCloseAll
  | shutdown
  | outside (change : World σ → World σ)

def Event.meanwhile {σ : Type} (nanos : Nat) (conditions : σ) : Event σ :=
  .outside fun w => { w.pass nanos with conditions := conditions }

def Event.Inside {σ : Type} : Event σ → Prop
  | outside _ => False
  | _ => True

structure Waiter where
  number : Nat
  attempt : Attempt
  since : Nat
  limit : Option Nat
  heard : Nat
  deriving DecidableEq, Repr

structure State (σ : Type) where
  pool : Pool
  world : World σ
  handles : List Handle := []
  waiters : List Waiter := []
  acquires : Nat := 0

structure Pursuit where
  number : Nat
  attempt : Attempt
  pool : Pool

variable {σ : Type}

namespace State

def start (source : Source) (config : Config) (world : World σ) : State σ where
  pool := .new source config
  world := world

def waiter? (s : State σ) (number : Nat) : Option Waiter := s.waiters.find? (·.number == number)

def withoutWaiter (s : State σ) (number : Nat) : State σ :=
  { s with waiters := s.waiters.filter (·.number != number) }

def settle (s : State σ) (number : Nat) : Outcome × Pool × World σ → State σ
  | (.granted e, p, w) => { s with pool := p, world := w, handles := s.handles ++ [.new e] }
  | (.failed _, p, w) => { s with pool := p, world := w }
  | (.waiting a since limit, p, w) =>
    { s with pool := p, world := w, waiters := s.waiters ++ [⟨number, a, since, limit, p.signals⟩] }

def onPool (s : State σ) (operation : Pool → World σ → Pool × World σ) : State σ :=
  match operation s.pool s.world with
  | (p, w) => { s with pool := p, world := w }

end State

variable [Conditions σ]

def Operation.on (c : Nat) : Operation → Action σ Unit
  | createStatement => Database.createStatement c
  | query sql params => do let _ ← Database.query c sql params
  | execute sql params => do let _ ← Database.execute c sql params
  | autoCommit => do let _ ← Database.autoCommit c
  | setAutoCommit value => Database.setAutoCommit c value
  | isolation => do let _ ← Database.isolation c
  | setIsolation level => Database.setIsolation c level
  | commit => Database.commit c
  | rollback => Database.rollback c

def Operation.tune : Operation → Session → Session
  | setAutoCommit value, s => { s with autoCommit := value }
  | setIsolation level, s => { s with isolation := some level }
  | _, s => s

theorem Operation.keeps {R : World σ → World σ → Prop} (law : World.Law R) (o : Operation) {c : Nat}
    (tuning : ∀ w : World σ, R w (w.tune c o.tune)) : (o.on c : Action σ Unit).Keeps R := by
  cases o with
  | createStatement => exact law.perform _
  | query sql params =>
    exact law.bind (law.withStatement c (law.executeQuery c sql params)) fun _ => law.pure _
  | execute sql params =>
    exact law.bind (law.withStatement c (law.executeUpdate c sql params)) fun _ => law.pure _
  | autoCommit => exact law.bind (law.autoCommit c) fun _ => law.pure _
  | setAutoCommit value => exact law.setAutoCommit tuning
  | isolation => exact law.bind (law.isolation c) fun _ => law.pure _
  | setIsolation level => exact law.setIsolation tuning
  | commit => exact law.perform _
  | rollback => exact law.perform _

theorem Operation.calls (o : Operation) (c : Nat) : (o.on c : Action σ Unit).Calls :=
  o.keeps World.calledLaw.toLaw (World.calledTune c o.tune)

namespace State

def step (s : State σ) : Event σ → State σ
  | .acquire username password deadline =>
    { s with acquires := s.acquires + 1 }.settle s.acquires
      (s.pool.acquire username password deadline s.world)
  | .acquireDefault =>
    { s with acquires := s.acquires + 1 }.settle s.acquires (s.pool.acquireDefault s.world)
  | .wake number =>
    match s.waiter? number with
    | none => s
    | some x => (s.withoutWaiter number).settle number (s.pool.wake x.attempt x.since s.world)
  | .giveBack number =>
    match s.handles[number]? with
    | none => s
    | some h =>
      match h.giveBack s.pool s.world with
      | (h, p, w) => { s with pool := p, world := w, handles := s.handles.set number h }
  | .validate number config =>
    match s.handles[number]? with
    | none => s
    | some h => { s with world := (h.validate s.pool config s.world).2 }
  | .use number operation =>
    match s.handles[number]? with
    | none => s
    | some h => { s with world := (h.use s.pool operation.on).effect s.world }
  | .ping number sql =>
    match s.handles[number]? with
    | none => s
    | some h => { s with world := (h.ping s.pool sql s.world).2 }
  | .set setting => s.onPool (Pool.set setting)
  | .forceCloseAll => s.onPool Pool.forceCloseAll
  | .shutdown => s.onPool Pool.shutdown
  | .outside change => { s with world := change s.world }

omit [Conditions σ] in
/-- Others may do anything but turn back the time or undo what was opened, called or closed. -/
def Possible (s : State σ) : Event σ → Prop
  | .outside change => s.world.Grows (change s.world)
  | _ => True

omit [Conditions σ] in
theorem meanwhilePossible (s : State σ) (nanos : Nat) (conditions : σ) :
    s.Possible (.meanwhile nanos conditions) :=
  ⟨Nat.le_add_right _ _, Nat.le_refl _, List.prefix_rfl, fun {_ k} found => ⟨k, found, k.growsRefl⟩⟩

def pursuit? (s : State σ) : Event σ → Option Pursuit
  | .acquire username password deadline =>
    some ⟨s.acquires, ⟨username, password, deadline, s.world.clock, false, 0⟩, s.pool⟩
  | .acquireDefault =>
    some ⟨s.acquires, ⟨s.pool.source.username, s.pool.source.password, none, s.world.clock, false, 0⟩,
      s.pool⟩
  | .wake number =>
    (s.waiter? number).map fun x => ⟨number, x.attempt,
      { s.pool with tally.waitTime := s.pool.tally.waitTime + (s.world.clock - x.since) }⟩
  | _ => none

def enter (s : State σ) : Event σ → State σ
  | .wake number => s.withoutWaiter number
  | _ => { s with acquires := s.acquires + 1 }

omit [Conditions σ] in
theorem pursuitInside {s : State σ} {e : Event σ} {x : Pursuit} (h : s.pursuit? e = some x) :
    e.Inside := by
  cases e <;> first | exact trivial | cases h

omit [Conditions σ] in
theorem insidePossible {s : State σ} {e : Event σ} (inside : e.Inside) : s.Possible e := by
  cases e <;> first | exact trivial | exact inside.elim

omit [Conditions σ] in
theorem pursuitPool {s : State σ} {e : Event σ} {x : Pursuit} (h : s.pursuit? e = some x) :
    ∃ time, x.pool = { s.pool with tally.waitTime := time } := by
  cases e <;> simp only [pursuit?, Option.some.injEq, Option.map_eq_some_iff, reduceCtorEq] at h
  case acquire => subst h; exact ⟨_, rfl⟩
  case acquireDefault => subst h; exact ⟨_, rfl⟩
  case wake number =>
    obtain ⟨x, found, rfl⟩ := h
    exact ⟨_, rfl⟩

/-- What an event can do to a state. Every law of a run is shown for these six. -/
inductive Course (s : State σ) : Event σ → State σ → Prop where
  | pursued {e} (x : Pursuit) (found : s.pursuit? e = some x) :
      Course s e ((s.enter e).settle x.number (x.pool.resume x.attempt s.world))
  | called {e} (w : World σ) (inside : e.Inside) (quiet : s.pursuit? e = none)
      (calls : s.world.Called w) : Course s e { s with world := w }
  | returned {number h} (found : s.handles[number]? = some h) :
      Course s (.giveBack number)
        { s with
          pool := (h.giveBack s.pool s.world).2.1
          world := (h.giveBack s.pool s.world).2.2
          handles := s.handles.set number (h.giveBack s.pool s.world).1 }
  | emptied {e} (change : Pool → Pool) (inside : e.Inside) (quiet : s.pursuit? e = none)
      (keeps : Pool.KeepsEntries change)
      (limit : ∀ {p : Pool}, 1 ≤ p.config.maxActive.toNat →
        1 ≤ (change p).config.maxActive.toNat) :
      Course s e (s.onPool (Pool.reconfigure change))
  | tolerated (n : UInt64) :
      Course s (.set (.badTolerance n)) { s with pool.config.badTolerance := n }
  | outside {change} (growth : s.world.Grows (change s.world)) :
      Course s (.outside change) { s with world := change s.world }

theorem stepPursuit {s : State σ} {e : Event σ} {x : Pursuit} (h : s.pursuit? e = some x) :
    s.step e = (s.enter e).settle x.number (x.pool.resume x.attempt s.world) := by
  cases e <;> simp only [pursuit?, Option.some.injEq, Option.map_eq_some_iff, reduceCtorEq] at h
  case acquire => subst h; rfl
  case acquireDefault => subst h; rfl
  case wake number =>
    obtain ⟨x, found, rfl⟩ := h
    simp only [step, found]
    rfl

theorem stepReturned {s : State σ} {number : Nat} {h : Handle} (found : s.handles[number]? = some h) :
    s.Course (.giveBack number) (s.step (.giveBack number)) := by
  have next : s.step (.giveBack number) = { s with
      pool := (h.giveBack s.pool s.world).2.1
      world := (h.giveBack s.pool s.world).2.2
      handles := s.handles.set number (h.giveBack s.pool s.world).1 } := by
    simp only [step, found]
  rw [next]
  exact .returned found

theorem course (s : State σ) (e : Event σ) (possible : s.Possible e) : s.Course e (s.step e) := by
  have idle (inside : e.Inside) (quiet : s.pursuit? e = none) : s.Course e s :=
    .called s.world inside quiet (World.calledRefl _)
  cases going : s.pursuit? e with
  | some x => rw [stepPursuit going]; exact .pursued x going
  | none =>
    cases e with
    | acquire username password deadline => cases going
    | acquireDefault => cases going
    | wake number =>
      have found : s.waiter? number = none := Option.map_eq_none_iff.mp going
      simp only [step, found]
      exact idle trivial going
    | giveBack number =>
      cases found : s.handles[number]? with
      | none => simp only [step, found]; exact idle trivial rfl
      | some h => exact stepReturned found
    | validate number config =>
      cases found : s.handles[number]? with
      | none => simp only [step, found]; exact idle trivial rfl
      | some h =>
        simp only [step, found]
        exact .called _ trivial rfl (World.calledLaw.validate h s.pool config s.world)
    | use number operation =>
      cases found : s.handles[number]? with
      | none => simp only [step, found]; exact idle trivial rfl
      | some h =>
        have calls : (h.use s.pool operation.on : Action σ Unit).Calls :=
          World.calledLaw.use h s.pool (operation.calls h.entry.connection)
        simp only [step, found]
        exact .called _ trivial rfl (calls s.world)
    | ping number sql =>
      cases found : s.handles[number]? with
      | none => simp only [step, found]; exact idle trivial rfl
      | some h =>
        simp only [step, found]
        exact .called _ trivial rfl (World.calledLaw.pingHandle h s.pool sql s.world)
    | set setting =>
      cases setting with
      | badTolerance n => exact .tolerated n
      | _ =>
        exact .emptied (Pool.Setting.apply · _) trivial rfl (fun _ => ⟨rfl, rfl, rfl, rfl, rfl⟩)
          (Pool.Setting.applyAllows _)
    | forceCloseAll => exact .emptied id trivial rfl (fun _ => ⟨rfl, rfl, rfl, rfl, rfl⟩) id
    | shutdown =>
      exact .emptied (fun p => { p with shutDown := true }) trivial rfl
        (fun _ => ⟨rfl, rfl, rfl, rfl, rfl⟩) id
    | outside change => exact .outside possible

end State

structure Moment (σ : Type) where
  state : State σ
  event : Event σ

namespace Moment

def next (m : Moment σ) : State σ := m.state.step m.event

def Opens (m : Moment σ) (c : Nat) : Prop :=
  m.event.Inside ∧ m.state.world.connections.length ≤ c ∧ c < m.next.world.connections.length

def Makes (m : Moment σ) (call : Call) : Prop :=
  m.event.Inside ∧ m.state.world.Tried m.next.world call

end Moment

inductive Run (first : State σ) : List (Moment σ) → State σ → Prop where
  | none : Run first [] first
  | more {history s} (before : Run first history s) (e : Event σ) (possible : s.Possible e) :
      Run first (history ++ [⟨s, e⟩]) (s.step e)

def State.history (s : State σ) : List (Event σ) → List (Moment σ)
  | [] => []
  | e :: rest => ⟨s, e⟩ :: (s.step e).history rest

def State.after (s : State σ) : List (Event σ) → State σ
  | [] => s
  | e :: rest => (s.step e).after rest

theorem Run.earlier {first s : State σ} {history : List (Moment σ)} (run : Run first history s)
    {m : Moment σ} (member : m ∈ history) : ∃ past, Run first past m.state := by
  induction run with
  | none => cases member
  | more before e possible ih =>
    rcases List.mem_append.mp member with earlier | latest
    · exact ih earlier
    · cases List.mem_singleton.mp latest
      exact ⟨_, before⟩

def latest? {α : Type} (tells : Moment σ → Option α) (history : List (Moment σ)) : Option α :=
  history.reverse.findSome? tells

omit [Conditions σ] in
theorem latestNext {α : Type} (tells : Moment σ → Option α) (history : List (Moment σ)) (m : Moment σ) :
    latest? tells (history ++ [m]) = (tells m).or (latest? tells history) := by
  rw [latest?, List.reverse_append]
  cases said : tells m <;> simp [latest?, said]

theorem Run.append {first s : State σ} {history : List (Moment σ)} (run : Run first history s)
    {events : List (Event σ)} (possible : ∀ e ∈ events, ∀ t : State σ, t.Possible e) :
    Run first (history ++ s.history events) (s.after events) := by
  induction events generalizing history s with
  | nil => rw [State.history, List.append_nil]; exact run
  | cons e rest ih =>
    have next := run.more e (possible e List.mem_cons_self s)
    have more := ih next fun e member => possible e (List.mem_cons_of_mem _ member)
    rw [List.append_assoc] at more
    exact more

theorem State.run (s : State σ) {events : List (Event σ)}
    (possible : ∀ e ∈ events, ∀ t : State σ, t.Possible e) :
    Run s (s.history events) (s.after events) :=
  Run.none.append possible

def State.small : State Scenario.Plan :=
  .start ⟨⟨0, "mock"⟩, "mock://primary", some "app", none, .empty, true, none⟩
    { Config.new 1 1 with maxCheckoutMillis := 100, waitMillis := 0 }
    ⟨0, 0, [], [], ⟨true, none⟩, .undisturbed⟩

end Traffic
end ConnectionPool
