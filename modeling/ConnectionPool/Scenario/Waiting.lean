import ConnectionPool.Scenario.Stage

/-! Waiting. While an acquire waits, events take their course one after the other, each as soon as it
is due, until one of them signals those who wait or the time of the wait is over. Woken, the acquire
goes on, and may have to wait again. -/
namespace ConnectionPool.Scenario

inductive WaitEnd where
  | woken (later : List Event)
  | never
  deriving Repr

structure Prospect where
  events : Nat
  patience : Nat
  time : Nat
  deriving DecidableEq, Repr

namespace Prospect

def Nearer (x y : Prospect) : Prop :=
  x.events < y.events ∨ x.events = y.events ∧
    (x.patience < y.patience ∨ x.patience = y.patience ∧ x.time < y.time)

instance (x y : Prospect) : Decidable (Nearer x y) := by unfold Nearer; infer_instance

def of (events : List Event) (a : Attempt) (p : Pool) (now : Nat) : Prospect where
  events := events.length
  patience := p.config.badLimit + 1 - a.bad
  time := match p.active with
    | [] => 0
    | oldest :: _ => oldest.checkoutAt + p.config.maxCheckout.nanos + 1 - now

end Prospect

namespace Stage

def signals (st : Stage) (place : Nat) : Nat :=
  match st.pools[place]? with
  | some p => p.signals
  | none => 0

/-- Waits for a signal from the pool at a place, until a moment if there is one. Events count from the
moment at which the acquire began. A wait that is not cut short ends at its moment, even if the time
that events took carried the clock beyond it. -/
def await (place began : Nat) (until? : Option Nat) : List Event → Stage → WaitEnd × Stage
  | [], st =>
    match until? with
    | none => (.never, st)
    | some moment => (.woken [], { st with world := st.world.atMoment moment })
  | event :: later, st =>
    let due := max (began + event.after) st.world.clock
    match until?.filter (· < due) with
    | some moment => (.woken (event :: later), { st with world := st.world.atMoment moment })
    | none =>
      let before := st.signals place
      let (answer, st) := { st with world := st.world.atMoment due }.perform event.step
      let st := st.logEvent answer
      if st.signals place ≠ before then (.woken later, st) else st.await place began until? later
termination_by events => events.length

/-- Follows an acquire from a wait to its end, with the events that have yet to happen then. An acquire
that comes no nearer to its end waits for ever. -/
def follow (place : Nat) (events : List Event) (a : Attempt) (since : Nat) (limit : Option Nat)
    (p : Pool) (st : Stage) : Answer × List Event × Stage :=
  match st.await place a.started (limit.map (since + ·)) events with
  | (.never, st) => (.blocked, [], st)
  | (.woken later, st) =>
    match st.pools[place]? with
    | none => (.refused .noSuchPool, later, st)
    | some q =>
      match q.wake a since st.world with
      | (.waiting b again limit, q, w) =>
        if (Prospect.of later b q again).Nearer (.of events a p since) then
          (st.put place q w).follow place later b again limit q
        else (.blocked, later, st.put place q w)
      | (outcome, q, w) =>
        let (answer, st) := (st.put place q w).conclude place outcome
        (answer, later, st)
termination_by
  let x := Prospect.of events a p since
  (x.events, x.patience, x.time)
decreasing_by
  next nearer =>
  simp only [Prod.lex_def]
  exact nearer

def conduct (step : Step) (events : List Event) (st : Stage) : Answer × List Event × Stage :=
  match step with
  | .pool number (.acquire request) =>
    match st.pool? number with
    | none => (.refused .noSuchPool, events, st)
    | some (place, p) =>
      match acquire p st.world request with
      | (.waiting a since limit, p, w) => (st.put place p w).follow place events a since limit p
      | (outcome, p, w) =>
        let (answer, st) := (st.put place p w).conclude place outcome
        (answer, events, st)
  | step =>
    let (answer, st) := st.perform step
    (answer, events, st)

end Stage
end ConnectionPool.Scenario
