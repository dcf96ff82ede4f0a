import ConnectionPool.World

/-! Conditions that are laid down beforehand: which kinds of call fail or are slow, on which connection
or on all of them. -/
namespace ConnectionPool.Scenario

structure Target where
  connection : Option Nat
  kind : CallKind
  deriving DecidableEq, Repr

structure Fault where
  error : Error
  times : Option Nat
  deriving DecidableEq, Repr

structure Plan where
  faults : List (Target × Fault)
  delays : List (Target × Nat)
  lapse : Nat
  deriving DecidableEq, Repr

namespace Plan

def undisturbed : Plan := ⟨[], [], 0⟩

def put {α : Type} (t : Target) (a : α) (entries : List (Target × α)) : List (Target × α) :=
  (t, a) :: entries.filter (·.1 ≠ t)

def drop {α : Type} (t : Target) (entries : List (Target × α)) : List (Target × α) :=
  entries.filter (·.1 ≠ t)

def find {α : Type} (call : Call) (entries : List (Target × α)) : Option (Target × α) :=
  let among (t : Target) := (entries.lookup t).map fun a => (t, a)
  (among ⟨call.connection?, call.kind⟩).or (among ⟨none, call.kind⟩)

def delay (plan : Plan) (call : Call) : Nat :=
  match find call plan.delays with
  | some (_, nanos) => nanos
  | none => 0

/-- The failure of a call, and what is still laid down after it. One that was to happen no more times
at all still happens once. -/
def fault (plan : Plan) (call : Call) : Option Error × Plan :=
  match find call plan.faults with
  | none => (none, plan)
  | some (t, f) =>
    let faults := match f.times with
      | none => plan.faults
      | some n => if n ≤ 1 then drop t plan.faults else put t { f with times := some (n - 1) } plan.faults
    (some f.error, { plan with faults := faults })

instance : Conditions Plan := ⟨lapse, delay, fault⟩

end Plan
end ConnectionPool.Scenario
