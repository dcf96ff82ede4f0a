import ConnectionPool.Error
import ConnectionPool.Isolation
import ConnectionPool.Properties
import ConnectionPool.Value

/-! The world outside the pools: a clock, a source of fresh identities, and a database with its
connections. Every call that a driver receives is recorded. Whether a call fails and how long it
takes is up to conditions that are a parameter here. -/
namespace ConnectionPool

structure Driver where
  number : Nat
  name : String
  deriving DecidableEq, Repr

inductive CallKind where
  | connect
  | createStatement
  | executeQuery
  | executeUpdate
  | closeStatement
  | autoCommit
  | setAutoCommit
  | isolation
  | setIsolation
  | commit
  | rollback
  | close
  deriving DecidableEq, Repr

inductive Call where
  | connect (driver : Driver) (url : String) (properties : Properties)
  | createStatement (c : Nat)
  | executeQuery (c : Nat) (sql : String) (params : List Value)
  | executeUpdate (c : Nat) (sql : String) (params : List Value)
  | closeStatement (c : Nat)
  | autoCommit (c : Nat)
  | setAutoCommit (c : Nat) (value : Bool)
  | isolation (c : Nat)
  | setIsolation (c : Nat) (level : Isolation)
  | commit (c : Nat)
  | rollback (c : Nat)
  | close (c : Nat)
  deriving Repr

namespace Call

def kind : Call → CallKind
  | connect .. => .connect
  | createStatement _ => .createStatement
  | executeQuery .. => .executeQuery
  | executeUpdate .. => .executeUpdate
  | closeStatement _ => .closeStatement
  | autoCommit _ => .autoCommit
  | setAutoCommit .. => .setAutoCommit
  | isolation _ => .isolation
  | setIsolation .. => .setIsolation
  | commit _ => .commit
  | rollback _ => .rollback
  | close _ => .close

def connection? : Call → Option Nat
  | connect .. => none
  | createStatement c | executeQuery c _ _ | executeUpdate c _ _ | closeStatement c | autoCommit c
  | setAutoCommit c _ | isolation c | setIsolation c _ | commit c | rollback c | close c => some c

def isRead : Call → Bool
  | autoCommit _ | isolation _ => true
  | _ => false

end Call

structure CallRecord where
  call : Call
  failed : Bool
  deriving Repr

structure Session where
  autoCommit : Bool
  isolation : Option Isolation
  deriving DecidableEq, Repr

structure Connection where
  driver : Driver
  url : String
  properties : Properties
  session : Session
  closed : Bool
  deriving DecidableEq, Repr

/-- Conditions under which calls are made. They decide how long a call takes and whether it fails, and
may change with each call. Time may also lapse between two steps of a pool, without any call. -/
class Conditions (σ : Type) where
  lapse : σ → Nat
  delay : σ → Call → Nat
  fault : σ → Call → Option Error × σ

/-- The world outside the pools. Times are nanoseconds since its beginning. -/
structure World (σ : Type) where
  clock : Nat
  identities : Nat
  connections : List Connection
  trace : List CallRecord
  initial : Session
  conditions : σ

def Action (σ α : Type) : Type := World σ → Except Error α × World σ

namespace Action

variable {σ α β : Type}

instance : Monad (Action σ) where
  pure a := fun w => (.ok a, w)
  bind m f := fun w =>
    match m w with
    | (.ok a, w) => f a w
    | (.error e, w) => (.error e, w)

def fail (e : Error) : Action σ α := fun w => (.error e, w)

def lift (r : Except Error α) : Action σ α := fun w => (r, w)

def attempt (m : Action σ α) : Action σ (Except Error α) := fun w =>
  match m w with
  | (r, w) => (.ok r, w)

def effect (m : Action σ α) (w : World σ) : World σ := (m w).2

end Action

namespace World

variable {σ : Type}

def connection? (w : World σ) (c : Nat) : Option Connection := w.connections[c]?

def isClosed (w : World σ) (c : Nat) : Bool :=
  match w.connection? c with
  | some k => k.closed
  | none => true

def driverName (w : World σ) (c : Nat) : String :=
  match w.connection? c with
  | some k => k.driver.name
  | none => ""

def session (w : World σ) (c : Nat) : Session :=
  match w.connection? c with
  | some k => k.session
  | none => w.initial

def update (c : Nat) (f : Connection → Connection) (w : World σ) : World σ :=
  { w with connections := w.connections.modify c f }

def drawIdentity (w : World σ) : Nat × World σ :=
  (w.identities, { w with identities := w.identities + 1 })

def pass (nanos : Nat) (w : World σ) : World σ := { w with clock := w.clock + nanos }

def lapse [Conditions σ] (w : World σ) : World σ := w.pass (Conditions.lapse w.conditions)

def atMoment (moment : Nat) (w : World σ) : World σ := { w with clock := moment }

end World
end ConnectionPool
