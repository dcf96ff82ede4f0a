import ConnectionPool.Pool.Handle
import ConnectionPool.Scenario.Plan

/-! The steps of a scenario: what callers of some pools, and the world around them, do one after the
other. Pools, sources, handles, connections and statements are given by number. -/
namespace ConnectionPool.Scenario

inductive WorldStep where
  | advance (nanos : Nat)
  /-- Lays down a failure, or takes it away if there is no error. A kind of call that does not exist
  never fails. -/
  | fault (kind : Option CallKind) (connection : Option Nat) (error : Option Error) (times : Option Nat)
  | delay (kind : Option CallKind) (connection : Option Nat) (nanos : Nat)
  | initial (session : Session)
  deriving Repr

inductive StatementStep where
  | query (sql : String) (params : List Value)
  | update (sql : String) (params : List Value)
  | close
  deriving Repr

inductive SourceStep where
  | openAs (username password : Option String)
  | openDefault
  | info
  deriving Repr

inductive ConnectionStep where
  | query (sql : String) (params : List Value)
  | execute (sql : String) (params : List Value)
  | createStatement
  | autoCommit
  | setAutoCommit (value : Bool)
  | isolation
  | setIsolation (level : Option Isolation)
  | commit
  | rollback
  | close
  | isClosed
  | driverName
  | ping (sql : String)
  | unknown (name : String)
  deriving Repr

inductive HandleStep where
  | drop
  | release (pool : Nat)
  | validate (pool : Nat)
  | real
  | info
  | onConnection (step : ConnectionStep)
  deriving Repr

inductive PhysicalStep where
  | state
  | breakDown
  | onConnection (step : ConnectionStep)
  deriving Repr

inductive Request where
  | configured
  | credentials (username password : String)
  | until (username password : Option String) (deadline : Option Int)
  deriving Repr

inductive PoolStep where
  | acquire (request : Request)
  | forceCloseAll
  | shutdown
  | info
  | set (setting : Pool.Setting)
  | setUnknown (name : String)
  | unknown (name : String)
  deriving Repr

inductive Step where
  | world (step : WorldStep)
  | statement (number : Nat) (step : StatementStep)
  | source (number : Nat) (step : SourceStep)
  | handle (number : Nat) (step : HandleStep)
  | physical (number : Nat) (step : PhysicalStep)
  | pool (number : Nat) (step : PoolStep)
  deriving Repr

structure Event where
  after : Nat
  step : Step
  deriving Repr

inductive Refusal where
  | noSuchPool
  | noSuchSource
  | noSuchHandle
  | noSuchConnection
  | noSuchStatement
  | noSuchLevel
  | handleInUse
  | unknownStep (name : String)
  | unknownSetting (name : String)
  deriving DecidableEq, Repr

def Refusal.message : Refusal → String
  | noSuchPool => "no such pool"
  | noSuchSource => "no such source"
  | noSuchHandle => "no such handle"
  | noSuchConnection => "no such connection"
  | noSuchStatement => "no such statement"
  | noSuchLevel => "no such level"
  | handleInUse => "handle in use or no such pool"
  | unknownStep name => "do " ++ name
  | unknownSetting name => "set " ++ name

structure HandleInfo where
  identity : Nat
  handle : Handle
  valid : Bool
  closed : Bool
  now : Nat
  driver : String
  debug : String
  deriving Repr

inductive Answer where
  | done
  | flag (b : Bool)
  | number (n : Nat)
  | text (s : String)
  | rows (r : Rows)
  | level (l : Option Isolation)
  | latency (nanos : Nat)
  | pingFailed (e : PingError)
  | failed (e : Error)
  | refused (r : Refusal)
  | acquired (handle identity connection : Nat)
  | blocked
  | opened (connection : Nat)
  | statement (number : Nat)
  | connectionState (session : Session) (closed : Bool)
  | sourceInfo (s : Source)
  | poolInfo (p : Pool)
  | handleInfo (info : HandleInfo)
  deriving Repr

def Answer.ofExcept {α : Type} (f : α → Answer) : Except Error α → Answer
  | .ok a => f a
  | .error e => .failed e

inductive LogEntry where
  | call (record : CallRecord)
  | event (answer : Answer)
  deriving Repr

end ConnectionPool.Scenario
