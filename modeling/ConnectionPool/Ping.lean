import ConnectionPool.Database

/-! A test of a connection: a query on a statement of its own, and how long it took. -/
namespace ConnectionPool

inductive PingError where
  | connectionClosed
  | queryFailed (message : String)
  deriving DecidableEq, Repr

namespace PingError

def kind : PingError → String
  | connectionClosed => "ConnectionClosed"
  | queryFailed _ => "QueryFailed"

def message : PingError → String
  | connectionClosed => "Connection is closed"
  | queryFailed message => "Ping query failed: " ++ message

end PingError

namespace Database

variable {σ : Type} [Conditions σ]

/-- Runs a test query. The statement is closed even if the query fails, whose error then counts. What
the query may have begun is rolled back, unless each statement commits on its own. -/
def probe (c : Nat) (sql : String) : Action σ Unit := do
  createStatement c
  let outcome ← (executeQuery c sql []).attempt
  let closed ← (closeStatement c).attempt
  let _ ← Action.lift outcome
  Action.lift closed
  if !(← autoCommit c) then rollback c

def ping (c : Nat) (sql : String) (w : World σ) : Except PingError Nat × World σ :=
  if w.isClosed c then (.error .connectionClosed, w)
  else
    match probe c sql w with
    | (.ok (), later) => (.ok (later.clock - w.clock), later)
    | (.error e, later) => (.error (.queryFailed e.message), later)

end Database
end ConnectionPool
