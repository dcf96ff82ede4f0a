import ConnectionPool.World

/-! The operations of a database, by way of its drivers. A call takes its time, then fails or not, and
is recorded; a call that fails changes nothing else. -/
namespace ConnectionPool.Database

variable {σ : Type} [Conditions σ]

def refusal (w : World σ) : Call → Option Error
  | .createStatement c => if w.isClosed c then some .closedConnection else none
  | _ => none

def perform (call : Call) : Action σ Unit := fun w =>
  let w := w.pass (Conditions.delay w.conditions call)
  match refusal w call with
  | some e => (.error e, { w with trace := w.trace ++ [⟨call, true⟩] })
  | none =>
    match Conditions.fault w.conditions call with
    | (some e, later) =>
      (.error e, { w with conditions := later, trace := w.trace ++ [⟨call, true⟩] })
    | (none, later) =>
      (.ok (), { w with conditions := later, trace := w.trace ++ [⟨call, false⟩] })

def change (f : World σ → World σ) : Action σ Unit := fun w => (.ok (), f w)

def see {α : Type} (f : World σ → α) : Action σ α := fun w => (.ok (f w), w)

def connect (driver : Driver) (url : String) (properties : Properties) : Action σ Nat := do
  perform (.connect driver url properties)
  let c ← see (·.connections.length)
  change fun w => { w with connections := w.connections ++ [⟨driver, url, properties, w.initial, false⟩] }
  return c

def createStatement (c : Nat) : Action σ Unit := perform (.createStatement c)

def executeQuery (c : Nat) (sql : String) (params : List Value) : Action σ Rows := do
  perform (.executeQuery c sql params)
  return if params.isEmpty then .empty
    else ⟨(List.range params.length).map fun i => "p" ++ toString i, [params]⟩

def executeUpdate (c : Nat) (sql : String) (params : List Value) : Action σ Nat := do
  perform (.executeUpdate c sql params)
  return 1 + params.length

def closeStatement (c : Nat) : Action σ Unit := perform (.closeStatement c)

def autoCommit (c : Nat) : Action σ Bool := do
  perform (.autoCommit c)
  see fun w => (w.session c).autoCommit

def setAutoCommit (c : Nat) (value : Bool) : Action σ Unit := do
  perform (.setAutoCommit c value)
  change (World.update c fun k => { k with session.autoCommit := value })

def isolation (c : Nat) : Action σ (Option Isolation) := do
  perform (.isolation c)
  see fun w => (w.session c).isolation

def setIsolation (c : Nat) (level : Isolation) : Action σ Unit := do
  perform (.setIsolation c level)
  change (World.update c fun k => { k with session.isolation := some level })

def commit (c : Nat) : Action σ Unit := perform (.commit c)

def rollback (c : Nat) : Action σ Unit := perform (.rollback c)

def close (c : Nat) : Action σ Unit := do
  perform (.close c)
  change (World.update c fun k => { k with closed := true })

/-- Runs a statement on a connection: makes it, executes it and closes it. The statement is closed
even if its execution fails, and a failure to close it is reported before one to execute it. -/
def withStatement {α : Type} (c : Nat) (execute : Action σ α) : Action σ α := do
  createStatement c
  let outcome ← execute.attempt
  closeStatement c
  Action.lift outcome

def query (c : Nat) (sql : String) (params : List Value) : Action σ Rows :=
  withStatement c (executeQuery c sql params)

def execute (c : Nat) (sql : String) (params : List Value) : Action σ Nat :=
  withStatement c (executeUpdate c sql params)

end ConnectionPool.Database
