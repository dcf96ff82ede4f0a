import ConnectionPool.Pool.Acquire
import ConnectionPool.Scenario.Step

/-! Carrying out the steps of a scenario. Here an acquire is given up as soon as it has to wait, as
those are which others begin while one acquire waits already. -/
namespace ConnectionPool.Scenario

structure Stage where
  world : World Plan
  pools : List Pool
  places : List Nat
  sources : List Source
  handles : List (Option (Nat × Handle))
  statements : List (Option Nat)
  identities : List Nat
  logged : Nat
  log : List LogEntry

namespace Stage

/-- Brings the log up to date with the calls of the world. Reads of a session are left out. -/
def flush (st : Stage) : Stage :=
  let fresh := (st.world.trace.drop st.logged).filter fun record => !record.call.isRead
  { st with log := st.log ++ fresh.map .call, logged := st.world.trace.length }

def logEvent (answer : Answer) (st : Stage) : Stage :=
  let st := st.flush
  { st with log := st.log ++ [.event answer] }

def put (st : Stage) (place : Nat) (p : Pool) (w : World Plan) : Stage :=
  { st with pools := st.pools.set place p, world := w }

def pool? (st : Stage) (number : Nat) : Option (Nat × Pool) := do
  let place ← st.places[number]?
  let p ← st.pools[place]?
  some (place, p)

def handle? (st : Stage) (number : Nat) : Option (Nat × Pool × Handle) := do
  let (place, h) ← (← st.handles[number]?)
  let p ← st.pools[place]?
  some (place, p, h)

def ordinal (st : Stage) (identity : Nat) : Nat × Stage :=
  match st.identities.idxOf? identity with
  | some i => (i, st)
  | none => (st.identities.length, { st with identities := st.identities ++ [identity] })

def run {α : Type} (action : Action Plan α) (answer : α → Answer) (st : Stage) : Answer × Stage :=
  match action st.world with
  | (r, w) => (.ofExcept answer r, { st with world := w })

def onPool (place : Nat) (p : Pool) (operation : Pool → World Plan → Pool × World Plan) (st : Stage) :
    Answer × Stage :=
  match operation p st.world with
  | (p, w) => (.done, st.put place p w)

def grant (place : Nat) (st : Stage) (e : Entry) : Answer × Stage :=
  match st.ordinal e.identity with
  | (identity, st) =>
    (.acquired st.handles.length identity e.connection,
      { st with handles := st.handles ++ [some (place, .new e)] })

def worldStep (st : Stage) : WorldStep → Answer × Stage
  | .advance nanos => (.done, { st with world := st.world.pass nanos })
  | .initial session => (.done, { st with world := { st.world with initial := session } })
  | .fault kind connection error times =>
    if connection.any (st.world.connections.length ≤ ·) then (.refused .noSuchConnection, st)
    else
      let change (plan : Plan) : Plan := match kind, error with
        | none, _ => plan
        | some kind, none => { plan with faults := Plan.drop ⟨connection, kind⟩ plan.faults }
        | some kind, some e => { plan with faults := Plan.put ⟨connection, kind⟩ ⟨e, times⟩ plan.faults }
      (.done, { st with world := { st.world with conditions := change st.world.conditions } })
  | .delay kind connection nanos =>
    if connection.any (st.world.connections.length ≤ ·) then (.refused .noSuchConnection, st)
    else
      let change (plan : Plan) : Plan := match kind with
        | none => plan
        | some kind => { plan with delays := Plan.put ⟨connection, kind⟩ nanos plan.delays }
      (.done, { st with world := { st.world with conditions := change st.world.conditions } })

def statementStep (number : Nat) (st : Stage) (step : StatementStep) : Answer × Stage :=
  match st.statements[number]? with
  | some (some c) =>
    match step with
    | .query sql params => st.run (Database.executeQuery c sql params) .rows
    | .update sql params => st.run (Database.executeUpdate c sql params) .number
    | .close =>
      { st with statements := st.statements.set number none }.run (Database.closeStatement c) fun _ => .done
  | _ => (.refused .noSuchStatement, st)

def sourceStep (number : Nat) (st : Stage) (step : SourceStep) : Answer × Stage :=
  match st.sources[number]? with
  | none => (.refused .noSuchSource, st)
  | some s =>
    match step with
    | .openAs username password => st.run (s.openAs username password) .opened
    | .openDefault => st.run s.openDefault .opened
    | .info => (.sourceInfo s, st)

def pingAnswer : Except PingError Nat → Answer
  | .ok nanos => .latency nanos
  | .error e => .pingFailed e

def connectionStep (reached : Except Error Nat) (st : Stage) (step : ConnectionStep) : Answer × Stage :=
  let on {α : Type} (action : Nat → Action Plan α) : Action Plan α := do action (← Action.lift reached)
  match step with
  | .query sql params => st.run (on (Database.query · sql params)) .rows
  | .execute sql params => st.run (on (Database.execute · sql params)) .number
  | .createStatement =>
    match on (fun c => do Database.createStatement c; return c) st.world with
    | (.ok c, w) =>
      (.statement st.statements.length, { st with world := w, statements := st.statements ++ [some c] })
    | (.error e, w) => (.failed e, { st with world := w })
  | .autoCommit => st.run (on Database.autoCommit) .flag
  | .setAutoCommit value => st.run (on (Database.setAutoCommit · value)) fun _ => .done
  | .isolation => st.run (on Database.isolation) .level
  | .setIsolation none => (.refused .noSuchLevel, st)
  | .setIsolation (some level) => st.run (on (Database.setIsolation · level)) fun _ => .done
  | .commit => st.run (on Database.commit) fun _ => .done
  | .rollback => st.run (on Database.rollback) fun _ => .done
  | .close => st.run (on Database.close) fun _ => .done
  | .isClosed => st.run (on fun c => Database.see (·.isClosed c)) .flag
  | .driverName => st.run (on fun c => Database.see (·.driverName c)) .text
  | .ping sql =>
    match reached with
    | .error e => (.failed e, st)
    | .ok c =>
      match Database.ping c sql st.world with
      | (r, w) => (pingAnswer r, { st with world := w })
  | .unknown name => (.refused (.unknownStep name), st)

def giveBack (number place : Nat) (p : Pool) (h : Handle) (st : Stage) : Stage :=
  match h.giveBack p st.world with
  | (_, p, w) => { st.put place p w with handles := st.handles.set number none }

def describe (p : Pool) (h : Handle) (st : Stage) : Answer × Stage :=
  match st.ordinal h.entry.identity with
  | (identity, st) =>
    let w := st.world
    (.handleInfo ⟨identity, h, h.valid p, h.isClosed p w, w.clock, w.driverName h.entry.connection,
      h.debug p w ("#" ++ toString identity)⟩, st)

def handleStep (number : Nat) (st : Stage) (step : HandleStep) : Answer × Stage :=
  match st.handle? number with
  | none => (.refused .noSuchHandle, st)
  | some (place, p, h) =>
    match step with
    | .drop => (.done, st.giveBack number place p h)
    | .release receiver =>
      (if (st.pool? receiver).isSome then .done else .refused .handleInUse, st.giveBack number place p h)
    | .validate other =>
      match st.pool? other with
      | none => (.refused .noSuchPool, st)
      | some (_, judge) =>
        match h.validate p judge.config st.world with
        | (good, w) => (.flag good, { st with world := w })
    | .real => (.ofExcept .number (h.connection p), st)
    | .info => st.describe p h
    | .onConnection .close =>
      match h.close p st.world with
      | (r, h, p, w) =>
        (.ofExcept (fun _ => .done) r, { st.put place p w with handles := st.handles.set number (some (place, h)) })
    | .onConnection .isClosed => (.flag (h.isClosed p st.world), st)
    | .onConnection .driverName => (.text (st.world.driverName h.entry.connection), st)
    | .onConnection (.ping sql) =>
      match h.ping p sql st.world with
      | (r, w) => (pingAnswer r, { st with world := w })
    | .onConnection step => st.connectionStep (h.connection p) step

def physicalStep (number : Nat) (st : Stage) (step : PhysicalStep) : Answer × Stage :=
  match st.world.connection? number with
  | none => (.refused .noSuchConnection, st)
  | some k =>
    match step with
    | .state => (.connectionState k.session k.closed, st)
    | .breakDown =>
      (.done, { st with world := st.world.update number fun k => { k with closed := true } })
    | .onConnection step => st.connectionStep (.ok number) step

def acquire (p : Pool) (w : World Plan) : Request → Outcome × Pool × World Plan
  | .configured => p.acquireDefault w
  | .credentials username password => p.acquire (some username) (some password) none w
  | .until username password deadline =>
    p.acquire username password (deadline.map fun d => ((w.clock : Int) + d).toNat) w

def conclude (place : Nat) (st : Stage) : Outcome → Answer × Stage
  | .granted e => st.grant place e
  | .failed e => (.failed e, st)
  | .waiting .. => (.blocked, st)

def poolStep (number : Nat) (st : Stage) (step : PoolStep) : Answer × Stage :=
  match st.pool? number with
  | none => (.refused .noSuchPool, st)
  | some (place, p) =>
    match step with
    | .acquire request =>
      match acquire p st.world request with
      | (outcome, p, w) => (st.put place p w).conclude place outcome
    | .forceCloseAll => st.onPool place p Pool.forceCloseAll
    | .shutdown => st.onPool place p Pool.shutdown
    | .info => (.poolInfo p, st)
    | .set setting => st.onPool place p (Pool.set setting)
    | .setUnknown name => (.refused (.unknownSetting name), st)
    | .unknown name => (.refused (.unknownStep name), st)

def perform (st : Stage) : Step → Answer × Stage
  | .world step => st.worldStep step
  | .statement number step => st.statementStep number step
  | .source number step => st.sourceStep number step
  | .handle number step => st.handleStep number step
  | .physical number step => st.physicalStep number step
  | .pool number step => st.poolStep number step

end Stage
end ConnectionPool.Scenario
