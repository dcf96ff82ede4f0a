import ConnectionPool.Scenario.Waiting
import ConnectionPool.Settings.File

/-! Scenarios: some pools on one database, and steps that are carried out one after the other. Each
step is reported with its answer, with what happened in its course, and with the statistics of all
pools after it. -/
namespace ConnectionPool.Scenario

inductive PoolPlan where
  | ofSource (source : Source) (config : Decoded Config)
  | ofToml (text : String)
  | cloneOf (number : Nat)

structure Setup where
  drivers : List Driver
  initial : Session
  sources : List Source
  pools : List PoolPlan

inductive SetupError where
  | failed (e : Error)
  | config (e : DecodeError)
  | noSuchPool

structure Report where
  answer : Answer
  log : List LogEntry
  statistics : List Statistics
  unfired : Nat

namespace Stage

def start (setup : Setup) : Stage where
  world := ⟨0, 0, [], [], setup.initial, .undisturbed⟩
  pools := []
  places := []
  sources := setup.sources
  handles := []
  statements := []
  identities := []
  logged := 0
  log := []

def addPool (st : Stage) (p : Pool) : Stage :=
  { st with pools := st.pools ++ [p], places := st.places ++ [st.pools.length] }

def addPlanned (drivers : Registry Driver) (st : Stage) : PoolPlan → Except SetupError Stage
  | .ofSource source (.ok config) => .ok (st.addPool (.new source config))
  | .ofSource _ (.error e) => .error (.config e)
  | .ofToml text =>
    match (Settings.ofToml text).bind (Pool.ofSettings · drivers) with
    | .ok p => .ok (st.addPool p)
    | .error e => .error (.failed e)
  | .cloneOf number =>
    match st.places[number]? with
    | some place => .ok { st with places := st.places ++ [place] }
    | none => .error .noSuchPool

def setUp (setup : Setup) : Except SetupError Stage :=
  let drivers := setup.drivers.foldl (fun r d => r.register d.name d) Registry.empty
  setup.pools.foldlM (addPlanned drivers) (start setup)

def report (answer : Answer) (events : List Event) (st : Stage) : Report × Stage :=
  let st := st.flush
  let statistics := st.places.filterMap fun place => st.pools[place]?.map Pool.statistics
  (⟨answer, st.log, statistics, events.length⟩, { st with log := [] })

def conductAll : List (Step × List Event) → Stage → List Report × Stage
  | [], st => ([], st)
  | (step, events) :: rest, st =>
    let (answer, later, st) := st.conduct step events
    let (report, st) := st.report answer later
    let (reports, st) := conductAll rest st
    (report :: reports, st)

def dropAll (st : Stage) : Stage :=
  (List.range st.handles.length).foldl (fun st number => (st.perform (.handle number .drop)).2) st

end Stage

def conduct (setup : Setup) (steps : List (Step × List Event)) : Except SetupError (List Report) :=
  (Stage.setUp setup).map fun st =>
    let (reports, st) := st.conductAll steps
    reports ++ [(st.dropAll.report .done []).1]

end ConnectionPool.Scenario
