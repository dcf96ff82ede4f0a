import ConnectionPool.Fingerprint
import ConnectionPool.Pool.Entry
import ConnectionPool.Registry
import ConnectionPool.Settings
import ConnectionPool.Source
import ConnectionPool.Statistics

/-! The state of a pool, as it is between two of its critical sections. Entries are values, so that
what makes one invalid is written down by its serial number. A signal to those who wait is written
down as one more of them: whoever waits is woken when their number has changed. -/
namespace ConnectionPool

structure Tally where
  requests : Nat := 0
  requestTime : Nat := 0
  checkoutTime : Nat := 0
  overdueClaims : Nat := 0
  overdueTime : Nat := 0
  waits : Nat := 0
  waitTime : Nat := 0
  badConnections : Nat := 0
  deriving DecidableEq, Repr

structure Pool where
  config : Config
  source : Source
  expectedCode : UInt64
  idle : List Entry := []
  active : List Entry := []
  tally : Tally := {}
  shutDown : Bool := false
  serials : Nat := 0
  /-- The serial numbers of the entries that have become invalid. -/
  revoked : List Nat := []
  signals : Nat := 0
  deriving DecidableEq, Repr

namespace Pool

def codeOf (s : Source) : UInt64 := typeCode s.url s.username s.password

def new (source : Source) (config : Config) : Pool where
  config := config.withMaxActive config.maxActive
  source := source
  expectedCode := codeOf source

def ofSettings (s : Settings) (drivers : Registry Driver) : Except Error Pool :=
  (drivers.require s.driver).map fun driver =>
    .new ⟨driver, s.url, s.username, s.password, s.properties, s.autoCommit, s.isolation⟩ s.pool

def valid (p : Pool) (e : Entry) : Bool := e.serial ∉ p.revoked

def revoke (p : Pool) (e : Entry) : Pool := { p with revoked := e.serial :: p.revoked }

def signal (p : Pool) : Pool := { p with signals := p.signals + 1 }

def countBad (p : Pool) : Pool :=
  { p with tally.badConnections := p.tally.badConnections + 1 }

def rewrap (p : Pool) (e : Entry) (now : Nat) : Entry × Pool :=
  (e.rewrap p.serials now, { p with serials := p.serials + 1 })

def refreshCode (p : Pool) : Pool := { p with expectedCode := codeOf p.source }

variable {σ : Type} [Conditions σ]

def wrap (p : Pool) (c : Nat) (w : World σ) : Entry × Pool × World σ :=
  let (identity, w) := w.drawIdentity
  (.new p.serials identity c w.clock, { p with serials := p.serials + 1 }, w)

def discard (p : Pool) (e : Entry) (w : World σ) : Pool × World σ := (p.revoke e, e.close w)

def discardAll : List Entry → Pool → World σ → Pool × World σ
  | [], p, w => (p, w)
  | e :: rest, p, w =>
    let (p, w) := p.discard e w
    discardAll rest p w

def probe (p : Pool) (e : Entry) (config : Config) (w : World σ) : Bool × World σ :=
  if p.valid e then e.probe config w else (false, w)

def statistics (p : Pool) : Statistics where
  idle := p.idle.length.toUInt64
  active := p.active.length.toUInt64
  requests := p.tally.requests.toUInt64
  requestTime := .ofNanos p.tally.requestTime
  checkoutTime := .ofNanos p.tally.checkoutTime
  overdueClaims := p.tally.overdueClaims.toUInt64
  overdueTime := .ofNanos p.tally.overdueTime
  waits := p.tally.waits.toUInt64
  waitTime := .ofNanos p.tally.waitTime
  badConnections := p.tally.badConnections.toUInt64

def debug (p : Pool) : String :=
  Text.record "PooledDataSource" [
    ("source", p.source.debug),
    ("config", p.config.debug),
    ("stats", p.statistics.debug),
    ("shut_down", toString p.shutDown)]

end Pool
end ConnectionPool
