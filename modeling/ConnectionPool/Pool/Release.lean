import ConnectionPool.Pool

/-! How connections leave the hands of their holders: given back one by one, or closed all at once. -/
namespace ConnectionPool.Pool

variable {σ : Type} [Conditions σ]

def reusable (p : Pool) (e : Entry) : Bool :=
  !p.shutDown && p.idle.length < p.config.maxIdle.toNat && e.typeCode == p.expectedCode

def keep (p : Pool) (e : Entry) (w : World σ) : Pool × World σ :=
  match e.rollbackIfNeeded w with
  | (.ok (), w) =>
    let (again, p) := p.rewrap e w.clock
    ({ p.revoke e with idle := p.idle ++ [again] }, w)
  | (.error _, w) =>
    let (p, w) := p.discard e w
    (p.countBad, w)

/-- Takes an entry back from its holder. An invalid one is only counted, as its connection is in other
hands by now. Nobody hears of failures on the way. -/
def release (p : Pool) (e : Entry) (w : World σ) : Pool × World σ :=
  let p := { p with active := p.active.eraseP (·.serial == e.serial) }
  if !p.valid e then (p.countBad, w)
  else
    let p := { p with tally.checkoutTime := p.tally.checkoutTime + e.checkoutTime w.clock }
    if w.isClosed e.connection then ((p.revoke e).countBad.signal, w)
    else
      let (p, w) := if p.reusable e then p.keep e w else p.discard e w
      (p.signal, w)

def closeAll (p : Pool) (w : World σ) : Pool × World σ :=
  discardAll (p.active.reverse ++ p.idle.reverse) { p.refreshCode with active := [], idle := [] } w

def forceCloseAll (p : Pool) (w : World σ) : Pool × World σ :=
  let (p, w) := p.closeAll w
  (p.signal, w)

def shutdown (p : Pool) (w : World σ) : Pool × World σ :=
  forceCloseAll { p with shutDown := true } w

def reconfigure (change : Pool → Pool) (p : Pool) (w : World σ) : Pool × World σ :=
  (change p).forceCloseAll w

inductive Setting where
  | driver (driver : Driver)
  | url (url : String)
  | username (username : Option String)
  | password (password : Option String)
  | properties (properties : Properties)
  | autoCommit (value : Bool)
  | isolation (level : Option Isolation)
  | maxActive (n : UInt64)
  | maxIdle (n : UInt64)
  | maxCheckoutMillis (n : UInt64)
  | waitMillis (n : UInt64)
  | pingEnabled (value : Bool)
  | pingQuery (query : String)
  | pingThresholdMillis (n : UInt64)
  | badTolerance (n : UInt64)
  deriving DecidableEq, Repr

def Setting.apply (p : Pool) : Setting → Pool
  | driver d => { p with source.driver := d }
  | url s => { p with source.url := s }
  | username s => { p with source.username := s }
  | password s => { p with source.password := s }
  | properties m => { p with source.properties := m }
  | autoCommit b => { p with source.autoCommit := b }
  | isolation level => { p with source.isolation := level }
  | maxActive n => { p with config := p.config.withMaxActive n }
  | maxIdle n => { p with config.maxIdle := n }
  | maxCheckoutMillis n => { p with config.maxCheckoutMillis := n }
  | waitMillis n => { p with config.waitMillis := n }
  | pingEnabled b => { p with config.pingEnabled := b }
  | pingQuery s => { p with config.pingQuery := s }
  | pingThresholdMillis n => { p with config.pingThresholdMillis := n }
  | badTolerance n => { p with config.badTolerance := n }

/-- Whether a setting leaves the connections of the pool as they are: it does if it only matters while
an acquire is under way. -/
def Setting.keepsConnections : Setting → Bool
  | badTolerance _ => true
  | _ => false

def set (setting : Setting) (p : Pool) (w : World σ) : Pool × World σ :=
  if setting.keepsConnections then (setting.apply p, w) else p.reconfigure setting.apply w

end ConnectionPool.Pool
