import ConnectionPool.Pool.Release

/-! What the holder of a connection has in hand. A handle leads to its connection while the pool that
issued it considers its entry valid and the holder has not given it back. -/
namespace ConnectionPool

structure Handle where
  entry : Entry
  released : Bool
  deriving DecidableEq, Repr

namespace Handle

def new (e : Entry) : Handle := ⟨e, false⟩

def valid (h : Handle) (p : Pool) : Bool := !h.released && p.valid h.entry

def connection (h : Handle) (p : Pool) : Except Error Nat :=
  if h.valid p then .ok h.entry.connection else .error .invalidHandle

variable {σ : Type} [Conditions σ]

def isClosed (h : Handle) (p : Pool) (w : World σ) : Bool :=
  !h.valid p || w.isClosed h.entry.connection

def use {α : Type} (h : Handle) (p : Pool) (action : Nat → Action σ α) : Action σ α := do
  action (← Action.lift (h.connection p))

def ping (h : Handle) (p : Pool) (sql : String) (w : World σ) : Except PingError Nat × World σ :=
  if h.valid p then Database.ping h.entry.connection sql w else (.error .connectionClosed, w)

def validate (h : Handle) (p : Pool) (config : Config) (w : World σ) : Bool × World σ :=
  if h.valid p then h.entry.probe config w else (false, w)

def giveBack (h : Handle) (p : Pool) (w : World σ) : Handle × Pool × World σ :=
  if h.released then (h, p, w)
  else
    let (p, w) := p.release h.entry w
    ({ h with released := true }, p, w)

def close (h : Handle) (p : Pool) (w : World σ) : Except Error Unit × Handle × Pool × World σ :=
  if h.released then (.error .alreadyClosed, h, p, w) else (.ok (), h.giveBack p w)

def debug (h : Handle) (p : Pool) (w : World σ) (mark : String) : String :=
  Text.record "PooledConnection" [
    ("id", mark),
    ("driver", Text.quoted (w.driverName h.entry.connection)),
    ("valid", toString (h.valid p)),
    ("checkout_time", (Duration.ofNanos (h.entry.checkoutTime w.clock)).text)]

end Handle
end ConnectionPool
