import ConnectionPool.Config
import ConnectionPool.Ping

/-! The records that a pool keeps of its connections. An entry stands for one connection between two
changes of hands: when a connection is given back or taken over, a new entry takes the place of the
old one, which is never used again. -/
namespace ConnectionPool

structure Entry where
  serial : Nat
  identity : Nat
  connection : Nat
  /-- The type code of the target that the connection was last handed out for. -/
  typeCode : UInt64
  createdAt : Nat
  lastUsedAt : Nat
  checkoutAt : Nat
  deriving DecidableEq, Repr

namespace Entry

def new (serial identity connection now : Nat) : Entry :=
  ⟨serial, identity, connection, 0, now, now, now⟩

def rewrap (e : Entry) (serial now : Nat) : Entry := { e with serial := serial, checkoutAt := now }

def checkOut (e : Entry) (typeCode : UInt64) (now : Nat) : Entry :=
  { e with typeCode := typeCode, checkoutAt := now, lastUsedAt := now }

def checkoutTime (e : Entry) (now : Nat) : Nat := now - e.checkoutAt

def unusedTime (e : Entry) (now : Nat) : Nat := now - e.lastUsedAt

variable {σ : Type} [Conditions σ]

def rollbackIfNeeded (e : Entry) : Action σ Unit := do
  if !(← Database.autoCommit e.connection) then Database.rollback e.connection

def close (e : Entry) (w : World σ) : World σ :=
  (Database.close e.connection).effect (e.rollbackIfNeeded.effect w)

/-- Time passes before it is seen how long the entry was out of use, so that even a connection that was
opened just now may be tested. -/
def probe (e : Entry) (config : Config) (w : World σ) : Bool × World σ :=
  if w.isClosed e.connection then (false, w)
  else if !config.pingEnabled || e.unusedTime w.lapse.clock ≤ config.pingThreshold.nanos then
    (true, w.lapse)
  else
    match Database.ping e.connection config.pingQuery w.lapse with
    | (.ok _, w) => (true, w)
    | (.error _, w) => (false, (Database.close e.connection).effect w)

end Entry
end ConnectionPool
