import ConnectionPool.Document.Shape
import ConnectionPool.Duration

/-! The configuration of a pool: its limits, its time limits in milliseconds, and the query by which
it tests connections that have been out of use. -/
namespace ConnectionPool

structure Config where
  maxActive : UInt64
  maxIdle : UInt64
  maxCheckoutMillis : UInt64
  waitMillis : UInt64
  badTolerance : UInt64
  pingEnabled : Bool
  pingQuery : String
  pingThresholdMillis : UInt64
  deriving DecidableEq, Repr

namespace Config

def new (maxActive maxIdle : UInt64) : Config where
  maxActive := max maxActive 1
  maxIdle := maxIdle
  maxCheckoutMillis := 20000
  waitMillis := 20000
  badTolerance := 3
  pingEnabled := false
  pingQuery := "NO PING QUERY SET"
  pingThresholdMillis := 0

def standard : Config := new 10 5

instance : Inhabited Config := ⟨standard⟩

def withMaxActive (c : Config) (n : UInt64) : Config := { c with maxActive := max n 1 }

theorem allowsOne (c : Config) (n : UInt64) : 1 ≤ (c.withMaxActive n).maxActive.toNat := by
  have raised : (c.withMaxActive n).maxActive = if n ≤ 1 then 1 else n := rfl
  rw [raised]
  split
  · decide
  · rename_i more
    rw [UInt64.le_iff_toNat_le] at more
    exact Nat.le_of_not_le more

def withPing (c : Config) (query : String) (thresholdMillis : UInt64) : Config :=
  { c with pingEnabled := true, pingQuery := query, pingThresholdMillis := thresholdMillis }

def maxCheckout (c : Config) : Duration := .ofMillis c.maxCheckoutMillis
def wait (c : Config) : Duration := .ofMillis c.waitMillis
def pingThreshold (c : Config) : Duration := .ofMillis c.pingThresholdMillis

def badLimit (c : Config) : Nat := min (c.maxIdle.toNat + c.badTolerance.toNat) (UInt64.size - 1)

def numberField (name kind : String) (get : Config → UInt64) (set : UInt64 → Config → Config) :
    Field Config :=
  .of name false (fun _ d => d.asUInt64 kind) (fun n => some (.ofUInt64 n)) get set

def shape : Shape Config where
  expected := "struct PoolConfig"
  expectedList := "struct PoolConfig with 8 elements"
  blank := standard
  closed := false
  fields := [
    numberField "max_active" "usize" (·.maxActive) (fun n c => { c with maxActive := n }),
    numberField "max_idle" "usize" (·.maxIdle) (fun n c => { c with maxIdle := n }),
    numberField "max_checkout_time_ms" "u64" (·.maxCheckoutMillis)
      (fun n c => { c with maxCheckoutMillis := n }),
    numberField "time_to_wait_ms" "u64" (·.waitMillis) (fun n c => { c with waitMillis := n }),
    numberField "bad_connection_tolerance" "usize" (·.badTolerance)
      (fun n c => { c with badTolerance := n }),
    .of "ping_enabled" false (fun _ d => d.asBool) (fun b => some (.bool b)) (·.pingEnabled)
      (fun b c => { c with pingEnabled := b }),
    .of "ping_query" false (fun _ d => d.asText) (fun s => some (.text s)) (·.pingQuery)
      (fun s c => { c with pingQuery := s }),
    numberField "ping_idle_threshold_ms" "u64" (·.pingThresholdMillis)
      (fun n c => { c with pingThresholdMillis := n })]

def debug (c : Config) : String :=
  Text.record "PoolConfig" [
    ("max_active", toString c.maxActive.toNat),
    ("max_idle", toString c.maxIdle.toNat),
    ("max_checkout_time_ms", toString c.maxCheckoutMillis.toNat),
    ("time_to_wait_ms", toString c.waitMillis.toNat),
    ("bad_connection_tolerance", toString c.badTolerance.toNat),
    ("ping_enabled", toString c.pingEnabled),
    ("ping_query", Text.quoted c.pingQuery),
    ("ping_idle_threshold_ms", toString c.pingThresholdMillis.toNat)]

end Config
end ConnectionPool
