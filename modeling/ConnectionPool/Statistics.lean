import ConnectionPool.Document.Shape
import ConnectionPool.Duration

/-! The statistics of a pool at one moment, the averages that follow from them, and their texts. -/
namespace ConnectionPool

structure Statistics where
  idle : UInt64
  active : UInt64
  requests : UInt64
  requestTime : Duration
  checkoutTime : Duration
  overdueClaims : UInt64
  overdueTime : Duration
  waits : UInt64
  waitTime : Duration
  badConnections : UInt64
  deriving DecidableEq, Repr

namespace Statistics

def zero : Statistics := ⟨0, 0, 0, .zero, .zero, 0, .zero, 0, .zero, 0⟩

instance : Inhabited Statistics := ⟨zero⟩

def total (s : Statistics) : UInt64 := s.idle + s.active

def averageRequest (s : Statistics) : Duration := .average s.requestTime s.requests
def averageWait (s : Statistics) : Duration := .average s.waitTime s.waits
def averageCheckout (s : Statistics) : Duration := .average s.checkoutTime s.requests
def averageOverdue (s : Statistics) : Duration := .average s.overdueTime s.overdueClaims

def utilization (s : Statistics) : Float :=
  if s.total = 0 then 0 else s.active.toFloat / s.total.toFloat

def durationShape : Shape (UInt64 × UInt32) where
  expected := "struct Duration"
  expectedList := "struct Duration"
  blank := (0, 0)
  closed := true
  fields := [
    .of "secs" true (fun _ d => d.asUInt64 "u64") (fun n => some (.ofUInt64 n)) (·.1)
      (fun n p => (n, p.2)),
    .of "nanos" true (fun _ d => d.asUInt32) (fun n => some (.integer n.toNat)) (·.2)
      (fun n p => (p.1, n))]

def durationOfParts (parts : UInt64 × UInt32) : Decoded Duration :=
  match Duration.ofParts? parts.1 parts.2 with
  | some duration => .ok duration
  | none => .error .durationOverflow

def readDuration : Format → Document → Decoded Duration := durationShape.decodeAs durationOfParts

def writeDuration (d : Duration) : Document :=
  durationShape.encode (d.secs.toUInt64, d.subsecNanos.toUInt32)

def countField (name kind : String) (get : Statistics → UInt64)
    (set : UInt64 → Statistics → Statistics) : Field Statistics :=
  .of name true (fun _ d => d.asUInt64 kind) (fun n => some (.ofUInt64 n)) get set

def timeField (name : String) (get : Statistics → Duration)
    (set : Duration → Statistics → Statistics) : Field Statistics :=
  .of name true readDuration (fun d => some (writeDuration d)) get set

def shape : Shape Statistics where
  expected := "struct PoolStats"
  expectedList := "struct PoolStats with 10 elements"
  blank := zero
  closed := false
  fields := [
    countField "idle" "usize" (·.idle) (fun n s => { s with idle := n }),
    countField "active" "usize" (·.active) (fun n s => { s with active := n }),
    countField "request_count" "u64" (·.requests) (fun n s => { s with requests := n }),
    timeField "accumulated_request_time" (·.requestTime) (fun d s => { s with requestTime := d }),
    timeField "accumulated_checkout_time" (·.checkoutTime) (fun d s => { s with checkoutTime := d }),
    countField "claimed_overdue_count" "u64" (·.overdueClaims)
      (fun n s => { s with overdueClaims := n }),
    timeField "accumulated_overdue_checkout_time" (·.overdueTime)
      (fun d s => { s with overdueTime := d }),
    countField "had_to_wait_count" "u64" (·.waits) (fun n s => { s with waits := n }),
    timeField "accumulated_wait_time" (·.waitTime) (fun d s => { s with waitTime := d }),
    countField "bad_connection_count" "u64" (·.badConnections)
      (fun n s => { s with badConnections := n })]

def summary (s : Statistics) : String :=
  "\x7b " ++ Text.listing [
    ("active", toString s.active.toNat),
    ("idle", toString s.idle.toNat),
    ("requests", toString s.requests.toNat),
    ("avg_request", s.averageRequest.text),
    ("avg_checkout", s.averageCheckout.text),
    ("overdue_claimed", toString s.overdueClaims.toNat),
    ("avg_overdue_checkout", s.averageOverdue.text),
    ("waited", toString s.waits.toNat),
    ("avg_wait", s.averageWait.text),
    ("bad_connections", toString s.badConnections.toNat)] ++ " \x7d"

def debug (s : Statistics) : String :=
  Text.record "PoolStats" [
    ("idle", toString s.idle.toNat),
    ("active", toString s.active.toNat),
    ("request_count", toString s.requests.toNat),
    ("accumulated_request_time", s.requestTime.text),
    ("accumulated_checkout_time", s.checkoutTime.text),
    ("claimed_overdue_count", toString s.overdueClaims.toNat),
    ("accumulated_overdue_checkout_time", s.overdueTime.text),
    ("had_to_wait_count", toString s.waits.toNat),
    ("accumulated_wait_time", s.waitTime.text),
    ("bad_connection_count", toString s.badConnections.toNat)]

end Statistics
end ConnectionPool
