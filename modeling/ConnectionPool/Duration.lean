import ConnectionPool.Binary64

/-! Lengths of time, counted in nanoseconds and limited to as many seconds as 64 bits can count. -/
namespace ConnectionPool

structure Duration where
  nanos : Nat
  nanos_lt : nanos < 0x10000000000000000 * 1000000000
  deriving DecidableEq, Repr

namespace Duration

def zero : Duration := ⟨0, by decide⟩

instance : Inhabited Duration := ⟨zero⟩

def ofNanos (n : Nat) : Duration := ⟨min n (0x10000000000000000 * 1000000000 - 1), by omega⟩

def ofMillis (n : UInt64) : Duration := ⟨n.toNat * 1000000, by have := n.toNat_lt; omega⟩

def secs (d : Duration) : Nat := d.nanos / 1000000000

def subsecNanos (d : Duration) : Nat := d.nanos % 1000000000

def ofParts? (secs : UInt64) (nanos : UInt32) : Option Duration :=
  let total := secs.toNat * 1000000000 + nanos.toNat
  if h : total < 0x10000000000000000 * 1000000000 then some ⟨total, h⟩ else none

def fraction (places n : Nat) : List Char :=
  let digits := Nat.toDigits 10 n
  let padded := List.replicate (places - digits.length) '0' ++ digits
  (padded.reverse.dropWhile (· == '0')).reverse

def inUnit (nanos places : Nat) (unit : String) : String :=
  let rest := fraction places (nanos % Nat.pow 10 places)
  toString (nanos / Nat.pow 10 places) ++ (if rest.isEmpty then "" else "." ++ String.ofList rest) ++ unit

def text (d : Duration) : String :=
  if 1000000000 ≤ d.nanos then inUnit d.nanos 9 "s"
  else if 1000000 ≤ d.nanos then inUnit d.nanos 6 "ms"
  else if 1000 ≤ d.nanos then inUnit d.nanos 3 "µs"
  else inUnit d.nanos 0 "ns"

def toFloat (d : Duration) : Float :=
  d.secs.toUInt64.toFloat + d.subsecNanos.toUInt64.toFloat / 1e9

def ofFloat (x : Float) : Duration :=
  match Binary64.ofFloat? x with
  | some ⟨false, m, e⟩ => ofNanos (Binary64.roundScaled (m * 1000000000) e)
  | _ => zero

/-- The mean of `count` lengths that add up to `total`: nothing if there are none, rounded down to a
nanosecond for a 32-bit count, and by way of doubles for a larger one. -/
def average (total : Duration) (count : UInt64) : Duration :=
  if count = 0 then zero
  else if count.toNat < UInt32.size then ⟨total.nanos / count.toNat, Nat.lt_of_le_of_lt (Nat.div_le_self ..) total.nanos_lt⟩
  else ofFloat (total.toFloat / count.toFloat)

end Duration
end ConnectionPool
