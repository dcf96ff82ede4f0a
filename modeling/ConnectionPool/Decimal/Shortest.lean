import ConnectionPool.Binary64

/-! The shortest decimal that reads back as a double. A decimal reads back as `m * 2 ^ q` when it
lies between the midpoints to the neighbouring doubles; the midpoints themselves do when `m` is
even. Among the decimals with the fewest digits the one nearest to the double is taken; of two that
are equally near, the choice is left to who writes the number. -/
namespace ConnectionPool

structure Decimal where
  digits : Nat
  exponent : Int
  deriving DecidableEq, Repr

namespace Decimal

inductive Tie where
  | toEven
  | awayFromZero
  deriving DecidableEq, Repr

def Tie.roundsDown (tie : Tie) (below : Nat) : Bool := tie = .toEven && below % 2 == 0

structure Span where
  low : Nat
  value : Nat
  high : Nat
  closed : Bool
  exponent : Int
  deriving DecidableEq, Repr

def span (m : Nat) (q : Int) : Span :=
  let below := if m = Binary64.hidden ∧ -1074 < q then 1 else 2
  ⟨4 * m - below, 4 * m, 4 * m + 2, m % 2 == 0, q - 2⟩

def scales (s : Span) (k : Int) : Nat × Nat :=
  (Nat.pow 2 s.exponent.toNat * Nat.pow 10 (-k).toNat,
    Nat.pow 2 (-s.exponent).toNat * Nat.pow 10 k.toNat)

def within (s : Span) (k : Int) (d : Nat) : Bool :=
  let (a, b) := scales s k
  let x := d * b
  if s.closed then s.low * a ≤ x && x ≤ s.high * a else s.low * a < x && x < s.high * a

def onGrid (tie : Tie) (s : Span) (k : Int) : Option Decimal :=
  let (a, b) := scales s k
  let below := s.value * a / b
  let above := below + 1
  let fits := fun d => 0 < d && within s k d
  if fits below && fits above then
    let lost := s.value * a - below * b
    let gained := above * b - s.value * a
    some ⟨if lost < gained || (lost == gained && tie.roundsDown below) then below else above, k⟩
  else if fits below then some ⟨below, k⟩
  else if fits above then some ⟨above, k⟩
  else none

/-- The shortest decimal of `m * 2 ^ q`. The coarsest grid on which the search starts is wider than
the number, and seventeen digits always suffice. -/
def shortest (tie : Tie) (m : Nat) (q : Int) : Decimal :=
  let s := span m q
  let top := ((m.log2 : Int) + q) * 1233 / 4096 + 2
  ((List.range 22).findSome? fun i => onGrid tie s (top - (i : Nat))).getD ⟨0, 0⟩

end Decimal
end ConnectionPool
