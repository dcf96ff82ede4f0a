/-! Double-precision numbers taken apart: a sign and a natural number times a power of two. What is
said about a double elsewhere is said in exact arithmetic about these parts. -/
namespace ConnectionPool

structure Binary64 where
  negative : Bool
  mantissa : Nat
  exponent : Int
  deriving DecidableEq, Repr

namespace Binary64

def hidden : Nat := 0x10000000000000

def ofFloat? (x : Float) : Option Binary64 :=
  let bits : Nat := x.toBits.toNat
  let fraction : Nat := bits % hidden
  let field : Nat := bits / hidden % 0x800
  let negative := bits / 0x8000000000000000 == 1
  if field = 2047 then none
  else if field = 0 then some ⟨negative, fraction, -1074⟩
  else some ⟨negative, hidden + fraction, (field : Int) - 1075⟩

def roundScaled (n : Nat) (exponent : Int) : Nat :=
  if 0 ≤ exponent then n * Nat.pow 2 exponent.toNat
  else
    let unit := Nat.pow 2 (-exponent).toNat
    let whole := n / unit
    let rest := n % unit
    if 2 * rest < unit then whole
    else if unit < 2 * rest then whole + 1
    else whole + whole % 2

end Binary64
end ConnectionPool
