import ConnectionPool.Decimal.Shortest

/-! How doubles are written: with the fewest digits that read back, positionally or with a power of
ten. -/
namespace ConnectionPool.Decimal

structure Style where
  positional : Int → Bool
  tie : Tie
  infinity : String
  notNumber : String

def Style.plain : Style := ⟨fun _ => true, .awayFromZero, "inf", "NaN"⟩

def Style.compact : Style := ⟨fun p => -5 ≤ p && p ≤ 15, .toEven, "null", "null"⟩

def digitsOf (n : Nat) : List Char := Nat.toDigits 10 n

def zeros (n : Nat) : List Char := List.replicate n '0'

def positional (d : Decimal) : List Char :=
  let digits := digitsOf d.digits
  if 0 ≤ d.exponent then digits ++ zeros d.exponent.toNat ++ ['.', '0']
  else
    let places := (-d.exponent).toNat
    if digits.length ≤ places then '0' :: '.' :: zeros (places - digits.length) ++ digits
    else digits.take (digits.length - places) ++ '.' :: digits.drop (digits.length - places)

def powered (d : Decimal) (power : Int) : List Char :=
  let digits := digitsOf d.digits
  digits.take 1 ++ (if digits.length = 1 then [] else '.' :: digits.drop 1) ++
    ['e', if power < 0 then '-' else '+'] ++ digitsOf power.natAbs

def write (style : Style) (x : Float) : String :=
  match Binary64.ofFloat? x with
  | none =>
    if x.isNaN then style.notNumber
    else if x < 0 then "-" ++ style.infinity else style.infinity
  | some ⟨negative, m, q⟩ =>
    let body := if m = 0 then ['0', '.', '0'] else
      let d := shortest style.tie m q
      let power := d.exponent + (digitsOf d.digits).length - 1
      if style.positional power then positional d else powered d power
    String.ofList (if negative then '-' :: body else body)

end ConnectionPool.Decimal
