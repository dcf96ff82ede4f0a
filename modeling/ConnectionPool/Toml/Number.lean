import ConnectionPool.Toml.Lexical

/-! Numbers in TOML. An integer has to fit 64 bits with its sign; a decimal number is read as the
nearest double, and may not be too large for one. A point, a power of ten, an underscore or the mark
of a base has to be followed by what belongs to it; it is never left over after a shorter number. -/
namespace ConnectionPool.Toml

inductive Number where
  | integer (n : Int)
  | double (x : Float)

def sign : List Char → Bool × List Char
  | '-' :: s => (true, s)
  | '+' :: s => (false, s)
  | s => (false, s)

def whole? : List Char → Option (List Char × List Char)
  | '0' :: s => some (['0'], s)
  | s => digits? Char.isDigit s

def within64 (n : Int) : Option Int :=
  if -0x8000000000000000 ≤ n ∧ n < 0x8000000000000000 then some n else none

def based (base : Nat) (digits : List Char) : Nat :=
  digits.foldl (fun n c => base * n + (Json.hexValue? c).getD 0) 0

def isHex (c : Char) : Bool := (Json.hexValue? c).isSome
def isOctal (c : Char) : Bool := '0' ≤ c && c ≤ '7'
def isBinary (c : Char) : Bool := c = '0' || c = '1'

def radix? (base : Nat) (digit : Char → Bool) (s : List Char) : Option (Number × List Char) := do
  let (ds, s) ← digits? digit s
  let n ← within64 (based base ds)
  some (.integer n, s)

def power? (s : List Char) : Option (Option Int × List Char) :=
  match s with
  | c :: t =>
    if c = 'e' ∨ c = 'E' then do
      let (negative, t) := sign t
      let (ds, t) ← digits? Char.isDigit t
      let n := Json.Numeral.natural ds
      some (some (if negative then -(n : Int) else n), t)
    else some (none, s)
  | [] => some (none, s)

def places? : List Char → Option (Option (List Char) × List Char)
  | '.' :: s => (digits? Char.isDigit s).map fun (ds, rest) => (some ds, rest)
  | s => some (none, s)

def nearest (m : Nat) (e : Int) : Float :=
  let size := (Nat.toDigits 10 m).length + e
  if m = 0 ∨ size < -400 then 0
  else if 400 < size then 1 / 0
  else if e < 0 then Float.ofScientific m true e.natAbs else Float.ofScientific m false e.natAbs

def named? : List Char → Option (Float × List Char)
  | 'i' :: 'n' :: 'f' :: s => some (1 / 0, s)
  | 'n' :: 'a' :: 'n' :: s => some (0 / 0, s)
  | _ => none

def bounded (negative : Bool) (x : Float) : Option Float :=
  if negative then some (-x) else if x.isInf then none else some x

def decimal? (negative : Bool) (s : List Char) : Option (Number × List Char) := do
  let (whole, s) ← whole? s
  let (places, s) ← places? s
  let (power, s) ← power? s
  if places.isNone ∧ power.isNone then
    let m := Json.Numeral.natural whole
    let n ← within64 (if negative then -(m : Int) else m)
    some (.integer n, s)
  else
    let places := places.getD []
    let m := Json.Numeral.natural (whole ++ places)
    let x ← bounded negative (nearest m (power.getD 0 - places.length))
    some (.double x, s)

def number? : List Char → Option (Number × List Char)
  | '0' :: 'x' :: s => radix? 16 isHex s
  | '0' :: 'o' :: s => radix? 8 isOctal s
  | '0' :: 'b' :: s => radix? 2 isBinary s
  | s =>
    let (negative, s) := sign s
    match named? s with
    | some (x, rest) => some (.double (if negative then -x else x), rest)
    | none => decimal? negative s

end ConnectionPool.Toml
