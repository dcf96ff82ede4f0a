import ConnectionPool.Toml.Lexical

/-! Points in time in TOML: a date, a time of day, or a date with a time and perhaps an offset. They
are kept as text in one form: a capital `T` and `Z`, and at most nine decimal places of a second
without trailing zeros. A year before a dash, an hour before a colon and the sign of an offset have
to be followed by the rest. -/
namespace ConnectionPool.Toml

def digitsWithin? (size low high : Nat) (s : List Char) : Option (Nat × List Char) :=
  let digits := s.take size
  if digits.length = size ∧ digits.all Char.isDigit then
    let n := Json.Numeral.natural digits
    if low ≤ n ∧ n ≤ high then some (n, s.drop size) else none
  else none

def mark? (allowed : List Char) : List Char → Option (List Char)
  | c :: s => if c ∈ allowed then some s else none
  | [] => none

def padded (size n : Nat) : List Char :=
  let digits := Nat.toDigits 10 n
  List.replicate (size - digits.length) '0' ++ digits

def daysIn (year month : Nat) : Nat :=
  if month = 2 then (if year % 4 = 0 ∧ (year % 100 ≠ 0 ∨ year % 400 = 0) then 29 else 28)
  else if month ∈ [4, 6, 9, 11] then 30 else 31

def date? (s : List Char) : Option (List Char × List Char) := do
  let (year, s) ← digitsWithin? 4 0 9999 s
  let s ← mark? ['-'] s
  let (month, s) ← digitsWithin? 2 1 12 s
  let s ← mark? ['-'] s
  let (day, s) ← digitsWithin? 2 1 (daysIn year month) s
  some (padded 4 year ++ '-' :: padded 2 month ++ '-' :: padded 2 day, s)

def secondPlaces (s : List Char) : List Char × List Char :=
  match s with
  | '.' :: t =>
    let digits := t.takeWhile Char.isDigit
    if digits.isEmpty then ([], s)
    else
      let kept := ((digits.take 9).reverse.dropWhile (· = '0')).reverse
      (if kept.isEmpty then [] else '.' :: kept, t.dropWhile Char.isDigit)
  | _ => ([], s)

def time? (s : List Char) : Option (List Char × List Char) := do
  let (hour, s) ← digitsWithin? 2 0 23 s
  let s ← mark? [':'] s
  let (minute, s) ← digitsWithin? 2 0 59 s
  let s ← mark? [':'] s
  let (second, s) ← digitsWithin? 2 0 60 s
  let (places, s) := secondPlaces s
  some (padded 2 hour ++ ':' :: padded 2 minute ++ ':' :: padded 2 second ++ places, s)

def datedHere (s : List Char) : Bool := (digitsWithin? 4 0 9999 s >>= fun r => mark? ['-'] r.2).isSome

def timedHere (s : List Char) : Bool := (digitsWithin? 2 0 23 s >>= fun r => mark? [':'] r.2).isSome

def offset? (s : List Char) : Option (List Char × List Char) :=
  match mark? ['Z', 'z'] s, mark? ['+', '-'] s with
  | some rest, _ => some (['Z'], rest)
  | none, none => some ([], s)
  | none, some rest => do
    let (hour, rest) ← digitsWithin? 2 0 23 rest
    let rest ← mark? [':'] rest
    let (minute, rest) ← digitsWithin? 2 0 59 rest
    let sign := if s.head? = some '-' ∧ (hour, minute) ≠ (0, 0) then '-' else '+'
    some (sign :: padded 2 hour ++ ':' :: padded 2 minute, rest)

def clock? (s : List Char) : Option (List Char × List Char) :=
  match mark? ['T', 't', ' '] s with
  | none => some ([], s)
  | some rest =>
    if timedHere rest then do
      let (time, rest) ← time? rest
      let (offset, rest) ← offset? rest
      some ('T' :: time ++ offset, rest)
    else some ([], s)

def moment? (s : List Char) : Option (List Char × List Char) :=
  if datedHere s then do
    let (date, s) ← date? s
    let (rest, s) ← clock? s
    some (date ++ rest, s)
  else time? s

end ConnectionPool.Toml
