import ConnectionPool.Document

/-! JSON numbers. An integer that fits 64 bits stays one, every other number becomes a double: its
leading digits, as many as fit 64 bits, are scaled by a power of ten in double arithmetic. -/
namespace ConnectionPool.Json

structure Numeral where
  negative : Bool
  whole : List Char
  places : Option (List Char)
  power : Option (Bool × List Char)
  deriving DecidableEq, Repr

namespace Numeral

def digits? (s : List Char) : Option (List Char × List Char) :=
  let found := s.takeWhile Char.isDigit
  if found.isEmpty then none else some (found, s.dropWhile Char.isDigit)

def places? : List Char → Option (Option (List Char) × List Char)
  | '.' :: s => (digits? s).map fun (found, rest) => (some found, rest)
  | s => some (none, s)

def power? : List Char → Option (Option (Bool × List Char) × List Char)
  | c :: s =>
    if c = 'e' || c = 'E' then
      match s with
      | '-' :: s => (digits? s).map fun (found, rest) => (some (true, found), rest)
      | '+' :: s => (digits? s).map fun (found, rest) => (some (false, found), rest)
      | s => (digits? s).map fun (found, rest) => (some (false, found), rest)
    else some (none, c :: s)
  | [] => some (none, [])

def read? (s : List Char) : Option (Numeral × List Char) := do
  let (negative, s) := match s with
    | '-' :: s => (true, s)
    | s => (false, s)
  let (whole, s) ← digits? s
  if whole.head? = some '0' ∧ whole.length ≠ 1 then none else
    let (places, s) ← places? s
    let (power, s) ← power? s
    some (⟨negative, whole, places, power⟩, s)

theorem digitsShorter {s found rest : List Char} (h : digits? s = some (found, rest)) :
    rest.length < s.length := by
  unfold digits? at h
  dsimp only at h
  split at h
  · contradiction
  · next nonempty =>
    obtain ⟨rfl, rfl⟩ := Prod.mk.inj (Option.some.inj h)
    have total := congrArg List.length (List.takeWhile_append_dropWhile (p := Char.isDigit) (l := s))
    have := List.length_pos_iff.2 (fun empty => nonempty (List.isEmpty_iff.2 empty))
    simp only [List.length_append] at total
    omega

theorem placesShorter {s rest : List Char} {found} (h : places? s = some (found, rest)) :
    rest.length ≤ s.length := by
  unfold places? at h
  split at h
  · obtain ⟨⟨_, _⟩, found, same⟩ := Option.map_eq_some_iff.1 h
    obtain ⟨_, rfl⟩ := Prod.mk.inj same
    have := digitsShorter found
    simp only [List.length_cons]
    omega
  · obtain ⟨_, rfl⟩ := Prod.mk.inj (Option.some.inj h)
    exact Nat.le_refl _

theorem powerShorter {s rest : List Char} {found} (h : power? s = some (found, rest)) :
    rest.length ≤ s.length := by
  unfold power? at h
  split at h
  · split at h
    · split at h <;>
      · obtain ⟨⟨_, _⟩, found, same⟩ := Option.map_eq_some_iff.1 h
        obtain ⟨_, rfl⟩ := Prod.mk.inj same
        have := digitsShorter found
        simp only [List.length_cons] at *
        omega
    · obtain ⟨_, rfl⟩ := Prod.mk.inj (Option.some.inj h)
      exact Nat.le_refl _
  · obtain ⟨_, rfl⟩ := Prod.mk.inj (Option.some.inj h)
    exact Nat.le_refl _

theorem readShorter {s rest : List Char} {n} (h : read? s = some (n, rest)) :
    rest.length < s.length := by
  unfold read? at h
  simp only [bind, Option.bind_eq_some_iff] at h
  obtain ⟨⟨_, s₁⟩, h₁, h⟩ := h
  split at h
  · contradiction
  · simp only [Option.bind_eq_some_iff] at h
    obtain ⟨⟨_, s₂⟩, h₂, ⟨_, s₃⟩, h₃, h⟩ := h
    obtain ⟨_, rfl⟩ := Prod.mk.inj (Option.some.inj h)
    have l₁ := digitsShorter h₁
    have l₂ := placesShorter h₂
    have l₃ := powerShorter h₃
    have : (match s with | '-' :: s => (true, s) | s => (false, s)).2.length ≤ s.length := by
      split <;> simp
    dsimp only at l₁ l₂ l₃ ⊢
    omega

def digitValue (c : Char) : Nat := c.toNat - '0'.toNat

def natural (digits : List Char) : Nat := digits.foldl (fun n c => 10 * n + digitValue c) 0

def gatherWhole : List Char → Nat → Nat × Nat
  | [], n => (n, 0)
  | c :: rest, n =>
    let m := 10 * n + digitValue c
    if m < UInt64.size then gatherWhole rest m else (n, rest.length + 1)

def gatherPlaces : List Char → Nat → Nat → Nat × Nat
  | [], n, taken => (n, taken)
  | c :: rest, n, taken =>
    let m := 10 * n + digitValue c
    if m < UInt64.size then gatherPlaces rest m (taken + 1) else (n, taken)

def scaledDown (x : Float) (power : Nat) : Float :=
  if power ≤ 308 then x / Float.ofScientific 1 false power
  else if x == 0 then x
  else scaledDown (x / 1e308) (power - 308)
termination_by power

def scaled (x : Float) (power : Int) : Option Float :=
  if power < 0 then some (scaledDown x power.natAbs)
  else if x == 0 then some x
  else if 308 < power then none
  else
    let y := x * Float.ofScientific 1 false power.toNat
    if y.isInf then none else some y

def toFloat (n : Numeral) : Option Float :=
  let (m, dropped) := gatherWhole n.whole 0
  let (m, taken) := gatherPlaces (n.places.getD []) m 0
  let shift : Int := match n.power with
    | none => 0
    | some (negative, digits) => if negative then -(natural digits : Int) else natural digits
  (scaled m.toUInt64.toFloat (shift + dropped - taken)).map fun x => if n.negative then -x else x

/-- The value of a number. A negative zero is a double, as it is not an integer. -/
def value (n : Numeral) : Document :=
  let double := match n.toFloat with
    | some x => .float x
    | none => .unreadable
  match n.places, n.power with
  | none, none =>
    let m := natural n.whole
    if n.negative then (if m = 0 ∨ 0x8000000000000000 < m then double else .integer (-(m : Int)))
    else if m < UInt64.size then .integer m else double
  | _, _ => double

end ConnectionPool.Json.Numeral
