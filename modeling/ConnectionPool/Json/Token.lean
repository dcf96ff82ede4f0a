import ConnectionPool.Json.Number

/-! The tokens of JSON: how a text is cut into them, and how each is written. Cutting stops with a
last token `broken` at the first place where none begins. -/
namespace ConnectionPool.Json

inductive Token where
  | openList
  | closeList
  | openTable
  | closeTable
  | colon
  | comma
  | text (s : Option String)
  | scalar (d : Document)
  | broken

inductive Piece where
  | char (c : Char)
  | unit (n : Nat)
  deriving DecidableEq, Repr

def hexValue? (c : Char) : Option Nat :=
  if c.isDigit then some (c.toNat - '0'.toNat)
  else if 'a' ≤ c ∧ c ≤ 'f' then some (c.toNat - 'a'.toNat + 10)
  else if 'A' ≤ c ∧ c ≤ 'F' then some (c.toNat - 'A'.toNat + 10)
  else none

def hexNumber? (digits : List Char) : Option Nat :=
  digits.foldlM (fun n c => (hexValue? c).map (16 * n + ·)) 0

def unescape? : Char → Option Char
  | '"' => some '"'
  | '\\' => some '\\'
  | '/' => some '/'
  | 'b' => some '\x08'
  | 'f' => some '\x0c'
  | 'n' => some '\n'
  | 'r' => some '\r'
  | 't' => some '\t'
  | _ => none

def pieces? : List Char → Option (List Piece × List Char)
  | [] => none
  | c :: s =>
    if c = '"' then some ([], s)
    else if c = '\\' then
      match s with
      | 'u' :: a :: b :: c :: d :: s => do
        let n ← hexNumber? [a, b, c, d]
        let (ps, rest) ← pieces? s
        some (.unit n :: ps, rest)
      | e :: s => do
        let c ← unescape? e
        let (ps, rest) ← pieces? s
        some (.char c :: ps, rest)
      | [] => none
    else if c.toNat < 0x20 then none
    else do
      let (ps, rest) ← pieces? s
      some (.char c :: ps, rest)

theorem piecesShorter {s rest : List Char} {ps} (h : pieces? s = some (ps, rest)) :
    rest.length < s.length := by
  fun_induction pieces? s generalizing ps rest with
  | case1 => contradiction
  | case2 s => obtain ⟨_, rfl⟩ := Prod.mk.inj (Option.some.inj h); simp
  | case3 a b c d s _ ih =>
    simp only [bind, Option.bind_eq_some_iff] at h
    obtain ⟨_, _, ⟨_, _⟩, tail, same⟩ := h
    obtain ⟨_, rfl⟩ := Prod.mk.inj (Option.some.inj same)
    have := ih tail
    simp only [List.length_cons]
    omega
  | case4 e s _ _ ih =>
    simp only [bind, Option.bind_eq_some_iff] at h
    obtain ⟨_, _, ⟨_, _⟩, tail, same⟩ := h
    obtain ⟨_, rfl⟩ := Prod.mk.inj (Option.some.inj same)
    have := ih tail
    simp only [List.length_cons]
    omega
  | case5 => contradiction
  | case6 => contradiction
  | case7 c s _ _ _ ih =>
    simp only [bind, Option.bind_eq_some_iff] at h
    obtain ⟨⟨_, _⟩, tail, same⟩ := h
    obtain ⟨_, rfl⟩ := Prod.mk.inj (Option.some.inj same)
    have := ih tail
    simp only [List.length_cons]
    omega

def assemble : List Piece → Option (List Char)
  | [] => some []
  | .char c :: ps => (assemble ps).map (c :: ·)
  | .unit n :: ps =>
    if 0xd800 ≤ n ∧ n < 0xdc00 then
      match ps with
      | .unit m :: ps =>
        if 0xdc00 ≤ m ∧ m < 0xe000 then
          (assemble ps).map (Char.ofNat (0x10000 + (n - 0xd800) * 0x400 + (m - 0xdc00)) :: ·)
        else none
      | _ => none
    else if 0xdc00 ≤ n ∧ n < 0xe000 then none
    else (assemble ps).map (Char.ofNat n :: ·)

def textToken (ps : List Piece) : Token := .text ((assemble ps).map String.ofList)

def word? (w s : List Char) : Option (List Char) :=
  if w.isPrefixOf s then some (s.drop w.length) else none

theorem wordShorter {w s rest : List Char} (nonempty : 0 < w.length) (h : word? w s = some rest) :
    rest.length < s.length := by
  unfold word? at h
  split at h
  · next found =>
    have := (List.isPrefixOf_iff_prefix.1 found).length_le
    cases Option.some.inj h
    simp only [List.length_drop]
    omega
  · contradiction

def mark? (c : Char) : Option Token :=
  if c = '[' then some .openList
  else if c = ']' then some .closeList
  else if c = '\x7b' then some .openTable
  else if c = '\x7d' then some .closeTable
  else if c = ':' then some .colon
  else if c = ',' then some .comma
  else none

def words : List (List Char × Document) :=
  [(['t', 'r', 'u', 'e'], .bool true), (['f', 'a', 'l', 's', 'e'], .bool false),
    (['n', 'u', 'l', 'l'], .null)]

def token? : List Char → Option (Token × List Char)
  | [] => none
  | c :: s =>
    match mark? c with
    | some mark => some (mark, s)
    | none =>
      if c = '"' then (pieces? s).map fun (ps, rest) => (textToken ps, rest)
      else if c = '-' ∨ c.isDigit then
        (Numeral.read? (c :: s)).map fun (n, rest) => (.scalar n.value, rest)
      else words.findSome? fun (w, d) => (word? w (c :: s)).map fun rest => (.scalar d, rest)

theorem tokenShorter {s rest : List Char} {t} (h : token? s = some (t, rest)) :
    rest.length < s.length := by
  unfold token? at h
  split at h
  · contradiction
  · split at h
    · obtain ⟨_, rfl⟩ := Prod.mk.inj (Option.some.inj h); simp
    · split at h
      · obtain ⟨⟨_, _⟩, found, same⟩ := Option.map_eq_some_iff.1 h
        obtain ⟨_, rfl⟩ := Prod.mk.inj same
        have := piecesShorter found
        simp only [List.length_cons]
        omega
      · split at h
        · obtain ⟨⟨_, _⟩, found, same⟩ := Option.map_eq_some_iff.1 h
          obtain ⟨_, rfl⟩ := Prod.mk.inj same
          exact Numeral.readShorter found
        · obtain ⟨⟨w, d⟩, member, found⟩ := List.exists_of_findSome?_eq_some h
          dsimp only at found
          obtain ⟨_, cut, same⟩ := Option.map_eq_some_iff.1 found
          obtain ⟨_, rfl⟩ := Prod.mk.inj same
          refine wordShorter ?_ cut
          simp only [words, List.mem_cons, List.not_mem_nil, or_false, Prod.mk.injEq] at member
          rcases member with ⟨rfl, _⟩ | ⟨rfl, _⟩ | ⟨rfl, _⟩ <;> decide

def blank (c : Char) : Bool := c = ' ' || c = '\t' || c = '\n' || c = '\r'

def tokens (s : List Char) : List Token :=
  match _start : s.dropWhile blank with
  | [] => []
  | c :: rest =>
    match _cut : token? (c :: rest) with
    | none => [.broken]
    | some (t, rest) => t :: tokens rest
termination_by s.length
decreasing_by
  have := tokenShorter _cut
  have : (s.dropWhile blank).length ≤ s.length := (List.dropWhile_sublist _).length_le
  rw [_start] at this
  omega

def twoHex (n : Nat) : List Char := [Nat.digitChar (n / 16), Nat.digitChar (n % 16)]

def escape (c : Char) : List Char :=
  if c = '"' then ['\\', '"']
  else if c = '\\' then ['\\', '\\']
  else if c = '\x08' then ['\\', 'b']
  else if c = '\x0c' then ['\\', 'f']
  else if c = '\n' then ['\\', 'n']
  else if c = '\r' then ['\\', 'r']
  else if c = '\t' then ['\\', 't']
  else if c.toNat < 0x20 then ['\\', 'u', '0', '0'] ++ twoHex c.toNat
  else [c]

def quote (s : String) : List Char := '"' :: s.toList.flatMap escape ++ ['"']

def integer : Int → List Char
  | .ofNat n => Nat.toDigits 10 n
  | .negSucc n => '-' :: Nat.toDigits 10 (n + 1)

def Token.write : Token → List Char
  | openList => ['[']
  | closeList => [']']
  | openTable => ['\x7b']
  | closeTable => ['\x7d']
  | colon => [':']
  | comma => [',']
  | text s => quote (s.getD "")
  | scalar (.bool true) => ['t', 'r', 'u', 'e']
  | scalar (.bool false) => ['f', 'a', 'l', 's', 'e']
  | scalar (.integer n) => integer n
  | scalar (.float x) => (Decimal.write .compact x).toList
  | scalar _ => ['n', 'u', 'l', 'l']
  | broken => []

end ConnectionPool.Json
