import ConnectionPool.Json.Token

/-! The smallest parts of TOML: blanks, line ends, comments, quoted texts and digits. A reader takes
the text at hand and gives what it has read and what is left, or nothing if its part is not there. -/
namespace ConnectionPool.Toml

def blank (c : Char) : Bool := c = ' ' || c = '\t'

def skipBlanks (s : List Char) : List Char := s.dropWhile blank

def visible (c : Char) : Bool := c = '\t' || (0x20 ≤ c.toNat && c.toNat ≠ 0x7f)

def newline? : List Char → Option (List Char)
  | '\n' :: s => some s
  | '\r' :: '\n' :: s => some s
  | _ => none

def skipComment : List Char → List Char
  | '#' :: s => s.dropWhile visible
  | s => s

def lineEnd? (s : List Char) : Option (List Char) :=
  match skipComment (skipBlanks s) with
  | [] => some []
  | s => newline? s

def skipBreaks : List Char → List Char
  | ' ' :: s => skipBreaks s
  | '\t' :: s => skipBreaks s
  | '\n' :: s => skipBreaks s
  | '\r' :: '\n' :: s => skipBreaks s
  | s => s

def unescape? : Char → Option Char
  | 'b' => some '\x08'
  | 't' => some '\t'
  | 'n' => some '\n'
  | 'f' => some '\x0c'
  | 'r' => some '\r'
  | '"' => some '"'
  | '\\' => some '\\'
  | _ => none

def codePoint? (size : Nat) (s : List Char) : Option (Char × List Char) := do
  let digits := s.take size
  if digits.length ≠ size then none else
    let n ← Json.hexNumber? digits
    if n < 0xd800 ∨ (0xdfff < n ∧ n < 0x110000) then some (Char.ofNat n, s.drop size) else none

def escaped? : List Char → Option (Char × List Char)
  | 'u' :: s => codePoint? 4 s
  | 'U' :: s => codePoint? 8 s
  | c :: s => (unescape? c).map (·, s)
  | [] => none

theorem codePointShorter {size : Nat} {s rest : List Char} {c : Char}
    (h : codePoint? size s = some (c, rest)) : rest.length ≤ s.length := by
  unfold codePoint? at h
  dsimp only at h
  split at h
  · contradiction
  · simp only [bind, Option.bind_eq_some_iff] at h
    obtain ⟨_, _, h⟩ := h
    split at h
    · obtain ⟨_, rfl⟩ := Prod.mk.inj (Option.some.inj h)
      simp only [List.length_drop]
      omega
    · contradiction

theorem escapedShorter {s rest : List Char} {c : Char} (h : escaped? s = some (c, rest)) :
    rest.length < s.length := by
  unfold escaped? at h
  split at h
  · have := codePointShorter h; simp only [List.length_cons]; omega
  · have := codePointShorter h; simp only [List.length_cons]; omega
  · obtain ⟨_, _, same⟩ := Option.map_eq_some_iff.1 h
    obtain ⟨_, rfl⟩ := Prod.mk.inj same
    simp
  · contradiction

theorem newlineShorter {s rest : List Char} (h : newline? s = some rest) :
    rest.length < s.length := by
  unfold newline? at h
  split at h
  · cases Option.some.inj h; simp
  · cases Option.some.inj h; simp only [List.length_cons]; omega
  · contradiction

theorem skipBreaksShorter (s : List Char) : (skipBreaks s).length ≤ s.length := by
  fun_induction skipBreaks s with
  | case5 => exact Nat.le_refl _
  | _ => simp only [List.length_cons]; omega

def continued? (s : List Char) : Option (List Char) := (newline? (skipBlanks s)).map skipBreaks

theorem continuedShorter {s rest : List Char} (h : continued? s = some rest) :
    rest.length < s.length := by
  obtain ⟨after, found, rfl⟩ := Option.map_eq_some_iff.1 h
  have a := newlineShorter found
  have b := skipBreaksShorter after
  have c : (skipBlanks s).length ≤ s.length := (List.dropWhile_sublist _).length_le
  omega

def basic? (s : List Char) : Option (List Char × List Char) :=
  match s with
  | [] => none
  | c :: s =>
    if c = '"' then some ([], s)
    else if c = '\\' then
      match _cut : escaped? s with
      | none => none
      | some (c, s) => (basic? s).map fun (cs, rest) => (c :: cs, rest)
    else if visible c then (basic? s).map fun (cs, rest) => (c :: cs, rest)
    else none
termination_by s.length
decreasing_by
  · have := escapedShorter _cut
    simp only [List.length_cons]
    omega
  · simp

def literal? : List Char → Option (List Char × List Char)
  | [] => none
  | c :: s =>
    if c = '\'' then some ([], s)
    else if visible c then (literal? s).map fun (cs, rest) => (c :: cs, rest)
    else none

def closing? (q : Char) (s : List Char) : Option (List Char × List Char) :=
  let run := (s.takeWhile (· == q)).length
  if run < 3 then none else some (List.replicate (min (run - 3) 2) q, s.drop (min run 5))

def lines? (q : Char) (s : List Char) : Option (List Char × List Char) :=
  match closing? q s with
  | some (quotes, rest) => some (quotes, rest)
  | none =>
    match s with
    | [] => none
    | c :: s =>
      if c = '\\' ∧ q = '"' then
        match _skip : continued? s with
        | some s => lines? q s
        | none =>
          match _cut : escaped? s with
          | none => none
          | some (c, s) => (lines? q s).map fun (cs, rest) => (c :: cs, rest)
      else
        match _break : newline? (c :: s) with
        | some s => (lines? q s).map fun (cs, rest) => ('\n' :: cs, rest)
        | none =>
          if visible c then (lines? q s).map fun (cs, rest) => (c :: cs, rest) else none
termination_by s.length
decreasing_by
  · have := continuedShorter _skip
    simp only [List.length_cons]
    omega
  · have := escapedShorter _cut
    simp only [List.length_cons]
    omega
  · exact newlineShorter _break
  · simp

def quoted? : List Char → Option (List Char × List Char)
  | '"' :: '"' :: '"' :: s => lines? '"' ((newline? s).getD s)
  | '\'' :: '\'' :: '\'' :: s => lines? '\'' ((newline? s).getD s)
  | '"' :: s => basic? s
  | '\'' :: s => literal? s
  | _ => none

def moreDigits (digit : Char → Bool) : List Char → Option (List Char × List Char)
  | [] => some ([], [])
  | c :: s =>
    if digit c then (moreDigits digit s).map fun (ds, rest) => (c :: ds, rest)
    else if c = '_' then
      match s with
      | d :: s =>
        if digit d then (moreDigits digit s).map fun (ds, rest) => (d :: ds, rest) else none
      | [] => none
    else some ([], c :: s)

def digits? (digit : Char → Bool) : List Char → Option (List Char × List Char)
  | c :: s => if digit c then moreDigits digit (c :: s) else none
  | [] => none

end ConnectionPool.Toml
