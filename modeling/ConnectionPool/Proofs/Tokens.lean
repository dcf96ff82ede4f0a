import Mathlib.Data.List.Basic
import ConnectionPool.Json.Token
import ConnectionPool.Proofs.Lines

/-! How the tokens of JSON may be spelled. Blanks may stand between them, a character of a text may be
escaped, and a number goes on as far as it can. However tokens are spelled, the text is cut into them
again; the writer spells each of them in one of the ways there are. -/
namespace ConnectionPool.Json

inductive Spelling : List Piece → List Char → Prop where
  | done : Spelling [] []
  | plain {ps s} (c : Char) (other : c ≠ '"' ∧ c ≠ '\\') (visible : 0x20 ≤ c.toNat)
      (more : Spelling ps s) : Spelling (.char c :: ps) (c :: s)
  | escaped {e c ps s} (stands : unescape? e = some c) (more : Spelling ps s) :
      Spelling (.char c :: ps) ('\\' :: e :: s)
  | unit {a b c d n ps s} (stands : hexNumber? [a, b, c, d] = some n) (more : Spelling ps s) :
      Spelling (.unit n :: ps) ('\\' :: 'u' :: a :: b :: c :: d :: s)

theorem Spelling.back {ps : List Piece} {s : List Char} (h : Spelling ps s) (rest : List Char) :
    pieces? (s ++ '"' :: rest) = some (ps, rest) := by
  induction h with
  | done => rw [List.nil_append, pieces?.eq_def]; simp
  | plain c other visible more ih =>
    rw [List.cons_append, pieces?.eq_def]
    simp [other, Nat.not_lt.mpr visible, ih]
  | @escaped e c ps s stands more ih =>
    have single : e ≠ 'u' := by
      rintro rfl
      cases stands
    rw [List.cons_append, List.cons_append, pieces?.eq_def]
    simp [single, stands, ih]
  | unit stands more ih =>
    simp only [List.cons_append]
    rw [pieces?.eq_def]
    simp [stands, ih]

namespace Numeral

def Digits (s : List Char) : Prop := s ≠ [] ∧ ∀ c ∈ s, c.isDigit = true

inductive PlacesIn : Option (List Char) → List Char → Prop where
  | whole : PlacesIn none []
  | point {ds} (digits : Digits ds) : PlacesIn (some ds) ('.' :: ds)

inductive PowerIn : Option (Bool × List Char) → List Char → Prop where
  | unscaled : PowerIn none []
  | down {e ds} (letter : e = 'e' ∨ e = 'E') (digits : Digits ds) :
      PowerIn (some (true, ds)) (e :: '-' :: ds)
  | up {e ds} (letter : e = 'e' ∨ e = 'E') (digits : Digits ds) :
      PowerIn (some (false, ds)) (e :: '+' :: ds)
  | bare {e ds} (letter : e = 'e' ∨ e = 'E') (digits : Digits ds) :
      PowerIn (some (false, ds)) (e :: ds)

inductive Spelling : Numeral → List Char → Prop where
  | mk {whole places power fraction exponent} (negative : Bool) (digits : Digits whole)
      (leading : whole.head? = some '0' → whole.length = 1) (placed : PlacesIn places fraction)
      (scaled : PowerIn power exponent) :
      Spelling ⟨negative, whole, places, power⟩
        ((if negative then ['-'] else []) ++ (whole ++ (fraction ++ exponent)))

def Stops (s : List Char) : Prop :=
  ∀ c ∈ s.head?, c.isDigit = false ∧ c ≠ '.' ∧ c ≠ 'e' ∧ c ≠ 'E'

variable {s rest ds : List Char}

theorem Digits.back (h : Digits ds) (stops : ∀ c ∈ rest.head?, c.isDigit = false) :
    digits? (ds ++ rest) = some (ds, rest) := by
  have taken : (ds ++ rest).takeWhile Char.isDigit = ds := by
    rw [List.takeWhile_append_of_pos h.2]
    cases rest with
    | nil => simp
    | cons c rest => simp [stops c rfl]
  have dropped : (ds ++ rest).dropWhile Char.isDigit = rest := by
    rw [List.dropWhile_append_of_pos h.2]
    cases rest with
    | nil => rfl
    | cons c rest => simp [stops c rfl]
  rw [digits?]
  simp [taken, dropped, h.1]

theorem Digits.first (h : Digits ds) : ∃ d more, ds = d :: more ∧ d.isDigit = true := by
  obtain ⟨d, more, rfl⟩ := List.exists_cons_of_ne_nil h.1
  exact ⟨d, more, rfl, h.2 d List.mem_cons_self⟩

theorem PowerIn.back {power : Option (Bool × List Char)} (h : PowerIn power s) (stops : Stops rest) :
    power? (s ++ rest) = some (power, rest) := by
  have ends : ∀ c ∈ rest.head?, c.isDigit = false := fun c there => (stops c there).1
  cases h with
  | unscaled =>
    cases rest with
    | nil => rfl
    | cons c rest =>
      obtain ⟨_, _, small, large⟩ := stops c rfl
      simp [power?, small, large]
  | down letter digits => simp [power?, letter, digits.back ends]
  | up letter digits => simp [power?, letter, digits.back ends]
  | bare letter digits =>
    have again := digits.back ends
    obtain ⟨d, more, rfl, digit⟩ := digits.first
    have minus : d ≠ '-' := Toml.digitOther digit (by decide)
    have plus : d ≠ '+' := Toml.digitOther digit (by decide)
    rw [List.cons_append] at again ⊢
    simp [power?, letter, minus, plus, again]

theorem PowerIn.begins {power : Option (Bool × List Char)} (h : PowerIn power s) (stops : Stops rest) :
    ∀ c ∈ (s ++ rest).head?, c.isDigit = false ∧ c ≠ '.' := by
  have marked {e : Char} (letter : e = 'e' ∨ e = 'E') : e.isDigit = false ∧ e ≠ '.' := by
    rcases letter with rfl | rfl <;> decide
  cases h with
  | unscaled => exact fun c there => ⟨(stops c there).1, (stops c there).2.1⟩
  | down letter => exact fun c there => Option.some.inj there ▸ marked letter
  | up letter => exact fun c there => Option.some.inj there ▸ marked letter
  | bare letter => exact fun c there => Option.some.inj there ▸ marked letter

theorem PlacesIn.back {places : Option (List Char)} (h : PlacesIn places s)
    (stops : ∀ c ∈ rest.head?, c.isDigit = false ∧ c ≠ '.') :
    places? (s ++ rest) = some (places, rest) := by
  cases h with
  | whole =>
    rw [List.nil_append]
    unfold places?
    split
    · exact absurd rfl (stops '.' rfl).2
    · rfl
  | point digits =>
    rw [List.cons_append, places?, digits.back fun c there => (stops c there).1]
    rfl

theorem PlacesIn.begins {places : Option (List Char)} (h : PlacesIn places s)
    (stops : ∀ c ∈ rest.head?, c.isDigit = false ∧ c ≠ '.') :
    ∀ c ∈ (s ++ rest).head?, c.isDigit = false := by
  cases h with
  | whole => exact fun c there => (stops c there).1
  | point => exact fun c there => Option.some.inj there ▸ by decide

theorem Spelling.first {n : Numeral} (h : n.Spelling s) :
    ∃ c tail, s = c :: tail ∧ (c = '-' ∨ c.isDigit = true) := by
  obtain ⟨negative, digits, _, _, _⟩ := h
  obtain ⟨d, more, rfl, digit⟩ := digits.first
  cases negative with
  | true => exact ⟨'-', _, rfl, .inl rfl⟩
  | false => exact ⟨d, _, rfl, .inr digit⟩

theorem Spelling.back {n : Numeral} (h : n.Spelling s) (stops : Stops rest) :
    read? (s ++ rest) = some (n, rest) := by
  obtain ⟨negative, digits, leading, placed, scaled⟩ := h
  rename_i whole places power fraction exponent
  have powers := scaled.begins stops
  have first := digits.back (placed.begins powers)
  have second := placed.back powers
  have third := scaled.back stops
  unfold read?
  cases negative with
  | true => simpa [first, second, third] using leading
  | false =>
    obtain ⟨d, more, rfl, digit⟩ := digits.first
    have minus : d ≠ '-' := Toml.digitOther digit (by decide)
    rw [List.cons_append] at first
    simpa [minus, first, second, third] using leading

end Numeral

inductive Cuts : List Token → List Char → Prop where
  | done : Cuts [] []
  | skip {c ts s} (skipped : blank c = true) (more : Cuts ts s) : Cuts ts (c :: s)
  | mark {c t ts s} (stands : mark? c = some t) (more : Cuts ts s) : Cuts (t :: ts) (c :: s)
  | text {ps spelled ts s} (spelling : Spelling ps spelled) (more : Cuts ts s) :
      Cuts (textToken ps :: ts) ('"' :: (spelled ++ '"' :: s))
  | number {n : Numeral} {spelled ts s} (spelling : n.Spelling spelled) (stops : Numeral.Stops s)
      (more : Cuts ts s) : Cuts (.scalar n.value :: ts) (spelled ++ s)
  | word {w d ts s} (member : (w, d) ∈ words) (more : Cuts ts s) : Cuts (.scalar d :: ts) (w ++ s)

section Cutting

variable {c : Char} {s rest : List Char} {t : Token} {ts : List Token}

theorem tokensFrom (s : List Char) : tokens s = match s.dropWhile blank with
    | [] => []
    | c :: s => match token? (c :: s) with
      | none => [.broken]
      | some (t, s) => t :: tokens s := by
  rw [tokens.eq_1]
  split
  · rename_i start
    rw [start]
  · rename_i start
    rw [start]
    dsimp only
    split
    · rename_i cut
      rw [cut]
    · rename_i cut
      rw [cut]

theorem tokensSkip (skipped : blank c = true) : tokens (c :: s) = tokens s := by
  rw [tokensFrom, tokensFrom s, List.dropWhile_cons_of_pos skipped]

theorem tokensNext (visible : blank c = false) (cut : token? (c :: s) = some (t, rest)) :
    tokens (c :: s) = t :: tokens rest := by
  rw [tokensFrom, List.dropWhile_cons_of_neg (by simp [visible])]
  dsimp only
  rw [cut]

theorem markVisible (stands : mark? c = some t) : blank c = false := by
  refine Bool.eq_false_iff.mpr fun skipped => ?_
  simp only [blank, Bool.or_eq_true, decide_eq_true_eq] at skipped
  rcases skipped with ((rfl | rfl) | rfl) | rfl <;> cases stands

theorem digitVisible (digit : c = '-' ∨ c.isDigit = true) :
    blank c = false ∧ mark? c = none ∧ c ≠ '"' := by
  have other {d : Char} (not : d.isDigit = false) (sign : d ≠ '-') : c ≠ d := by
    rcases digit with rfl | digit
    · exact sign.symm
    · exact Toml.digitOther digit not
  simp [blank, mark?, other]

theorem wordCut {w : List Char} {d : Document} (member : (w, d) ∈ words) (rest : List Char) :
    ∃ c tail, w = c :: tail ∧ blank c = false ∧ token? (w ++ rest) = some (.scalar d, rest) := by
  simp only [words, List.mem_cons, List.not_mem_nil, or_false, Prod.mk.injEq] at member
  rcases member with ⟨rfl, rfl⟩ | ⟨rfl, rfl⟩ | ⟨rfl, rfl⟩
  · exact ⟨'t', _, rfl, by decide, by simp [token?, mark?, words, word?]⟩
  · exact ⟨'f', _, rfl, by decide, by simp [token?, mark?, words, word?]⟩
  · exact ⟨'n', _, rfl, by decide, by simp [token?, mark?, words, word?]⟩

theorem Cuts.back {ts : List Token} {s : List Char} (h : Cuts ts s) : tokens s = ts := by
  induction h with
  | done => rw [tokensFrom]; rfl
  | skip skipped _ ih => rw [tokensSkip skipped, ih]
  | @mark c t ts s stands more ih =>
    have cut : token? (c :: s) = some (t, s) := by simp [token?, stands]
    rw [tokensNext (markVisible stands) cut, ih]
  | @text ps spelled ts s spelling more ih =>
    have cut : token? ('"' :: (spelled ++ '"' :: s)) = some (textToken ps, s) := by
      simp [token?, mark?, spelling.back]
    rw [tokensNext (by decide) cut, ih]
  | @number n spelled ts s spelling stops more ih =>
    obtain ⟨c, tail, same, digit⟩ := spelling.first
    have back := spelling.back stops
    obtain ⟨visible, unmarked, unquoted⟩ := digitVisible digit
    rw [same, List.cons_append] at back ⊢
    have cut : token? (c :: (tail ++ s)) = some (.scalar n.value, s) := by
      simp [token?, unmarked, unquoted, digit, back]
    rw [tokensNext visible cut, ih]
  | @word w d ts s member more ih =>
    obtain ⟨c, tail, rfl, visible, cut⟩ := wordCut member s
    rw [List.cons_append] at cut ⊢
    rw [tokensNext visible cut, ih]

end Cutting

section Writing

variable {ts : List Token} {rest : List Char}

theorem escapeWays (c : Char) :
    (∃ e, escape c = ['\\', e] ∧ unescape? e = some c) ∨
    (c.toNat < 0x20 ∧ escape c = '\\' :: 'u' :: '0' :: '0' :: twoHex c.toNat) ∨
    (escape c = [c] ∧ (c ≠ '"' ∧ c ≠ '\\') ∧ 0x20 ≤ c.toNat) := by
  by_cases short : c ∈ ['"', '\\', '\x08', '\x0c', '\n', '\r', '\t']
  · simp only [List.mem_cons, List.not_mem_nil, or_false] at short
    rcases short with rfl | rfl | rfl | rfl | rfl | rfl | rfl <;> exact .inl ⟨_, rfl, rfl⟩
  · simp only [List.mem_cons, List.not_mem_nil, or_false, not_or] at short
    by_cases small : c.toNat < 0x20
    · exact .inr (.inl ⟨small, by simp [escape, short, small]⟩)
    · exact .inr (.inr ⟨by simp [escape, short, small], ⟨short.1, short.2.1⟩, Nat.not_lt.mp small⟩)

theorem escapeSpelling (c : Char) :
    ∃ p, (∀ ps s, Spelling ps s → Spelling (p :: ps) (escape c ++ s)) ∧
      ∀ ps, assemble (p :: ps) = (assemble ps).map (c :: ·) := by
  rcases escapeWays c with ⟨e, same, stands⟩ | ⟨small, same⟩ | ⟨same, other, visible⟩
  · rw [same]
    exact ⟨.char c, fun _ _ more => .escaped stands more, fun _ => by rw [assemble]⟩
  · have units : ∀ n < 0x20, hexNumber? ('0' :: '0' :: twoHex n) = some n := by decide
    rw [same]
    refine ⟨.unit c.toNat, fun _ _ more => .unit (units _ small) more, fun ps => ?_⟩
    rw [assemble.eq_def]
    dsimp only
    rw [if_neg (by omega), if_neg (by omega), Char.ofNat_toNat]
  · rw [same]
    exact ⟨.char c, fun _ _ more => .plain c other visible more, fun _ => by rw [assemble]⟩

theorem textSpelling (s : List Char) : ∃ ps, Spelling ps (s.flatMap escape) ∧ assemble ps = some s := by
  induction s with
  | nil => exact ⟨[], .done, by rw [assemble]⟩
  | cons c s ih =>
    obtain ⟨ps, spelling, assembled⟩ := ih
    obtain ⟨p, spells, assembles⟩ := escapeSpelling c
    refine ⟨p :: ps, ?_, ?_⟩
    · rw [List.flatMap_cons]
      exact spells ps _ spelling
    · rw [assembles, assembled]
      rfl

theorem Cuts.written (s : String) (more : Cuts ts rest) :
    Cuts (.text (some s) :: ts) (quote s ++ rest) := by
  obtain ⟨ps, spelling, assembled⟩ := textSpelling s.toList
  have token : textToken ps = .text (some s) := by
    rw [textToken, assembled, Option.map_some, String.ofList_toList]
  have cuts := Cuts.text spelling more
  rw [token] at cuts
  simpa [quote] using cuts

theorem naturalSpelling (n : Nat) (negative : Bool) :
    Numeral.Spelling ⟨negative, Nat.toDigits 10 n, none, none⟩
      ((if negative then ['-'] else []) ++ Nat.toDigits 10 n) := by
  have digits : Numeral.Digits (Nat.toDigits 10 n) := by
    obtain ⟨d, ds, same, _⟩ := Toml.leadingDigit n
    exact ⟨same ▸ List.cons_ne_nil _ _, fun c member =>
      Nat.isDigit_of_mem_toDigits (by decide) (by decide) member⟩
  have leading : (Nat.toDigits 10 n).head? = some '0' → (Nat.toDigits 10 n).length = 1 := by
    obtain ⟨d, ds, same, zero, alone⟩ := Toml.leadingDigit n
    rw [same]
    intro first
    rw [alone (zero (Option.some.inj first))]
    rfl
  have spelling := Numeral.Spelling.mk negative digits leading .whole .unscaled
  simpa using spelling

theorem integerSpelling {n : Int} (low : -0x8000000000000000 ≤ n) (high : n < UInt64.size) :
    ∃ m : Numeral, m.Spelling (integer n) ∧ m.value = .integer n := by
  cases n with
  | ofNat n =>
    have small : n < UInt64.size := Int.ofNat_lt.mp high
    exact ⟨_, naturalSpelling n false, by simp [Numeral.value, Toml.naturalDigits, small]⟩
  | negSucc n =>
    have small : ¬0x8000000000000000 < n + 1 := by omega
    refine ⟨_, naturalSpelling (n + 1) true, ?_⟩
    simp only [Numeral.value, Toml.naturalDigits, if_true]
    rw [if_neg (by omega)]
    rfl

end Writing

end ConnectionPool.Json
