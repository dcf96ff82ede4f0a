import ConnectionPool.Proofs.Quotes
import ConnectionPool.Toml.Reader

/-! Lines of TOML: a value under its name, or the header of a table. Each is read back as the one
statement it is written for, whatever lines come after it. -/
namespace ConnectionPool.Toml

inductive Plain where
  | text (s : String)
  | bool (b : Bool)
  | integer (n : Nat)
  deriving DecidableEq, Repr

namespace Plain

def document : Plain → Document
  | text s => .text s
  | bool b => .bool b
  | integer n => .integer n

def tree : Plain → Tree
  | text s => .text s
  | bool b => .bool b
  | integer n => .integer n

theorem treeDocument (v : Plain) : v.tree.toDocument = v.document := by
  cases v <;> simp [tree, document, Tree.toDocument]

end Plain

variable {c mark : Char} {ds s t rest text : List Char} {n : Nat} {name : String}

section Numbers

theorem moreDigitsBack {digit : Char → Bool} (rest : List Char) (all : ∀ c ∈ ds, digit c = true)
    (stop : digit c = false ∧ c ≠ '_') : moreDigits digit (ds ++ c :: rest) = some (ds, c :: rest) := by
  induction ds with
  | nil => rw [List.nil_append, moreDigits.eq_def]; simp [stop]
  | cons d ds ih =>
    have tail := ih fun c member => all c (List.mem_cons_of_mem _ member)
    rw [List.cons_append, moreDigits.eq_def]
    simp [all d List.mem_cons_self, tail]

theorem digitsBack {digit : Char → Bool} (any : ds ≠ []) (all : ∀ c ∈ ds, digit c = true)
    (stop : digit c = false ∧ c ≠ '_') : digits? digit (ds ++ c :: rest) = some (ds, c :: rest) := by
  obtain ⟨d, ds, rfl⟩ := List.exists_cons_of_ne_nil any
  have more := moreDigitsBack rest all stop
  rw [List.cons_append] at more ⊢
  rw [digits?, if_pos (all d List.mem_cons_self), more]

theorem naturalDigits (n : Nat) : Json.Numeral.natural (Nat.toDigits 10 n) = n :=
  Nat.ofDigitChars_toDigits (by decide) (Nat.le_refl _)

theorem leadingDigit (n : Nat) :
    ∃ d ds, Nat.toDigits 10 n = d :: ds ∧ (d = '0' → n = 0) ∧ (n = 0 → ds = []) := by
  induction n using Nat.strongRecOn with
  | ind n ih =>
    rw [Nat.toDigits_eq_if (by decide)]
    split
    · have digit : ∀ m < 10, Nat.digitChar m = '0' → m = 0 := by decide
      exact ⟨_, _, rfl, digit n (by assumption), fun _ => rfl⟩
    · obtain ⟨d, ds, same, zero, _⟩ := ih (n / 10) (by omega)
      rw [same]
      exact ⟨d, _, rfl, fun leading => by have := zero leading; omega, by omega⟩

theorem digitOther {d : Char} (digit : d.isDigit = true) (other : c.isDigit = false) : d ≠ c := by
  rintro rfl
  rw [other] at digit
  cases digit

theorem unmarked (size low high : Nat) (all : ∀ c ∈ ds, c.isDigit = true)
    (other : mark.isDigit = false ∧ mark ≠ '\n') :
    (digitsWithin? size low high (ds ++ '\n' :: rest) >>= fun r => mark? [mark] r.2) = none := by
  by_cases enough : size ≤ ds.length
  · have next : mark? [mark] ((ds ++ '\n' :: rest).drop size) = none := by
      rw [List.drop_append_of_le_length enough]
      cases left : ds.drop size with
      | nil => simp [mark?, other.2.symm]
      | cons d more =>
        have digit := all d (List.mem_of_mem_drop (left ▸ List.mem_cons_self))
        simp [mark?, digitOther digit other.1]
    unfold digitsWithin?
    dsimp only
    split
    · split
      · exact next
      · rfl
    · rfl
  · have line : '\n' ∈ (ds ++ '\n' :: rest).take size := by
      obtain ⟨n, more⟩ : ∃ n, size - ds.length = n + 1 := ⟨size - ds.length - 1, by omega⟩
      rw [List.take_append, more]
      exact List.mem_append_right _ List.mem_cons_self
    unfold digitsWithin?
    dsimp only
    rw [if_neg]
    · rfl
    · rintro ⟨_, digits⟩
      exact absurd (List.all_eq_true.mp digits _ line) (by decide)

theorem withinNatural (small : n < 0x8000000000000000) : within64 n = some (n : Int) := by
  rw [within64, if_pos]
  omega

theorem decimalBack (whole : whole? s = some (ds, '\n' :: rest))
    (within : within64 (Json.Numeral.natural ds) = some (n : Int)) :
    decimal? false s = some (.integer n, '\n' :: rest) := by
  unfold decimal?
  refine Option.bind_eq_some_iff.mpr ⟨_, whole, Option.bind_eq_some_iff.mpr ⟨_, rfl,
    Option.bind_eq_some_iff.mpr ⟨(none, '\n' :: rest), rfl, ?_⟩⟩⟩
  dsimp only
  rw [if_pos ⟨rfl, rfl⟩, if_neg Bool.false_ne_true]
  exact Option.bind_eq_some_iff.mpr ⟨_, within, rfl⟩

theorem numberBack (rest : List Char) (small : n < 0x8000000000000000) :
    number? (Nat.toDigits 10 n ++ '\n' :: rest) = some (.integer n, '\n' :: rest) := by
  have all : ∀ c ∈ Nat.toDigits 10 n, c.isDigit = true := fun c member =>
    Nat.isDigit_of_mem_toDigits (by decide) (by decide) member
  have value := naturalDigits n
  obtain ⟨d, ds, shown, zero, alone⟩ := leadingDigit n
  rw [shown] at all value ⊢
  have digit := all d List.mem_cons_self
  have digits : digits? Char.isDigit (d :: ds ++ '\n' :: rest) = some (d :: ds, '\n' :: rest) :=
    digitsBack (by simp) all (by decide)
  have leading (same : d = '0') : ds ++ '\n' :: rest = '\n' :: rest ∧ ds = [] := by
    rw [alone (zero same)]
    exact ⟨rfl, rfl⟩
  rw [List.cons_append] at digits ⊢
  generalize ds ++ '\n' :: rest = t at digits leading ⊢
  have whole : whole? (d :: t) = some (d :: ds, '\n' :: rest) := by
    unfold whole?
    split
    · rename_i same
      cases same
      rw [(leading rfl).1, (leading rfl).2]
    · exact digits
  have unsigned : sign (d :: t) = (false, d :: t) := by
    unfold sign
    split
    · rename_i same
      cases same
      cases digit
    · rename_i same
      cases same
      cases digit
    · rfl
  have unnamed : named? (d :: t) = none := by
    unfold named?
    split
    · rename_i same
      cases same
      cases digit
    · rename_i same
      cases same
      cases digit
    · rfl
  have within : within64 (Json.Numeral.natural (d :: ds)) = some (n : Int) := by
    rw [value, withinNatural small]
  unfold number?
  split
  · rename_i same
    cases same
    cases (leading rfl).1
  · rename_i same
    cases same
    cases (leading rfl).1
  · rename_i same
    cases same
    cases (leading rfl).1
  · rw [unsigned]
    dsimp only
    rw [unnamed]
    exact decimalBack whole within

end Numbers

section Values

theorem quoteFirst (style : Quoting) (s : List Char) :
    ∃ c t, quote style s = c :: t ∧ (c = '"' ∨ c = '\'') := by
  cases style with
  | basic => exact ⟨_, _, rfl, .inl rfl⟩
  | literal => exact ⟨_, _, rfl, .inr rfl⟩
  | basicLines => exact ⟨_, _, rfl, .inl rfl⟩
  | literalLines => exact ⟨_, _, rfl, .inr rfl⟩

theorem scalarText (s : String) :
    scalar? (writeText s ++ '\n' :: rest) = some (.text s, '\n' :: rest) := by
  have back := textBack s ('\n' :: rest) (by simp)
  obtain ⟨c, t, shown, quoteMark⟩ := quoteFirst (quoting s.toList) s.toList
  rw [writeText, shown, List.cons_append] at back ⊢
  unfold scalar?
  split
  · rename_i same
    cases (List.cons.inj same).1
    simp at quoteMark
  · rename_i same
    cases (List.cons.inj same).1
    simp at quoteMark
  · rw [back]
    simp

theorem scalarNumber (small : n < 0x8000000000000000) :
    scalar? (Nat.toDigits 10 n ++ '\n' :: rest) = some (.integer n, '\n' :: rest) := by
  have all : ∀ c ∈ Nat.toDigits 10 n, c.isDigit = true := fun c member =>
    Nat.isDigit_of_mem_toDigits (by decide) (by decide) member
  have undated : datedHere (Nat.toDigits 10 n ++ '\n' :: rest) = false := by
    rw [datedHere, unmarked 4 0 9999 all (by decide)]
    rfl
  have untimed : timedHere (Nat.toDigits 10 n ++ '\n' :: rest) = false := by
    rw [timedHere, unmarked 2 0 23 all (by decide)]
    rfl
  have number := numberBack rest small
  obtain ⟨d, ds, shown, _⟩ := leadingDigit n
  rw [shown, List.cons_append] at undated untimed number ⊢
  have digit := all d (shown ▸ List.mem_cons_self)
  have unquoted : quoted? (d :: (ds ++ '\n' :: rest)) = none := by
    unfold quoted?
    split
    all_goals first
      | rfl
      | rename_i same; cases (List.cons.inj same).1; cases digit
  unfold scalar?
  split
  · rename_i same
    cases (List.cons.inj same).1
    cases digit
  · rename_i same
    cases (List.cons.inj same).1
    cases digit
  · rw [unquoted]
    dsimp only
    rw [undated, untimed, number]
    rfl

theorem skipBlanksStop (first : blank c = false) : skipBlanks (c :: s) = c :: s := by
  simp [skipBlanks, first]

theorem writtenValue {v : Plain} (written : writeValue v.document = some text) :
    (∃ c t, text = c :: t ∧ c ≠ '[' ∧ c ≠ '\x7b' ∧ blank c = false) ∧
      ∀ rest, scalar? (text ++ '\n' :: rest) = some (v.tree, '\n' :: rest) := by
  cases v with
  | text s =>
    cases written
    obtain ⟨c, t, shown, quoteMark⟩ := quoteFirst (quoting s.toList) s.toList
    refine ⟨⟨c, t, shown, ?_⟩, fun rest => scalarText s⟩
    rcases quoteMark with rfl | rfl <;> decide
  | bool b =>
    cases written
    cases b
    · exact ⟨⟨_, _, rfl, by decide⟩, fun rest => rfl⟩
    · exact ⟨⟨_, _, rfl, by decide⟩, fun rest => rfl⟩
  | integer n =>
    simp only [Plain.document, writeValue] at written
    split at written
    · rename_i small
      have digits : (toString (n : Int)).toList = Nat.toDigits 10 n := Nat.toList_repr
      cases written
      rw [digits]
      obtain ⟨d, ds, shown, _⟩ := leadingDigit n
      have digit : d.isDigit = true :=
        Nat.isDigit_of_mem_toDigits (by decide) (by decide) (shown ▸ List.mem_cons_self)
      refine ⟨⟨d, ds, shown, digitOther digit (by decide), digitOther digit (by decide), ?_⟩,
        fun rest => scalarNumber (by omega)⟩
      have space : d ≠ ' ' := digitOther digit (by decide)
      have tab : d ≠ '\t' := digitOther digit (by decide)
      simp [blank, space, tab]
    · cases written

theorem memberBack {v : Plain} (written : writeValue v.document = some text) :
    member (value (nesting - 1)) ('=' :: ' ' :: (text ++ '\n' :: rest)) =
      .ok (v.tree, '\n' :: rest) := by
  obtain ⟨⟨c, t, rfl, list, braces, first⟩, back⟩ := writtenValue written
  have shown := back rest
  rw [List.cons_append] at shown ⊢
  have blanks : skipBlanks (' ' :: c :: (t ++ '\n' :: rest)) = c :: (t ++ '\n' :: rest) :=
    skipBlanksStop first
  have read : value (nesting - 1) (c :: (t ++ '\n' :: rest)) = .ok (v.tree, '\n' :: rest) := by
    rw [show nesting - 1 = 78 + 1 from rfl, value.eq_def]
    dsimp only
    split
    · rename_i same
      exact absurd (List.cons.inj same).1 list
    · rename_i same
      exact absurd (List.cons.inj same).1 braces
    · rw [shown]
      rfl
  rw [member, blanks, read]
  rfl

end Values

section Keys

theorem bareOther {d : Char} (bare : bareKey d = true) (other : bareKey c = false) : d ≠ c := by
  rintro rfl
  rw [other] at bare
  cases bare

theorem keyWays (name : String) :
    name.toList ≠ [] ∧ (∀ c ∈ name.toList, bareKey c = true) ∧ writeKey name = name.toList ∨
      writeKey name = quote .basic name.toList ∨
      writeKey name = quote .literal name.toList ∧ Quoting.Fits name.toList .literal := by
  unfold writeKey
  dsimp only
  split
  · rename_i bare
    simp only [Bool.and_eq_true, Bool.not_eq_true', List.isEmpty_eq_false_iff] at bare
    exact .inl ⟨bare.1, List.all_eq_true.mp bare.2, rfl⟩
  · rcases keyQuotingFits name.toList with basic | ⟨literal, fits⟩
    · exact .inr (.inl (by rw [basic]))
    · exact .inr (.inr ⟨by rw [literal], fits⟩)

def begins (c : Char) : Bool :=
  c ≠ '\n' && c ≠ '\r' && c ≠ '#' && c ≠ '\ufeff' && !blank c

theorem keyFirst (name : String) : ∃ c t, writeKey name = c :: t ∧ c ≠ '[' ∧ begins c = true := by
  rcases keyWays name with ⟨any, bare, shown⟩ | shown | ⟨shown, _⟩
  · obtain ⟨c, t, same⟩ := List.exists_cons_of_ne_nil any
    have first := bare c (same ▸ List.mem_cons_self)
    have other (d : Char) (special : bareKey d = false) : c ≠ d := bareOther first special
    refine ⟨c, t, shown.trans same, other '[' (by decide), ?_⟩
    simp [begins, blank, other '\n' (by decide), other '\r' (by decide), other '#' (by decide),
      other '\ufeff' (by decide), other ' ' (by decide), other '\t' (by decide)]
  · exact ⟨'"', _, shown, by decide⟩
  · exact ⟨'\'', _, shown, by decide⟩

theorem nameBack (name : String) (rest : List Char) (stop : bareKey c = false) :
    name? (writeKey name ++ c :: rest) = .ok (some name, c :: rest) := by
  have named : String.ofList name.toList = name := String.ofList_toList
  rcases keyWays name with ⟨any, bare, shown⟩ | shown | ⟨shown, plain⟩
  · have taken : (name.toList ++ c :: rest).takeWhile bareKey = name.toList := by
      rw [List.takeWhile_append_of_pos bare, List.takeWhile_cons_of_neg (by simp [stop]),
        List.append_nil]
    have left : (name.toList ++ c :: rest).dropWhile bareKey = c :: rest := by
      rw [List.dropWhile_append_of_pos bare, List.dropWhile_cons_of_neg (by simp [stop])]
    have first {e : Char} {u : List Char} (same : name.toList ++ c :: rest = e :: u) :
        bareKey e = true := by
      obtain ⟨d, t, start⟩ := List.exists_cons_of_ne_nil any
      rw [start] at same
      exact (List.cons.inj same).1 ▸ bare d (start ▸ List.mem_cons_self)
    rw [shown]
    unfold name?
    split
    · rename_i same
      exact absurd (first same) (by decide)
    · rename_i same
      exact absurd (first same) (by decide)
    · rw [taken, left]
      simp [any, named]
  · rw [shown, quote]
    simp only [List.cons_append, List.append_assoc, List.nil_append]
    rw [name?, (escapedSpelled 0 false 0 _).basic]
    simp [present, Except.map, named]
  · have spelled : Spelled '\'' 0 false 0 name.toList name.toList :=
      literalSpelled (fun c member => .inl (plain.1 c member))
        (Nat.le_of_eq (longestRunNone plain.2))
    rw [shown, quote]
    simp only [List.cons_append, List.append_assoc, List.nil_append]
    rw [name?, spelled.literal]
    simp [present, Except.map, named]

theorem beginsBlank (h : begins c = true) : blank c = false := by
  simp only [begins, Bool.and_eq_true, Bool.not_eq_true'] at h
  exact h.2

theorem keyBack {d : Char} (name : String) (stop : bareKey c = false)
    (after : skipBlanks (c :: rest) = d :: t) (other : d ≠ '.') :
    key (writeKey name ++ c :: rest) = .ok (([], name), d :: t) := by
  have back := nameBack name rest stop
  obtain ⟨e, u, shown, _, first⟩ := keyFirst name
  rw [shown, List.cons_append] at back ⊢
  have found : names (e :: (u ++ c :: rest)).length (e :: (u ++ c :: rest)) = .ok ([name], d :: t) := by
    rw [List.length_cons, names.eq_def]
    dsimp only
    rw [skipBlanksStop (beginsBlank first), back]
    simp only [bind, Except.bind]
    rw [after]
    split
    · rename_i same
      exact absurd (List.cons.inj same).1 other
    · rfl
  simp only [key, key?, found, bind, Except.bind]
  rfl

end Keys

section Lines

theorem statementBack {v : Plain} (name : String) (rest : List Char)
    (written : writeValue v.document = some text) :
    statement (writeKey name ++ ' ' :: '=' :: ' ' :: (text ++ '\n' :: rest)) =
      .ok (.assign [] name v.tree, rest) := by
  have named : key (writeKey name ++ ' ' :: '=' :: ' ' :: (text ++ '\n' :: rest)) =
      .ok (([], name), '=' :: ' ' :: (text ++ '\n' :: rest)) :=
    keyBack name (by decide) rfl (by decide)
  obtain ⟨c, t, shown, list, _⟩ := keyFirst name
  rw [shown, List.cons_append] at named ⊢
  unfold statement
  split
  · rename_i same
    exact absurd (List.cons.inj same).1 list
  · rename_i same
    exact absurd (List.cons.inj same).1 list
  · rw [named]
    simp only [bind, Except.bind]
    rw [memberBack written]
    rfl

theorem headerBack (name : String) (rest : List Char) :
    statement ('[' :: (writeKey name ++ ']' :: '\n' :: rest)) = .ok (.define [] name, rest) := by
  have named : key (writeKey name ++ ']' :: '\n' :: rest) = .ok (([], name), ']' :: '\n' :: rest) :=
    keyBack name (by decide) rfl (by decide)
  obtain ⟨c, t, shown, list, _⟩ := keyFirst name
  rw [shown, List.cons_append] at named ⊢
  unfold statement
  split
  · rename_i same
    exact absurd (List.cons.inj (List.cons.inj same).2).1 list
  · rename_i same
    cases same
    simp only [header, named, bind, Except.bind]
    rfl
  · rename_i other
    exact absurd rfl (other _)

def Stated (s : List Char) (found : List Statement) : Prop :=
  ∀ bound, s.length < bound → statements bound s = (found, none)

theorem statedNone : Stated [] [] := by
  intro bound enough
  obtain ⟨n, rfl⟩ : ∃ n, bound = n + 1 := ⟨bound - 1, by omega⟩
  rfl

theorem Stated.break {found : List Statement} (h : Stated s found) : Stated ('\n' :: s) found := by
  intro bound enough
  obtain ⟨n, rfl⟩ : ∃ n, bound = n + 1 := ⟨bound - 1, by omega⟩
  exact h n (Nat.lt_of_succ_lt_succ enough)

theorem Stated.more {first : Statement} {later : List Statement} (h : Stated rest later)
    (start : begins c = true) (read : statement (c :: s) = .ok (first, rest))
    (shorter : rest.length ≤ s.length) : Stated (c :: s) (first :: later) := by
  intro bound enough
  obtain ⟨n, rfl⟩ : ∃ n, bound = n + 1 := ⟨bound - 1, by omega⟩
  rw [List.length_cons] at enough
  have tail := h n (by omega)
  have blank := beginsBlank start
  simp only [begins, Bool.and_eq_true, decide_eq_true_eq] at start
  rw [statements, skipBlanksStop blank]
  dsimp only
  rw [if_neg (by simp [start]), read]
  dsimp only
  rw [tail]

end Lines

end ConnectionPool.Toml
