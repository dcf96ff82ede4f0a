import ConnectionPool.Toml.Lexical
import ConnectionPool.Toml.Writer

/-! Quoted texts in TOML are read back, whatever characters they have. A quote of either kind spells a
text character by character; what differs is which characters need an escape, and how many quotes may
stand together as they are. -/
namespace ConnectionPool.Toml

structure Escapes (code : List Char) (c : Char) : Prop where
  char : ∀ rest, escaped? (code ++ rest) = some (c, rest)
  sameLine : ∀ rest, continued? (code ++ rest) = none

inductive Spelled (q : Char) (limit : Nat) (manyLines : Bool) : Nat → List Char → List Char → Prop where
  | done {run} : Spelled q limit manyLines run [] []
  | quote {run shown s} (few : run < limit) (rest : Spelled q limit manyLines (run + 1) shown s) :
      Spelled q limit manyLines run (q :: shown) (q :: s)
  | plain {run c shown s} (other : c ≠ q) (seen : visible c = true ∨ manyLines = true ∧ c = '\n')
      (bare : q = '"' → c ≠ '\\') (rest : Spelled q limit manyLines 0 shown s) :
      Spelled q limit manyLines run (c :: shown) (c :: s)
  | escape {run code c shown s} (double : q = '"') (escapes : Escapes code c)
      (rest : Spelled q limit manyLines 0 shown s) :
      Spelled q limit manyLines run ('\\' :: (code ++ shown)) (c :: s)

variable {q c : Char} {limit run : Nat} {manyLines : Bool} {shown code s t rest : List Char}

theorem visibleSameLine (h : visible c = true) : newline? (c :: s) = none := by
  unfold newline?
  split
  · rename_i same
    cases same
    simp [visible] at h
  · rename_i same
    cases same
    simp [visible] at h
  · rfl

theorem basicEscape (h : Escapes code c) :
    basic? ('\\' :: (code ++ rest)) = (basic? rest).map fun r => (c :: r.1, r.2) := by
  rw [basic?]
  simp only [Char.reduceEq, if_false, if_true]
  split
  · rename_i none
    simp [h.char rest] at none
  · rename_i cut
    rw [h.char rest] at cut
    cases cut
    rfl

theorem basicPlain (other : c ≠ '"') (bare : c ≠ '\\') (seen : visible c = true) :
    basic? (c :: s) = (basic? s).map fun r => (c :: r.1, r.2) := by
  rw [basic?, if_neg other, if_neg bare, if_pos seen]

theorem Spelled.basic (h : Spelled '"' 0 false run shown s) (rest : List Char) :
    basic? (shown ++ '"' :: rest) = some (s, rest) := by
  induction h with
  | done => rw [List.nil_append, basic?, if_pos rfl]
  | quote few => exact absurd few (Nat.not_lt_zero _)
  | plain other seen bare _ ih =>
    have seen := seen.resolve_right (by simp)
    rw [List.cons_append, basicPlain other (bare rfl) seen, ih]
    rfl
  | escape _ escapes _ ih =>
    rw [List.cons_append, List.append_assoc, basicEscape escapes, ih]
    rfl

theorem Spelled.literal (h : Spelled '\'' 0 false run shown s) (rest : List Char) :
    literal? (shown ++ '\'' :: rest) = some (s, rest) := by
  induction h with
  | done => simp [literal?]
  | quote few => exact absurd few (Nat.not_lt_zero _)
  | plain other seen _ _ ih =>
    have seen := seen.resolve_right (by simp)
    simp [literal?, other, seen, ih]
  | escape double => simp at double

theorem Spelled.front (h : Spelled q limit manyLines run shown s) (few : run ≤ limit) :
    (∃ n, n + run ≤ limit ∧ shown = List.replicate n q ∧ s = List.replicate n q) ∨
      ∃ n c t, n + run ≤ limit ∧ shown = List.replicate n q ++ c :: t ∧ c ≠ q := by
  induction h with
  | done => exact .inl ⟨0, by omega, rfl, rfl⟩
  | quote more _ ih =>
    rcases ih more with ⟨n, within, rfl, rfl⟩ | ⟨n, c, t, within, rfl, other⟩
    · exact .inl ⟨n + 1, by omega, rfl, rfl⟩
    · exact .inr ⟨n + 1, c, t, by omega, rfl, other⟩
  | plain other => exact .inr ⟨0, _, _, by omega, rfl, other⟩
  | escape double => exact .inr ⟨0, _, _, by omega, rfl, by simp [double]⟩

theorem closingAfter {n : Nat} (few : n ≤ 2) (stop : rest.head? ≠ some q) :
    closing? q (List.replicate n q ++ q :: q :: q :: rest) = some (List.replicate n q, rest) := by
  have none : (rest.takeWhile (· == q)) = [] := by
    cases rest with
    | nil => rfl
    | cons c t => simpa [List.takeWhile_cons] using stop
  obtain rfl | rfl | rfl : n = 0 ∨ n = 1 ∨ n = 2 := by omega
  all_goals simp [closing?, List.replicate, none]

theorem closingLater {n : Nat} (few : n ≤ 2) (other : c ≠ q) :
    closing? q (List.replicate n q ++ c :: t) = none := by
  obtain rfl | rfl | rfl : n = 0 ∨ n = 1 ∨ n = 2 := by omega
  all_goals simp [closing?, List.replicate, other]

theorem linesPlain (later : closing? q (c :: s) = none) (bare : q = '"' → c ≠ '\\')
    (seen : visible c = true) : lines? q (c :: s) = (lines? q s).map fun r => (c :: r.1, r.2) := by
  have sameLine := visibleSameLine (s := s) seen
  rw [lines?.eq_def, later]
  dsimp only
  rw [if_neg fun both => bare both.2 both.1]
  split
  · rename_i next
    rw [sameLine] at next
    cases next
  · rw [if_pos seen]

theorem linesBreak (later : closing? q ('\n' :: s) = none) :
    lines? q ('\n' :: s) = (lines? q s).map fun r => ('\n' :: r.1, r.2) := by
  rw [lines?.eq_def, later]
  dsimp only
  rw [if_neg (by simp)]
  split
  · rename_i next
    cases next
    rfl
  · rename_i none
    cases none

theorem linesEscape (later : closing? '"' ('\\' :: (code ++ rest)) = none) (h : Escapes code c) :
    lines? '"' ('\\' :: (code ++ rest)) = (lines? '"' rest).map fun r => (c :: r.1, r.2) := by
  rw [lines?.eq_def, later]
  dsimp only
  rw [if_pos ⟨rfl, rfl⟩]
  split
  · rename_i skip
    rw [h.sameLine rest] at skip
    cases skip
  · split
    · rename_i none
      rw [h.char rest] at none
      cases none
    · rename_i cut
      rw [h.char rest] at cut
      cases cut
      rfl

theorem Spelled.closing (h : Spelled q 2 manyLines run shown s) (few : run ≤ 2)
    (stop : rest.head? ≠ some q) :
    closing? q (shown ++ q :: q :: q :: rest) = some (s, rest) ∨
      closing? q (shown ++ q :: q :: q :: rest) = none := by
  rcases h.front few with ⟨n, within, rfl, rfl⟩ | ⟨n, d, t, within, rfl, other⟩
  · exact .inl (closingAfter (by omega) stop)
  · rw [List.append_assoc]
    exact .inr (closingLater (by omega) other)

theorem linesClosed (h : closing? q t = some (s, rest)) : lines? q t = some (s, rest) := by
  rw [lines?.eq_def, h]

theorem Spelled.lines (h : Spelled q 2 manyLines run shown s) (few : run ≤ 2)
    (mark : visible q = true ∧ q ≠ '\\') (stop : rest.head? ≠ some q) :
    lines? q (shown ++ q :: q :: q :: rest) = some (s, rest) := by
  induction h with
  | done => exact linesClosed (closingAfter (n := 0) (by omega) stop)
  | quote more tail ih =>
    rcases (Spelled.quote more tail).closing few stop with closed | later
    · exact linesClosed closed
    · rw [List.cons_append] at later ⊢
      rw [linesPlain later (fun _ => mark.2) mark.1, ih more]
      rfl
  | plain other seen bare tail ih =>
    rcases (Spelled.plain other seen bare tail).closing few stop with closed | later
    · exact linesClosed closed
    · rw [List.cons_append] at later ⊢
      rcases seen with seen | ⟨_, rfl⟩
      · rw [linesPlain later bare seen, ih (Nat.zero_le _)]
        rfl
      · rw [linesBreak later, ih (Nat.zero_le _)]
        rfl
  | escape double escapes tail ih =>
    rcases (Spelled.escape double escapes tail).closing few stop with closed | later
    · exact linesClosed closed
    · subst double
      rw [List.cons_append, List.append_assoc] at later ⊢
      rw [linesEscape later escapes, ih (Nat.zero_le _)]
      rfl

/- A line end right after the opening quotes is not part of the text, so the text is not to begin with
one of its own. -/
theorem Spelled.begins (h : Spelled q limit manyLines run shown s) (mark : visible q = true)
    (oneLine : '\n' ∉ s) : newline? (shown ++ q :: t) = none := by
  cases h with
  | done => exact visibleSameLine mark
  | quote => exact visibleSameLine mark
  | plain _ seen =>
    rcases seen with seen | ⟨_, rfl⟩
    · exact visibleSameLine seen
    · exact absurd List.mem_cons_self oneLine
  | escape => rfl

section Writing

theorem hexDigits : ∀ n < 0x80, (fourHex n).length = 4 ∧ Json.hexNumber? (fourHex n) = some n := by
  decide +kernel

theorem escapesHex (small : c.toNat < 0x80) : Escapes ('u' :: fourHex c.toNat) c := by
  obtain ⟨four, number⟩ := hexDigits c.toNat small
  refine ⟨fun rest => ?_, fun rest => rfl⟩
  have taken : (fourHex c.toNat ++ rest).take 4 = fourHex c.toNat := by
    rw [← four, List.take_left]
  have left : (fourHex c.toNat ++ rest).drop 4 = rest := by
    rw [← four, List.drop_left]
  have known : c.toNat < 0xd800 := by omega
  simp [escaped?, codePoint?, taken, left, four, number, known]

theorem controlSmall (h : isControl c = true) : c.toNat < 0x80 := by
  simp only [isControl, Bool.or_eq_true, Bool.and_eq_true, decide_eq_true_eq] at h
  omega

theorem seenUnlessControl (h : isControl c = false) (sameLine : c ≠ '\n') : visible c = true := by
  simp only [isControl, visible] at *
  grind

theorem escapedSpelled (limit : Nat) (manyLines : Bool) (run : Nat) (s : List Char) :
    Spelled '"' limit manyLines run (escapeBasic limit manyLines run s) s := by
  induction s generalizing run with
  | nil => exact .done
  | cons c s ih =>
    have escape (code : List Char) (escapes : Escapes code c) :
        Spelled '"' limit manyLines run ('\\' :: (code ++ escapeBasic limit manyLines 0 s)) (c :: s) :=
      .escape rfl escapes (ih 0)
    rw [escapeBasic]
    by_cases double : c = '"'
    · subst double
      rw [if_pos rfl]
      split
      · rename_i few
        exact .quote few (ih (run + 1))
      · exact escape ['"'] ⟨fun _ => rfl, fun _ => rfl⟩
    rw [if_neg double]
    dsimp only
    split
    · rename_i same
      subst same
      exact escape ['b'] ⟨fun _ => rfl, fun _ => rfl⟩
    split
    · rename_i same
      subst same
      exact escape ['t'] ⟨fun _ => rfl, fun _ => rfl⟩
    split
    · rename_i same
      subst same
      split
      · rename_i several
        exact .plain (by decide) (.inr ⟨several, rfl⟩) (by decide) (ih 0)
      · exact escape ['n'] ⟨fun _ => rfl, fun _ => rfl⟩
    split
    · rename_i same
      subst same
      exact escape ['f'] ⟨fun _ => rfl, fun _ => rfl⟩
    split
    · rename_i same
      subst same
      exact escape ['r'] ⟨fun _ => rfl, fun _ => rfl⟩
    split
    · rename_i same
      subst same
      exact escape ['\\'] ⟨fun _ => rfl, fun _ => rfl⟩
    split
    · rename_i control
      exact escape ('u' :: fourHex c.toNat) (escapesHex (controlSmall control))
    · rename_i sameLine _ _ backslash control
      exact .plain double (.inl (seenUnlessControl (Bool.eq_false_iff.mpr control) sameLine))
        (fun _ => backslash) (ih 0)

theorem runBelow (q : Char) (run : Nat) (s : List Char) : run ≤ longestRun q run s := by
  induction s generalizing run with
  | nil => exact Nat.le_refl _
  | cons c s ih =>
    rw [longestRun]
    split
    · exact Nat.le_of_succ_le (ih (run + 1))
    · exact Nat.le_max_left _ _

theorem longestRunNone (absent : q ∉ s) : longestRun q run s = run := by
  induction s generalizing run with
  | nil => rfl
  | cons c s ih =>
    simp only [List.mem_cons, not_or] at absent
    rw [longestRun, if_neg (Ne.symm absent.1), ih absent.2, Nat.max_zero]

theorem literalSpelled (seen : ∀ c ∈ s, visible c = true ∨ manyLines = true ∧ c = '\n')
    (runs : longestRun '\'' run s ≤ limit) : Spelled '\'' limit manyLines run s s := by
  induction s generalizing run with
  | nil => exact .done
  | cons c s ih =>
    have later : ∀ d ∈ s, visible d = true ∨ manyLines = true ∧ d = '\n' :=
      fun d member => seen d (List.mem_cons_of_mem _ member)
    rw [longestRun] at runs
    split at runs
    · rename_i same
      subst same
      exact .quote (Nat.lt_of_lt_of_le (runBelow _ _ s) runs) (ih later runs)
    · rename_i other
      exact .plain other (seen c List.mem_cons_self) (fun double => absurd double (by decide))
        (ih later (Nat.le_trans (Nat.le_max_right _ _) runs))

def Quoting.Fits (s : List Char) : Quoting → Prop
  | .basic | .basicLines => True
  | .literal => (∀ c ∈ s, visible c = true) ∧ '\'' ∉ s
  | .literalLines => (∀ c ∈ s, visible c = true ∨ c = '\n') ∧ longestRun '\'' 0 s ≤ 2

theorem seenUnlessControls (plain : s.any isControl = false) :
    ∀ c ∈ s, visible c = true ∨ c = '\n' := by
  intro c member
  have seen := Bool.eq_false_iff.mpr (List.any_eq_false.mp plain c member)
  by_cases line : c = '\n'
  · exact .inr line
  · exact .inl (seenUnlessControl seen line)

theorem literalFits (plain : s.any isControl = false) (oneLine : '\n' ∉ s) (absent : '\'' ∉ s) :
    Quoting.Fits s .literal := by
  refine ⟨fun c member => (seenUnlessControls plain c member).resolve_right ?_, absent⟩
  rintro rfl
  exact oneLine member

theorem quotingFits (s : List Char) : (quoting s).Fits s := by
  unfold quoting
  dsimp only
  split
  · trivial
  split
  · rename_i plain
    simp only [Bool.and_eq_true, Bool.not_eq_true', List.contains_eq_mem, decide_eq_false_iff_not]
      at plain
    exact literalFits plain.1.1 plain.2 plain.1.2
  split
  · trivial
  split
  · rename_i plain
    simp only [Bool.and_eq_true, Bool.not_eq_true', decide_eq_true_eq] at plain
    exact ⟨seenUnlessControls plain.1, plain.2⟩
  split
  · trivial
  · trivial

theorem keyQuotingFits (s : List Char) :
    keyQuoting s = .basic ∨ keyQuoting s = .literal ∧ Quoting.Fits s .literal := by
  unfold keyQuoting
  dsimp only
  split
  · exact .inl rfl
  split
  · rename_i plain
    simp only [Bool.and_eq_true, Bool.not_eq_true', List.contains_eq_mem, decide_eq_false_iff_not]
      at plain
    exact .inr ⟨rfl, literalFits plain.1.1 plain.1.2 plain.2⟩
  · exact .inl rfl

end Writing

theorem Spelled.single (h : Spelled q 0 manyLines 0 shown s) (stop : rest.head? ≠ some q) :
    ∀ t, shown ++ q :: rest ≠ q :: q :: t := by
  intro t same
  rcases h.front (Nat.le_refl 0) with ⟨n, within, rfl, _⟩ | ⟨n, c, u, within, rfl, other⟩
  · obtain rfl : n = 0 := by omega
    cases same
    exact stop rfl
  · obtain rfl : n = 0 := by omega
    exact other (List.cons.inj same).1

theorem quotedBasic (once : ∀ t, s ≠ '"' :: '"' :: t) : quoted? ('"' :: s) = basic? s := by
  unfold quoted?
  split
  · rename_i same
    cases same
    exact absurd rfl (once _)
  · rename_i same
    cases same
  · rename_i same
    cases same
    rfl
  · rename_i same
    cases same
  · rename_i other _
    exact absurd rfl (other s)

theorem quotedLiteral (once : ∀ t, s ≠ '\'' :: '\'' :: t) : quoted? ('\'' :: s) = literal? s := by
  unfold quoted?
  split
  · rename_i same
    cases same
  · rename_i same
    cases same
    exact absurd rfl (once _)
  · rename_i same
    cases same
  · rename_i same
    cases same
    rfl
  · rename_i other
    exact absurd rfl (other s)

theorem Spelled.opened (h : Spelled q 2 true 0 shown s) (mark : visible q = true ∧ q ≠ '\\')
    (stop : rest.head? ≠ some q) :
    let inside := (if s.contains '\n' then ['\n'] else []) ++ shown ++ q :: q :: q :: rest
    lines? q ((newline? inside).getD inside) = some (s, rest) := by
  dsimp only
  split
  · exact h.lines (Nat.zero_le _) mark stop
  · rename_i oneLine
    rw [List.nil_append, h.begins mark.1 (by simpa using oneLine)]
    exact h.lines (Nat.zero_le _) mark stop

theorem quotedBack {style : Quoting} (fits : style.Fits s)
    (stop : rest.head? ≠ some '"' ∧ rest.head? ≠ some '\'') :
    quoted? (quote style s ++ rest) = some (s, rest) := by
  have mark : visible '"' = true ∧ visible '\'' = true := by decide
  cases style with
  | basic =>
    have spelled := escapedSpelled 0 false 0 s
    simp only [quote, List.cons_append, List.append_assoc, List.nil_append]
    rw [quotedBasic (spelled.single stop.1), spelled.basic]
  | literal =>
    have spelled : Spelled '\'' 0 false 0 s s :=
      literalSpelled (fun c member => .inl (fits.1 c member)) (Nat.le_of_eq (longestRunNone fits.2))
    simp only [quote, List.cons_append, List.append_assoc, List.nil_append]
    rw [quotedLiteral (spelled.single stop.2), spelled.literal]
  | basicLines =>
    have back := (escapedSpelled 2 true 0 s).opened ⟨mark.1, by decide⟩ stop.1
    simpa only [quote, quoted?, List.cons_append, List.append_assoc, List.nil_append] using back
  | literalLines =>
    have spelled : Spelled '\'' 2 true 0 s s :=
      literalSpelled (fun c member => (fits.1 c member).imp_right fun line => ⟨rfl, line⟩) fits.2
    have back := spelled.opened ⟨mark.2, by decide⟩ stop.2
    simpa only [quote, quoted?, List.cons_append, List.append_assoc, List.nil_append] using back

theorem textBack (s : String) (rest : List Char)
    (stop : rest.head? ≠ some '"' ∧ rest.head? ≠ some '\'') :
    quoted? (writeText s ++ rest) = some (s.toList, rest) :=
  quotedBack (quotingFits _) stop

end ConnectionPool.Toml
