import ConnectionPool.Pool

/-! What the diagnostic forms tell of a password. A source and a pool look the same whatever their
password is. Settings do so as far as their own password goes; one among the properties for the driver is
shown like any other property, and can be read off. -/
namespace ConnectionPool

namespace Text

theorem hexDigits (n : Nat) :
    hex n = (if n < 16 then [] else hex (n / 16)) ++ [Nat.digitChar (n % 16)] := by
  rw [hex, Nat.toDigits_eq_if (by decide)]
  split
  · rename_i small
    rw [Nat.mod_eq_of_lt small]
    rfl
  · rfl

theorem hexInjective {n m : Nat} (h : hex n = hex m) : n = m := by
  induction n using Nat.strongRecOn generalizing m with
  | ind n ih =>
    rw [hexDigits n, hexDigits m] at h
    obtain ⟨before, last⟩ := List.append_inj' h rfl
    have apart : ∀ n < 16, ∀ m < 16, Nat.digitChar n = Nat.digitChar m → n = m := by decide
    have last := apart (n % 16) (by omega) (m % 16) (by omega) (List.singleton_inj.mp last)
    split at before
    · split at before
      · omega
      · exact absurd before.symm Nat.toDigits_ne_nil
    · split at before
      · exact absurd before Nat.toDigits_ne_nil
      · have front := ih (n / 16) (by omega) before
        omega

theorem hexBare (n : Nat) : '\x7d' ∉ hex n := by
  induction n using Nat.strongRecOn with
  | ind n ih =>
    have digit : ∀ n < 16, Nat.digitChar n ≠ '\x7d' := by decide
    rw [hexDigits, List.mem_append, not_or]
    constructor
    · split
      · exact List.not_mem_nil
      · exact ih (n / 16) (by omega)
    · rw [List.mem_singleton]
      exact fun same => digit (n % 16) (by omega) same.symm

def letters : List (Char × Char) :=
  [('"', '"'), ('\\', '\\'), ('\n', 'n'), ('\r', 'r'), ('\t', 't'), ('\x00', '0')]

inductive Code : Char → List Char → Prop where
  | plain {c} (other : c ≠ '\\') : Code c [c]
  | letter {c l} (known : (c, l) ∈ letters) : Code c ['\\', l]
  | number (c : Char) : Code c ('\\' :: 'u' :: '\x7b' :: (hex c.toNat ++ ['\x7d']))

variable {c d : Char} {x y r s : List Char}

theorem escapeCode (c : Char) : Code c (escape c) := by
  unfold escape
  repeat' split
  · rename_i same; subst same; exact .letter (by decide)
  · rename_i same; subst same; exact .letter (by decide)
  · rename_i same; subst same; exact .letter (by decide)
  · rename_i same; subst same; exact .letter (by decide)
  · rename_i same; subst same; exact .letter (by decide)
  · rename_i zero
    have same : c = '\x00' := Char.toNat_inj.mp zero
    subst same
    exact .letter (by decide)
  · exact .plain (by assumption)
  · exact .number c

theorem Code.apart (hc : Code c x) (hd : Code d y) (h : x ++ r = y ++ s) : c = d ∧ r = s := by
  cases hc with
  | plain other =>
    cases hd with
    | plain => simpa using h
    | letter => simp at h; exact absurd h.1 other
    | number => simp at h; exact absurd h.1 other
  | @letter l known =>
    cases hd with
    | plain other => simp at h; exact absurd h.1.symm other
    | @letter m knows =>
      have same : l = m ∧ r = s := by simpa using h
      have distinct : ∀ a ∈ letters, ∀ b ∈ letters, a.2 = b.2 → a.1 = b.1 := by decide
      exact ⟨distinct _ known _ knows same.1, same.2⟩
    | number =>
      simp at h
      obtain ⟨rfl, _⟩ := h
      simp [letters] at known
  | number =>
    cases hd with
    | plain other => simp at h; exact absurd h.1.symm other
    | letter known =>
      simp at h
      obtain ⟨rfl, _⟩ := h
      simp [letters] at known
    | number =>
      have front (n : Nat) (rest : List Char) :
          (hex n ++ '\x7d' :: rest).takeWhile (· != '\x7d') = hex n := by
        rw [List.takeWhile_append_of_pos fun a member => ?_]
        · simp
        · simpa using fun same : a = '\x7d' => hexBare n (same ▸ member)
      have tails : hex c.toNat ++ '\x7d' :: r = hex d.toNat ++ '\x7d' :: s := by simpa using h
      have same : hex c.toNat = hex d.toNat := by rw [← front c.toNat r, tails, front]
      rw [same] at tails
      exact ⟨Char.toNat_inj.mp (hexInjective same),
        (List.cons.inj (List.append_cancel_left tails)).2⟩

theorem Code.some (h : Code c x) : x ≠ [] := by
  cases h <;> exact List.cons_ne_nil _ _

theorem escapesInjective {l m : List Char} (h : l.flatMap escape = m.flatMap escape) : l = m := by
  induction l generalizing m with
  | nil =>
    cases m with
    | nil => rfl
    | cons d m =>
      rw [List.flatMap_cons] at h
      exact absurd (List.append_eq_nil_iff.mp h.symm).1 (escapeCode d).some
  | cons c l ih =>
    cases m with
    | nil =>
      rw [List.flatMap_cons] at h
      exact absurd (List.append_eq_nil_iff.mp h).1 (escapeCode c).some
    | cons d m =>
      rw [List.flatMap_cons, List.flatMap_cons] at h
      obtain ⟨rfl, rest⟩ := (escapeCode c).apart (escapeCode d) h
      rw [ih rest]

theorem quotedInjective {s t : String} (h : quoted s = quoted t) : s = t := by
  have inside := (List.cons.inj (String.ofList_injective h)).2
  exact String.toList_inj.mp (escapesInjective (List.append_cancel_right inside))

variable {name key v u : String} {a b : List (String × String)}

theorem listingMore (e : String × String) {l : List (String × String)} (more : l ≠ []) :
    listing (e :: l) = e.1 ++ ": " ++ e.2 ++ (", " ++ listing l) := by
  obtain ⟨f, l, rfl⟩ := List.exists_cons_of_ne_nil more
  rw [listing, List.map_cons, List.map_cons, String.intercalate_cons_cons, String.append_assoc]
  rfl

theorem listingAround (a : List (String × String)) (key : String) (b : List (String × String)) :
    ∃ before after, ∀ v, listing (a ++ (key, v) :: b) = before ++ v ++ after := by
  induction a with
  | nil =>
    by_cases more : b = []
    · subst more
      refine ⟨key ++ ": ", "", fun v => ?_⟩
      simp [listing]
    · exact ⟨key ++ ": ", ", " ++ listing b, fun v => listingMore (key, v) more⟩
  | cons e a ih =>
    obtain ⟨before, after, around⟩ := ih
    refine ⟨e.1 ++ ": " ++ e.2 ++ (", " ++ before), after, fun v => ?_⟩
    rw [List.cons_append, listingMore e (List.append_ne_nil_of_right_ne_nil a (List.cons_ne_nil _ _)),
      around]
    simp only [String.append_assoc]

theorem listingInjective (h : listing (a ++ (key, v) :: b) = listing (a ++ (key, u) :: b)) : v = u := by
  obtain ⟨before, after, around⟩ := listingAround a key b
  rw [around, around] at h
  exact (String.append_right_inj before).mp ((String.append_left_inj after).mp h)

theorem recordInjective
    (h : record name (a ++ (key, v) :: b) = record name (a ++ (key, u) :: b)) : v = u := by
  have inside := (String.append_left_inj " \x7d").mp h
  exact listingInjective ((String.append_right_inj (name ++ " \x7b ")).mp inside)

theorem mappingInjective (h : mapping (a ++ (key, v) :: b) = mapping (a ++ (key, u) :: b)) : v = u := by
  have inside := (String.append_right_inj "\x7b").mp ((String.append_left_inj "\x7d").mp h)
  rw [List.map_append, List.map_append] at inside
  exact quotedInjective (listingInjective inside)

end Text

def Properties.maskedEntry (e : String × String) : String × String :=
  (e.1, if e.1 = "password" then "" else e.2)

def Properties.masked (p : Properties) : Properties where
  entries := p.entries.map maskedEntry
  sorted := List.pairwise_map.mpr p.sorted

def Source.masked (s : Source) : Source :=
  { s with password := s.password.map fun _ => "", properties := s.properties.masked }

def Settings.masked (s : Settings) : Settings :=
  { s with password := s.password.map fun _ => "", properties := s.properties.masked }

def Pool.masked (p : Pool) : Pool :=
  { p with
    source := p.source.masked
    expectedCode := 0
    idle := p.idle.map fun e => { e with typeCode := 0 }
    active := p.active.map fun e => { e with typeCode := 0 } }

namespace Properties

variable {l m : List (String × String)} {p q : Properties}

theorem maskedTail {v : String} (sorted : (("password", v) :: l).Pairwise (fun a b => a.1 < b.1)) :
    l.map maskedEntry = l := by
  refine (List.map_congr_left fun e member => ?_).trans (List.map_id l)
  have after : "password" < e.1 := (List.pairwise_cons.mp sorted).1 e member
  have other : e.1 ≠ "password" := fun same => String.lt_irrefl _ (same ▸ after)
  rw [maskedEntry, if_neg other, id]

theorem maskedParts (hl : l.Pairwise (fun a b => a.1 < b.1)) (hm : m.Pairwise (fun a b => a.1 < b.1))
    (same : l.map maskedEntry = m.map maskedEntry) :
    l = m ∨ ∃ a v u b, l = a ++ ("password", v) :: b ∧ m = a ++ ("password", u) :: b ∧
      l.lookup "password" = some v ∧ m.lookup "password" = some u := by
  induction l generalizing m with
  | nil => exact .inl (List.map_eq_nil_iff.mp same.symm).symm
  | cons e l ih =>
    cases m with
    | nil => cases same
    | cons f m =>
      obtain ⟨name, v⟩ := e
      obtain ⟨other, u⟩ := f
      obtain ⟨head, tail⟩ := List.cons.inj same
      obtain ⟨rfl, value⟩ : name = other ∧ _ := Prod.mk.inj head
      -- The names are in order, so there is at most one password, and the entries after it are not masked.
      by_cases secret : name = "password"
      · subst secret
        rw [maskedTail hl, maskedTail hm] at tail
        exact .inr ⟨[], v, u, l, rfl, by rw [tail]; rfl, by simp, by simp⟩
      · have equal : v = u := by simpa [secret] using value
        subst equal
        rcases ih hl.of_cons hm.of_cons tail with rfl | ⟨a, x, y, b, rfl, rfl, first, second⟩
        · exact .inl rfl
        · have passed : ("password" == name) = false := beq_eq_false_iff_ne.mpr (Ne.symm secret)
          refine .inr ⟨(name, v) :: a, x, y, b, rfl, rfl, ?_, ?_⟩
          · rw [List.lookup_cons, passed]
            exact first
          · rw [List.lookup_cons, passed]
            exact second

theorem maskedShown (same : p.masked = q.masked)
    (shown : Text.mapping p.entries = Text.mapping q.entries) :
    p.get? "password" = q.get? "password" := by
  have parts := maskedParts p.sorted q.sorted (congrArg entries same)
  rcases parts with equal | ⟨a, v, u, b, first, second, atFirst, atSecond⟩
  · rw [get?, equal]
    rfl
  · rw [first, second] at shown
    rw [get?, get?, atFirst, atSecond, Text.mappingInjective shown]

theorem maskedEqual (same : p.masked = q.masked) (word : p.get? "password" = q.get? "password") :
    p = q := by
  have equal : p.entries = q.entries := by
    have parts := maskedParts p.sorted q.sorted (congrArg entries same)
    rcases parts with equal | ⟨a, v, u, b, first, second, atFirst, atSecond⟩
    · exact equal
    · rw [get?, get?, atFirst, atSecond] at word
      rw [first, second, Option.some.inj word]
  cases p
  cases q
  cases equal
  rfl

end Properties

theorem Source.debugMasked (s : Source) : s.masked.debug = s.debug := by
  simp only [debug, masked, Option.map_map, Function.comp_def]

theorem Pool.debugMasked (p : Pool) : p.masked.debug = p.debug := by
  simp only [debug, masked, statistics, Source.debugMasked, List.length_map]

theorem Settings.debugWithout (s : Settings) :
    { s.masked with properties := s.properties }.debug = s.debug := by
  simp only [debug, masked, Option.map_map, Function.comp_def]

theorem Settings.debugProperties (s : Settings) {p q : Properties}
    (h : { s with properties := p }.debug = { s with properties := q }.debug) :
    Text.mapping p.entries = Text.mapping q.entries :=
  Text.recordInjective (a := [
    ("driver", Text.quoted s.driver),
    ("url", Text.quoted s.url),
    ("username", Text.optional (s.username.map Text.quoted)),
    ("password", Text.optional (s.password.map fun _ => Text.quoted "***")),
    ("auto_commit", toString s.autoCommit),
    ("transaction_isolation", Text.optional (s.isolation.map Isolation.debug))]) h

theorem Settings.debugIff {s t : Settings} (same : s.masked = t.masked) :
    s.debug = t.debug ↔ s.properties.get? "password" = t.properties.get? "password" := by
  have properties : s.properties.masked = t.properties.masked := congrArg Settings.properties same
  rw [← s.debugWithout, ← t.debugWithout, same]
  constructor
  · intro shown
    exact Properties.maskedShown properties (t.masked.debugProperties shown)
  · intro word
    rw [Properties.maskedEqual properties word]

/- Sources or pools that differ in nothing but passwords look the same. Settings that do so look the same
just if their properties have the same password: that one is shown, unlike the password of their own. -/
theorem passwordsShown {s t : Source} (sources : s.masked = t.masked) {p q : Pool}
    (pools : p.masked = q.masked) {u v : Settings} (settings : u.masked = v.masked) :
    s.debug = t.debug ∧ p.debug = q.debug ∧
    (u.debug = v.debug ↔ u.properties.get? "password" = v.properties.get? "password") := by
  refine ⟨?_, ?_, Settings.debugIff settings⟩
  · rw [← s.debugMasked, sources, t.debugMasked]
  · rw [← p.debugMasked, pools, q.debugMasked]

def Settings.guarded (own given : String) : Settings :=
  { Settings.new "postgres" "postgres://localhost/app" with
    password := some own
    properties := .ofList [("password", given)] }

def Pool.guarded (word : String) : Pool :=
  .new { driver := ⟨0, "postgres"⟩, url := "postgres://localhost/app", password := some word } .standard

theorem passwordsShownGuarded :
    (Pool.guarded "one").source.debug = (Pool.guarded "two").source.debug ∧
    (Pool.guarded "one").debug = (Pool.guarded "two").debug ∧
    (Settings.guarded "one" "secret").debug = (Settings.guarded "two" "secret").debug ∧
    (Settings.guarded "one" "secret").debug ≠ (Settings.guarded "one" "other").debug := by
  have sources : (Pool.guarded "one").source.masked = (Pool.guarded "two").source.masked := by
    decide +kernel
  have pools : (Pool.guarded "one").masked = (Pool.guarded "two").masked := by decide +kernel
  have own : (Settings.guarded "one" "secret").masked = (Settings.guarded "two" "secret").masked := by
    decide +kernel
  have given : (Settings.guarded "one" "secret").masked = (Settings.guarded "one" "other").masked := by
    decide +kernel
  obtain ⟨sameSource, samePool, alike⟩ := passwordsShown sources pools own
  obtain ⟨_, _, shown⟩ := passwordsShown sources pools given
  exact ⟨sameSource, samePool, alike.mpr (by decide +kernel),
    fun same => absurd (shown.mp same) (by decide +kernel)⟩

theorem passwordRevealed : ∃ s t : Settings, s.masked = t.masked ∧ s.debug ≠ t.debug := by
  have same : (Settings.guarded "one" "secret").masked = (Settings.guarded "one" "other").masked := by
    decide +kernel
  refine ⟨_, _, same, fun shown => absurd ((Settings.debugIff same).mp shown) ?_⟩
  decide +kernel

end ConnectionPool
