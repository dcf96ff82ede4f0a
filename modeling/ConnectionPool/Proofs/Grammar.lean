import ConnectionPool.Json
import ConnectionPool.Proofs.Tokens

/-! The grammar of JSON. A text is that of a document if its tokens are put together in the right way; the
reader finds that document in it, and no other. The writer puts tokens together in this way. -/
namespace ConnectionPool.Json

inductive Part where
  | value (d : Document)
  | items (ds : List Document)
  | members (ms : List (Option String × Document))

inductive Forms : Part → List Token → Prop where
  | scalar (d : Document) : Forms (.value d) [.scalar d]
  | text (s : Option String) : Forms (.value (textValue s)) [.text s]
  | emptyList : Forms (.value (.list [])) [.openList, .closeList]
  | list {ds ts} (inner : Forms (.items ds) ts) :
      Forms (.value (.list ds)) (.openList :: (ts ++ [.closeList]))
  | emptyTable : Forms (.value (.table [])) [.openTable, .closeTable]
  | table {ms ts} (inner : Forms (.members ms) ts) :
      Forms (.value (.table ms)) (.openTable :: (ts ++ [.closeTable]))
  | item {d ts} (last : Forms (.value d) ts) : Forms (.items [d]) ts
  | items {d ds ts us} (first : Forms (.value d) ts) (more : Forms (.items ds) us) :
      Forms (.items (d :: ds)) (ts ++ .comma :: us)
  | member {name d ts} (last : Forms (.value d) ts) :
      Forms (.members [(some name, d)]) (.text (some name) :: .colon :: ts)
  | members {name d ms ts us} (first : Forms (.value d) ts) (more : Forms (.members ms) us) :
      Forms (.members ((some name, d) :: ms)) (.text (some name) :: .colon :: (ts ++ .comma :: us))

def Spells (s : List Char) (d : Document) : Prop := ∃ ts, Cuts ts s ∧ Forms (.value d) ts

def finished (d : Document) (rest : List Token) : List Frame → Reading
  | [] => ⟨d, rest.isEmpty⟩
  | frame :: outer => build rest .separator (settle d (frame :: outer))

def Part.Builds (ts : List Token) : Part → Prop
  | .value d => ∀ rest next frames, next = .value ∨ next = .valueOrEnd →
      build (ts ++ rest) next frames = finished d rest frames
  | .items ds => ∀ rest next before outer, next = .value ∨ next = .valueOrEnd →
      build (ts ++ .closeList :: rest) next (.list before :: outer) =
        finished (.list (before.reverse ++ ds)) rest outer
  | .members ms => ∀ rest next before outer, next = .name ∨ next = .nameOrEnd →
      build (ts ++ .closeTable :: rest) next (.table before :: outer) =
        finished (.table (before.reverse ++ ms)) rest outer

section Beginnings

variable {next : Next} {frames outer : List Frame} {rest : List Token}

theorem listBegins (value : next = .value ∨ next = .valueOrEnd) :
    build (.openList :: rest) next frames = build rest .valueOrEnd (.list [] :: frames) := by
  rcases value with rfl | rfl <;> rw [build]

theorem tableBegins (value : next = .value ∨ next = .valueOrEnd) :
    build (.openTable :: rest) next frames = build rest .nameOrEnd (.table [] :: frames) := by
  rcases value with rfl | rfl <;> rw [build]

theorem memberBegins {before : List (Option String × Document)} {name : Option String}
    (named : next = .name ∨ next = .nameOrEnd) :
    build (.text name :: .colon :: rest) next (.table before :: outer) =
      build rest .value (.member before name :: outer) := by
  rcases named with rfl | rfl <;> simp only [build]

end Beginnings

theorem Forms.builds {part : Part} {ts : List Token} (h : Forms part ts) : part.Builds ts := by
  induction h with
  | scalar d =>
    rintro rest next frames (rfl | rfl) <;> cases frames <;> simp [build, finished]
  | text s =>
    rintro rest next frames (rfl | rfl) <;> cases frames <;> simp [build, finished]
  | emptyList =>
    rintro rest next frames (rfl | rfl) <;> cases frames <;> simp [build, finished]
  | emptyTable =>
    rintro rest next frames (rfl | rfl) <;> cases frames <;> simp [build, finished]
  | list _ ih =>
    intro rest next frames value
    rw [List.cons_append, listBegins value, List.append_assoc]
    exact ih rest .valueOrEnd [] frames (.inr rfl)
  | table _ ih =>
    intro rest next frames value
    rw [List.cons_append, tableBegins value, List.append_assoc]
    exact ih rest .nameOrEnd [] frames (.inr rfl)
  | item _ ih =>
    intro rest next before outer value
    rw [ih _ next _ value]
    simp only [finished, settle, build, List.reverse_cons]
    cases outer <;> rfl
  | @items d ds ts us _ _ first more =>
    intro rest next before outer value
    rw [List.append_assoc, first _ next _ value]
    have last := more rest .value (d :: before) outer (.inl rfl)
    simpa [finished, settle, build] using last
  | member _ ih =>
    intro rest next before outer named
    rw [List.cons_append, List.cons_append, memberBegins named, ih _ .value _ (.inl rfl)]
    simp only [finished, settle, Json.named, build, List.reverse_cons]
    cases outer <;> rfl
  | @members name d ms ts us _ _ first more =>
    intro rest next before outer named
    rw [List.cons_append, List.cons_append, memberBegins named, List.append_assoc,
      first _ .value _ (.inl rfl)]
    have last := more rest .name ((some name, d) :: before) outer (.inl rfl)
    simpa [finished, settle, build, Json.named] using last

theorem Spells.read {s : List Char} {d : Document} (h : Spells s d) : read s = ⟨d, true⟩ := by
  obtain ⟨ts, cuts, forms⟩ := h
  have built := forms.builds [] .value [] (.inl rfl)
  rw [List.append_nil] at built
  rw [Json.read, cuts.back, built]
  rfl

theorem Spells.decode {α : Type} {s : String} {d : Document} (h : Spells s.toList d)
    (as : Document → Decoded α) : Json.decode as s = as d := by
  rw [Json.decode, h.read]
  cases as d <;> rfl

section Writing

inductive Writable : Document → Prop where
  | null : Writable .null
  | bool (b : Bool) : Writable (.bool b)
  | integer {n : Int} (low : -0x8000000000000000 ≤ n) (high : n < UInt64.size) : Writable (.integer n)
  | text (s : String) : Writable (.text s)
  | list {ds} (each : ∀ d ∈ ds, Writable d) : Writable (.list ds)
  | table {ms} (each : ∀ m ∈ ms, Writable m.2) (named : ∀ m ∈ ms, m.1.isSome) : Writable (.table ms)

def Written (ts : List Token) : Prop :=
  ∀ later rest, Numeral.Stops rest → Cuts later rest →
    Cuts (ts ++ later) (ts.flatMap Token.write ++ rest)

variable {ts us : List Token} {t : Token} {c : Char} {ds : List Document}
  {ms : List (Option String × Document)}

theorem markStops (stands : mark? c = some t) (s : List Char) : Numeral.Stops (c :: s) := by
  have unlike : ∀ d, mark? d = none → c ≠ d := fun d unmarked same => by
    rw [same, unmarked] at stands
    cases stands
  intro d first
  cases first
  refine ⟨Bool.eq_false_iff.mpr fun digit => ?_, unlike _ (by decide), unlike _ (by decide),
    unlike _ (by decide)⟩
  rw [(digitVisible (.inr digit)).2.1] at stands
  cases stands

theorem Written.nil : Written [] := fun _ _ _ more => more

/- A number does not go on in a mark, so that tokens on both sides of one can be told apart. -/
theorem Written.around (stands : mark? c = some t) (form : t.write = [c]) (first : Written ts)
    (second : Written us) : Written (ts ++ t :: us) := by
  intro later rest stops more
  have cuts := first _ _ (markStops stands _) (.mark stands (second later rest stops more))
  simpa [form] using cuts

theorem Written.text (s : String) : Written [.text (some s)] := by
  intro later rest _ more
  simpa [Token.write] using Cuts.written s more

theorem Written.word {w : List Char} {d : Document} (member : (w, d) ∈ words)
    (form : (Token.scalar d).write = w) : Written [.scalar d] := by
  intro later rest _ more
  simpa [form] using Cuts.word member more

theorem Written.integer {n : Int} (low : -0x8000000000000000 ≤ n) (high : n < UInt64.size) :
    Written [.scalar (.integer n)] := by
  intro later rest stops more
  obtain ⟨m, spelling, value⟩ := integerSpelling low high
  simpa [Token.write, value] using Cuts.number spelling stops more

theorem itemsWritten (each : ∀ d ∈ ds, Written (tokensOf d)) : Written (itemTokens ds) := by
  induction ds with
  | nil => exact .nil
  | cons d ds ih =>
    have first := each d List.mem_cons_self
    cases ds with
    | nil => exact first
    | cons e ds => exact .around rfl rfl first (ih fun d member => each d (List.mem_cons_of_mem _ member))

theorem itemsFormed (each : ∀ d ∈ ds, Forms (.value d) (tokensOf d)) (filled : ds ≠ []) :
    Forms (.items ds) (itemTokens ds) := by
  induction ds with
  | nil => contradiction
  | cons d ds ih =>
    have first := each d List.mem_cons_self
    cases ds with
    | nil => exact .item first
    | cons e ds =>
      exact .items first (ih (fun d member => each d (List.mem_cons_of_mem _ member)) (by simp))

theorem membersWritten (each : ∀ m ∈ ms, Written (tokensOf m.2)) : Written (memberTokens ms) := by
  have member (m : Option String × Document) (value : Written (tokensOf m.2)) :
      Written (memberToken m) := by
    obtain ⟨name, d⟩ := m
    exact .around (c := ':') rfl rfl (.text _) value
  induction ms with
  | nil => exact .nil
  | cons m ms ih =>
    have first := member m (each m List.mem_cons_self)
    cases ms with
    | nil => exact first
    | cons e ms => exact .around rfl rfl first (ih fun m member => each m (List.mem_cons_of_mem _ member))

theorem membersFormed (each : ∀ m ∈ ms, Forms (.value m.2) (tokensOf m.2))
    (named : ∀ m ∈ ms, m.1.isSome) (filled : ms ≠ []) : Forms (.members ms) (memberTokens ms) := by
  induction ms with
  | nil => contradiction
  | cons m ms ih =>
    obtain ⟨name | name, d⟩ := m
    · cases named _ List.mem_cons_self
    have first := each _ List.mem_cons_self
    cases ms with
    | nil => exact .member first
    | cons e ms =>
      exact .members first (ih (fun m member => each m (List.mem_cons_of_mem _ member))
        (fun m member => named m (List.mem_cons_of_mem _ member)) (by simp))

theorem Writable.written {d : Document} (h : Writable d) : Written (tokensOf d) := by
  induction h with
  | null => exact .word (w := ['n', 'u', 'l', 'l']) (by simp [words]) rfl
  | bool b =>
    cases b with
    | true => exact .word (w := ['t', 'r', 'u', 'e']) (by simp [words]) rfl
    | false => exact .word (w := ['f', 'a', 'l', 's', 'e']) (by simp [words]) rfl
  | integer low high => exact .integer low high
  | text s => exact .text s
  | list _ ih =>
    have opened := Written.around (c := '[') rfl rfl .nil (itemsWritten ih)
    exact .around (c := ']') rfl rfl opened .nil
  | table _ _ ih =>
    have opened := Written.around (c := '\x7b') rfl rfl .nil (membersWritten ih)
    exact .around (c := '\x7d') rfl rfl opened .nil

theorem Writable.formed {d : Document} (h : Writable d) : Forms (.value d) (tokensOf d) := by
  induction h with
  | null => exact .scalar _
  | bool b => exact .scalar _
  | integer => exact .scalar _
  | text s => exact .text (some s)
  | @list ds _ ih =>
    cases ds with
    | nil => exact .emptyList
    | cons d ds => exact .list (itemsFormed ih (by simp))
  | @table ms _ named ih =>
    cases ms with
    | nil => exact .emptyTable
    | cons m ms => exact .table (membersFormed ih named (by simp))

theorem Writable.spells {d : Document} (h : Writable d) : Spells (write d) d := by
  have cuts := h.written [] [] (fun c first => nomatch first) .done
  rw [List.append_nil, List.append_nil] at cuts
  exact ⟨_, cuts, h.formed⟩

end Writing

end ConnectionPool.Json
