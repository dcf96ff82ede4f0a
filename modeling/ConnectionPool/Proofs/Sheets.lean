import ConnectionPool.Proofs.Lines

/-! Documents of two levels: values under their names, and then tables of values under theirs. Such a
document is what is read from its own text, if no name is given twice. -/
namespace ConnectionPool.Toml

def Plain.Fits : Plain → Prop
  | .integer n => n < 0x8000000000000000
  | _ => True

structure Sheet where
  lines : List (String × Plain)
  tables : List (String × List (String × Plain))
  deriving DecidableEq, Repr

variable {name owner : String} {text : List Char} {lines : List (String × Plain)}
  {tables : List (String × List (String × Plain))} {later : List Statement}
  {members : List (Option String × Document)}

section Texts

def assignments (lines : List (String × Plain)) : List Statement :=
  lines.map fun l => .assign [] l.1 l.2.tree

def lineMembers (lines : List (String × Plain)) : List (Option String × Document) :=
  lines.map fun l => (some l.1, l.2.document)

def sections (tables : List (String × List (String × Plain))) : List Statement :=
  tables.flatMap fun t => .define [] t.1 :: assignments t.2

def tableMembers (tables : List (String × List (String × Plain))) : List (Option String × Document) :=
  tables.map fun t => (some t.1, .table (lineMembers t.2))

theorem writeLine (v : Plain) : writeLines ((some name, v.document) :: members) = (do
    let value ← writeValue v.document
    let lines ← writeLines members
    some (writeKey name ++ [' ', '=', ' '] ++ value ++ '\n' :: lines)) := by
  cases v <;> rfl

theorem linesStated {rest : List Char} (written : writeLines (lineMembers lines) = some text)
    (h : Stated rest later) :
    Stated (text ++ rest) (assignments lines ++ later) := by
  induction lines generalizing text with
  | nil => cases written; exact h
  | cons l lines ih =>
    obtain ⟨name, v⟩ := l
    rw [lineMembers, List.map_cons, writeLine] at written
    simp only [bind, Option.bind_eq_some_iff] at written
    obtain ⟨value, one, others, more, same⟩ := written
    cases Option.some.inj same
    have read := statementBack name (others ++ rest) one
    have tail := ih more
    obtain ⟨c, t, shown, _, first⟩ := keyFirst name
    rw [shown] at read ⊢
    simp only [List.cons_append, List.append_assoc, List.nil_append] at read ⊢
    exact tail.more first read (by simp; omega)

theorem tablesStated (written : writeTables (tableMembers tables) = some text) :
    Stated text (sections tables) := by
  induction tables generalizing text with
  | nil => cases written; exact statedNone
  | cons t tables ih =>
    obtain ⟨name, lines⟩ := t
    rw [tableMembers, List.map_cons, writeTables] at written
    simp only [bind, Option.bind_eq_some_iff, Option.getD_some] at written
    obtain ⟨inside, one, others, more, same⟩ := written
    cases Option.some.inj same
    have tail := linesStated one (ih more)
    have read := headerBack name (inside ++ others)
    simp only [List.cons_append, List.append_assoc, List.nil_append] at read ⊢
    exact (tail.more (by decide) read (by simp; omega)).break

theorem writeLinesOnly :
    writeLines (lineMembers lines ++ tableMembers tables) = writeLines (lineMembers lines) := by
  induction lines with
  | nil =>
    induction tables with
    | nil => rfl
    | cons t tables ih => exact ih
  | cons l lines ih =>
    simp only [lineMembers, List.map_cons, List.cons_append, writeLine] at ih ⊢
    rw [ih]

theorem writeTablesOnly : writeTables (lineMembers lines ++ members) = writeTables members := by
  induction lines with
  | nil => rfl
  | cons l lines ih =>
    obtain ⟨name, v⟩ := l
    cases v <;> exact ih

theorem valueWritten (v : Plain) : (∃ text, writeValue v.document = some text) ↔ v.Fits := by
  cases v with
  | text s => exact ⟨fun _ => trivial, fun _ => ⟨_, rfl⟩⟩
  | bool b => exact ⟨fun _ => trivial, fun _ => ⟨_, rfl⟩⟩
  | integer n =>
    simp only [Plain.document, writeValue, Plain.Fits]
    split
    · exact ⟨fun _ => by omega, fun _ => ⟨_, rfl⟩⟩
    · exact ⟨by rintro ⟨_, ⟨⟩⟩, fun _ => by omega⟩

theorem linesWritten (lines : List (String × Plain)) :
    (∃ text, writeLines (lineMembers lines) = some text) ↔ ∀ l ∈ lines, l.2.Fits := by
  induction lines with
  | nil => simp [lineMembers, writeLines]
  | cons l lines ih =>
    have value := valueWritten l.2
    rw [lineMembers] at ih ⊢
    rw [List.map_cons, writeLine, List.forall_mem_cons, ← value, ← ih]
    simp only [bind, Option.bind_eq_some_iff]
    constructor
    · rintro ⟨_, value, one, others, more, _⟩
      exact ⟨⟨value, one⟩, others, more⟩
    · rintro ⟨⟨value, one⟩, others, more⟩
      exact ⟨_, value, one, others, more, rfl⟩

theorem tablesWritten : (∃ text, writeTables (tableMembers tables) = some text) ↔
    ∀ t ∈ tables, ∀ l ∈ t.2, l.2.Fits := by
  induction tables with
  | nil => simp [tableMembers, writeTables]
  | cons t tables ih =>
    have inner := linesWritten t.2
    rw [tableMembers] at ih ⊢
    rw [List.map_cons, writeTables, List.forall_mem_cons, ← inner, ← ih]
    simp only [bind, Option.bind_eq_some_iff]
    constructor
    · rintro ⟨_, inside, one, others, more, _⟩
      exact ⟨⟨inside, one⟩, others, more⟩
    · rintro ⟨⟨inside, one⟩, others, more⟩
      exact ⟨_, inside, one, others, more, rfl⟩

end Texts

section Trees

def lineTrees (lines : List (String × Plain)) : List (String × Tree) :=
  lines.map fun l => (l.1, l.2.tree)

def tableTrees (tables : List (String × List (String × Plain))) : List (String × Tree) :=
  tables.map fun t => (t.1, .table .defined (lineTrees t.2))

variable {before inside : List (String × Tree)} {v : Tree}

theorem lineDocuments : memberDocuments (lineTrees lines) = lineMembers lines := by
  simp [membersMapped, lineTrees, lineMembers, memberDocument, Plain.treeDocument]

theorem tableDocuments : memberDocuments (tableTrees tables) = tableMembers tables := by
  simp [membersMapped, tableTrees, tableMembers, memberDocument, Tree.toDocument, ← lineDocuments]

theorem unnamed (new : name ∉ before.map (·.1)) : before.lookup name = none := by
  induction before with
  | nil => rfl
  | cons m before ih =>
    simp only [List.map_cons, List.mem_cons, not_or] at new
    rw [List.lookup_cons, beq_eq_false_iff_ne.mpr new.1]
    exact ih new.2

theorem headFresh {names more : List String} (distinct : (names ++ name :: more).Nodup) :
    name ∉ names :=
  fun again => (List.nodup_append.mp distinct).2.2 _ again _ List.mem_cons_self rfl

theorem lastNamed (new : name ∉ before.map (·.1)) :
    (before ++ [(name, v)]).lookup name = some v := by
  induction before with
  | nil => simp
  | cons m before ih =>
    simp only [List.map_cons, List.mem_cons, not_or] at new
    rw [List.cons_append, List.lookup_cons, beq_eq_false_iff_ne.mpr new.1]
    exact ih new.2

theorem lastReplaced {w : Tree} (new : name ∉ before.map (·.1)) :
    Table.replace ⟨.defined, before ++ [(name, v)]⟩ name w = ⟨.defined, before ++ [(name, w)]⟩ := by
  have others : ∀ m ∈ before, (if m.1 = name then (m.1, w) else (m.1, m.2)) = id m :=
    fun m member => if_neg fun (same : m.1 = name) => new (same ▸ List.mem_map_of_mem member)
  have kept := List.map_congr_left others
  rw [List.map_id] at kept
  simp only [Table.replace, List.map_append, List.map_cons, List.map_nil, if_true]
  exact congrArg (fun members => Table.mk .defined (members ++ [(name, w)])) kept

theorem setNew (owner : Option (List String)) (new : name ∉ before.map (·.1)) :
    Table.set owner false name v ⟨.defined, before⟩ = .ok ⟨.defined, before ++ [(name, v)]⟩ := by
  simp [Table.set, Table.get?, unnamed new, Table.add]

theorem rootAssigned (new : name ∉ before.map (·.1)) :
    Draft.apply ⟨⟨.defined, before⟩, []⟩ (.assign [] name v) =
      .ok ⟨⟨.defined, before ++ [(name, v)]⟩, []⟩ := by
  simp [Draft.apply, Table.assign, Table.alter, setNew _ new, Except.map]

theorem tableAssigned (fresh : owner ∉ before.map (·.1)) (new : name ∉ inside.map (·.1)) :
    Draft.apply ⟨⟨.defined, before ++ [(owner, .table .defined inside)]⟩, [owner]⟩
        (.assign [] name v) =
      .ok ⟨⟨.defined, before ++ [(owner, .table .defined (inside ++ [(name, v)]))]⟩, [owner]⟩ := by
  simp [Draft.apply, Table.assign, Table.alter, Table.get?, lastNamed fresh, Way.stopsAt,
    setNew _ new, lastReplaced fresh, Except.map]

theorem opened {current : List String} (fresh : owner ∉ before.map (·.1)) :
    Draft.apply ⟨⟨.defined, before⟩, current⟩ (.define [] owner) =
      .ok ⟨⟨.defined, before ++ [(owner, .table .defined [])]⟩, [owner]⟩ := by
  simp [Draft.apply, Table.alter, Table.define, Table.get?, unnamed fresh, Table.add, Except.map]

theorem rootBuilt (lines : List (String × Plain)) (later : List Statement)
    (before : List (String × Tree)) (distinct : (before.map (·.1) ++ lines.map (·.1)).Nodup) :
    (assignments lines ++ later).foldlM Draft.apply ⟨⟨.defined, before⟩, []⟩ =
      later.foldlM Draft.apply ⟨⟨.defined, before ++ lineTrees lines⟩, []⟩ := by
  induction lines generalizing before with
  | nil => simp [assignments, lineTrees]
  | cons l lines ih =>
    have new : l.1 ∉ before.map (·.1) := headFresh distinct
    have rest := ih (before ++ [(l.1, l.2.tree)]) (by simpa using distinct)
    simp only [assignments, lineTrees, List.map_cons, List.cons_append, List.foldlM_cons,
      rootAssigned new, bind, Except.bind] at rest ⊢
    rw [rest]
    simp

theorem tableBuilt (lines : List (String × Plain)) (later : List Statement)
    (inside : List (String × Tree)) (fresh : owner ∉ before.map (·.1))
    (distinct : (inside.map (·.1) ++ lines.map (·.1)).Nodup) :
    (assignments lines ++ later).foldlM Draft.apply
        ⟨⟨.defined, before ++ [(owner, .table .defined inside)]⟩, [owner]⟩ =
      later.foldlM Draft.apply
        ⟨⟨.defined, before ++ [(owner, .table .defined (inside ++ lineTrees lines))]⟩, [owner]⟩ := by
  induction lines generalizing inside with
  | nil => simp [assignments, lineTrees]
  | cons l lines ih =>
    have new : l.1 ∉ inside.map (·.1) := headFresh distinct
    have rest := ih (inside ++ [(l.1, l.2.tree)]) (by simpa using distinct)
    simp only [assignments, lineTrees, List.map_cons, List.cons_append, List.foldlM_cons,
      tableAssigned fresh new, bind, Except.bind] at rest ⊢
    rw [rest]
    simp

theorem tablesBuilt (before : List (String × Tree)) (current : List String)
    (distinct : (before.map (·.1) ++ tables.map (·.1)).Nodup)
    (inner : ∀ t ∈ tables, (t.2.map (·.1)).Nodup) :
    ((sections tables).foldlM Draft.apply ⟨⟨.defined, before⟩, current⟩).map (·.table) =
      .ok ⟨.defined, before ++ tableTrees tables⟩ := by
  induction tables generalizing before current with
  | nil => simp [sections, tableTrees, pure, Except.pure, Except.map]
  | cons t tables ih =>
    have fresh : t.1 ∉ before.map (·.1) := headFresh distinct
    have rest := ih (before ++ [(t.1, .table .defined (lineTrees t.2))]) [t.1]
      (by simpa using distinct) fun u member => inner u (List.mem_cons_of_mem _ member)
    have built := tableBuilt t.2 (sections tables) [] fresh
      (by simpa using inner t List.mem_cons_self)
    simp only [sections, tableTrees, List.flatMap_cons, List.map_cons, List.cons_append,
      List.foldlM_cons, opened fresh, bind, Except.bind, List.nil_append] at rest built ⊢
    rw [built, rest]
    simp

end Trees

namespace Sheet

variable {sheet : Sheet}

def document (sheet : Sheet) : Document :=
  .table (lineMembers sheet.lines ++ tableMembers sheet.tables)

structure Distinct (sheet : Sheet) : Prop where
  outer : (sheet.lines.map (·.1) ++ sheet.tables.map (·.1)).Nodup
  inner : ∀ t ∈ sheet.tables, (t.2.map (·.1)).Nodup

theorem stated (written : write? sheet.document = some text) :
    Stated text (assignments sheet.lines ++ sections sheet.tables) := by
  simp only [write?, document, bind, Option.bind_eq_some_iff, writeLinesOnly, writeTablesOnly]
    at written
  obtain ⟨lines, one, tables, two, same⟩ := written
  cases Option.some.inj same
  exact linesStated one (tablesStated two)

theorem written : (∃ text, write? sheet.document = some text) ↔
    (∀ l ∈ sheet.lines, l.2.Fits) ∧ ∀ t ∈ sheet.tables, ∀ l ∈ t.2, l.2.Fits := by
  rw [← linesWritten, ← tablesWritten]
  simp only [write?, document, bind, Option.bind_eq_some_iff, writeLinesOnly, writeTablesOnly]
  constructor
  · rintro ⟨_, lines, one, tables, two, _⟩
    exact ⟨⟨lines, one⟩, tables, two⟩
  · rintro ⟨⟨lines, one⟩, tables, two⟩
    exact ⟨_, lines, one, tables, two, rfl⟩

theorem built (distinct : sheet.Distinct) :
    build (assignments sheet.lines ++ sections sheet.tables) =
      .ok ⟨.defined, lineTrees sheet.lines ++ tableTrees sheet.tables⟩ := by
  have names : (lineTrees sheet.lines).map (·.1) = sheet.lines.map (·.1) := by simp [lineTrees]
  have outer := distinct.outer
  have lines := rootBuilt sheet.lines (sections sheet.tables) []
    (List.nodup_append.mp outer).1
  rw [← names] at outer
  rw [build, Draft.start, Table.root, lines]
  exact tablesBuilt _ _ outer distinct.inner

theorem unmarked (written : write? sheet.document = some text) : dropMark text = text := by
  have other (c : Char) (s : List Char) (begun : begins c = true ∨ c = '\n') :
      dropMark (c :: s) = c :: s := by
    unfold dropMark
    split
    · rename_i same
      cases (List.cons.inj same).1
      simp [begins] at begun
    · rfl
  obtain ⟨lines, tables⟩ := sheet
  simp only [write?, document, bind, Option.bind_eq_some_iff, writeLinesOnly, writeTablesOnly]
    at written
  obtain ⟨above, one, below, two, same⟩ := written
  cases Option.some.inj same
  cases lines with
  | cons l lines =>
    simp only [lineMembers, List.map_cons, writeLine, bind, Option.bind_eq_some_iff] at one
    obtain ⟨value, _, others, _, same⟩ := one
    cases Option.some.inj same
    obtain ⟨c, t, shown, _, first⟩ := keyFirst l.1
    rw [shown]
    exact other c _ (.inl first)
  | nil =>
    cases one
    cases tables with
    | nil => cases two; rfl
    | cons t tables =>
      simp only [tableMembers, List.map_cons, writeTables, bind, Option.bind_eq_some_iff] at two
      obtain ⟨inside, _, others, _, same⟩ := two
      cases Option.some.inj same
      exact other '\n' _ (.inr rfl)

theorem back (distinct : sheet.Distinct) (written : write? sheet.document = some text) :
    read text = .ok sheet.document := by
  have found := stated written _ (Nat.lt_succ_self text.length)
  have listed : memberDocuments (lineTrees sheet.lines ++ tableTrees sheet.tables) =
      lineMembers sheet.lines ++ tableMembers sheet.tables := by
    rw [membersMapped, List.map_append, ← membersMapped, ← membersMapped, lineDocuments,
      tableDocuments]
  simp only [read, unmarked written, found, built distinct, listed, document]

end Sheet

end ConnectionPool.Toml
