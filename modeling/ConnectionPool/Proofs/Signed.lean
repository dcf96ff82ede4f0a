import ConnectionPool.Toml.Reader

/-! The integers of a document that is read from TOML have 64 bits with a sign, wherever they stand in it:
in lists, in braces, and in tables whichever statements build them. -/
namespace ConnectionPool

inductive Document.Signed : Document → Prop where
  | null : Signed .null
  | bool (b : Bool) : Signed (.bool b)
  | integer {n : Int} (small : n < 0x8000000000000000) : Signed (.integer n)
  | float (x : Float) : Signed (.float x)
  | text (s : String) : Signed (.text s)
  | moment (s : String) : Signed (.moment s)
  | list {items : List Document} (each : ∀ d ∈ items, Signed d) : Signed (.list items)
  | table {members : List (Option String × Document)} (each : ∀ m ∈ members, Signed m.2) :
      Signed (.table members)

namespace Toml

inductive Tree.Signed : Tree → Prop where
  | text (s : String) : Signed (.text s)
  | integer {n : Int} (small : n < 0x8000000000000000) : Signed (.integer n)
  | float (x : Float) : Signed (.float x)
  | bool (b : Bool) : Signed (.bool b)
  | moment (s : String) : Signed (.moment s)
  | list {items : List Tree} (each : ∀ t ∈ items, Signed t) : Signed (.list items)
  | inline {members : List (String × Tree)} (each : ∀ m ∈ members, Signed m.2) :
      Signed (.inline members)
  | table {kind : Kind} {members : List (String × Tree)} (each : ∀ m ∈ members, Signed m.2) :
      Signed (.table kind members)
  | tables {rows : List (List (String × Tree))} (each : ∀ row ∈ rows, ∀ m ∈ row, Signed m.2) :
      Signed (.tables rows)

theorem Tree.Signed.toDocument {t : Tree} (h : t.Signed) : t.toDocument.Signed := by
  have members {members : List (String × Tree)}
      (each : ∀ m ∈ members, m.2.toDocument.Signed) :
      (Document.table (memberDocuments members)).Signed := by
    rw [membersMapped]
    refine .table fun m member => ?_
    obtain ⟨⟨name, t⟩, given, rfl⟩ := List.mem_map.mp member
    exact each (name, t) given
  induction h with
  | text s => exact .text s
  | integer small => exact .integer small
  | float x => exact .float x
  | bool b => exact .bool b
  | moment s => exact .moment s
  | list _ each =>
    rw [Tree.toDocument, listMapped]
    refine .list fun d member => ?_
    obtain ⟨t, given, rfl⟩ := List.mem_map.mp member
    exact each t given
  | inline _ each => exact members each
  | table _ each => exact members each
  | tables _ each =>
    rw [Tree.toDocument, rowsMapped]
    refine .list fun d member => ?_
    obtain ⟨row, given, rfl⟩ := List.mem_map.mp member
    exact members (each row given)

section Outcomes

variable {ε α β : Type} {x : Except ε α} {b : β}

theorem mapSucceeds {f : α → β} (h : x.map f = .ok b) : ∃ a, x = .ok a ∧ f a = b := by
  cases x with
  | error e => cases h
  | ok a => cases h; exact ⟨a, rfl, rfl⟩

theorem bindSucceeds {f : α → Except ε β} (h : (x >>= f) = .ok b) : ∃ a, x = .ok a ∧ f a = .ok b := by
  cases x with
  | error e => cases h
  | ok a => exact ⟨a, rfl, h⟩

theorem presentSucceeds {found : Option α} {a : α} (h : present found = .ok a) : found = some a := by
  cases found with
  | none => cases h
  | some a => cases h; rfl

theorem foldKeeps (Law : β → Prop) {f : β → α → Except ε β} {l : List α} {first last : β}
    (step : ∀ a ∈ l, ∀ b next, Law b → f b a = .ok next → Law next) (law : Law first)
    (h : l.foldlM f first = .ok last) : Law last := by
  induction l generalizing first with
  | nil => cases h; exact law
  | cons a l ih =>
    rw [List.foldlM_cons] at h
    obtain ⟨next, one, h⟩ := bindSucceeds h
    exact ih (fun b member => step b (List.mem_cons_of_mem _ member))
      (step a List.mem_cons_self first next law one) h

end Outcomes

section Readers

variable {s rest : List Char} {t : Tree}

theorem withinSmall {m n : Int} (h : within64 m = some n) : n < 0x8000000000000000 := by
  unfold within64 at h
  split at h
  · cases h
    omega
  · cases h

theorem radixSmall {base : Nat} {digit : Char → Bool} {n : Int}
    (h : radix? base digit s = some (.integer n, rest)) : n < 0x8000000000000000 := by
  simp only [radix?, bind, Option.bind_eq_some_iff] at h
  obtain ⟨_, _, m, within, same⟩ := h
  cases same
  exact withinSmall within

theorem decimalSmall {negative : Bool} {n : Int}
    (h : decimal? negative s = some (.integer n, rest)) : n < 0x8000000000000000 := by
  simp only [decimal?, bind, Option.bind_eq_some_iff] at h
  obtain ⟨_, _, _, _, _, _, h⟩ := h
  split at h
  · obtain ⟨m, within, same⟩ := Option.bind_eq_some_iff.mp h
    cases same
    exact withinSmall within
  · obtain ⟨x, _, same⟩ := Option.bind_eq_some_iff.mp h
    cases same

theorem numberSmall {n : Int} (h : number? s = some (.integer n, rest)) :
    n < 0x8000000000000000 := by
  unfold number? at h
  split at h
  · exact radixSmall h
  · exact radixSmall h
  · exact radixSmall h
  · dsimp only at h
    split at h
    · cases h
    · exact decimalSmall h

theorem scalarSigned (h : scalar? s = some (t, rest)) : t.Signed := by
  unfold scalar? at h
  split at h
  · cases h; exact .bool true
  · cases h; exact .bool false
  · split at h
    · cases h; exact .text _
    · split at h
      · obtain ⟨_, _, same⟩ := Option.map_eq_some_iff.mp h
        cases same
        exact .moment _
      · split at h
        · rename_i number
          cases h
          exact .integer (numberSmall number)
        · cases h; exact .float _
        · cases h

variable {read : Reader Tree}

def ReadsSigned (read : Reader Tree) : Prop := ∀ s t rest, read s = .ok (t, rest) → t.Signed

theorem itemsSigned {bound : Nat} {found : List Tree} (each : ReadsSigned read)
    (h : items read bound s = .ok (found, rest)) : ∀ t ∈ found, t.Signed := by
  induction bound generalizing s found rest with
  | zero => cases h
  | succ bound ih =>
    rw [items] at h
    split at h
    · cases h; simp
    · obtain ⟨⟨t, after⟩, first, h⟩ := bindSucceeds h
      dsimp only at h
      split at h
      · cases h
        simpa using each _ t _ first
      · obtain ⟨⟨more, last⟩, later, same⟩ := bindSucceeds h
        cases same
        exact List.forall_mem_cons.mpr ⟨each _ t _ first, ih later⟩
      · cases h

theorem memberSigned (each : ReadsSigned read) : ReadsSigned (member read) := by
  intro s t rest h
  unfold member at h
  split at h
  · obtain ⟨⟨v, after⟩, value, same⟩ := mapSucceeds h
    cases same
    exact each _ _ _ value
  · cases h

theorem membersSigned {bound : Nat} {found : List (List String × String × Tree)}
    (each : ReadsSigned read) (h : members read bound s = .ok (found, rest)) :
    ∀ m ∈ found, m.2.2.Signed := by
  induction bound generalizing s found rest with
  | zero => cases h; simp
  | succ bound ih =>
    rw [members] at h
    obtain ⟨named, _, h⟩ := bindSucceeds h
    dsimp only at h
    split at h
    · cases h; simp
    · obtain ⟨⟨v, after⟩, value, h⟩ := bindSucceeds h
      have first := memberSigned each _ v after value
      split at h
      · rename_i same
        cases same
        obtain ⟨⟨more, last⟩, later, same⟩ := bindSucceeds h
        cases same
        exact List.forall_mem_cons.mpr ⟨first, ih later⟩
      · rename_i same
        cases same
        cases h
        simpa using first

end Readers

section Tables

variable {t changed : Table} {name : String} {v : Tree} {path : List String}

def Table.Signed (t : Table) : Prop := ∀ m ∈ t.members, m.2.Signed

namespace Table.Signed

theorem got (h : t.Signed) (found : t.get? name = some v) : v.Signed := by
  unfold Table.get? at found
  have member : (name, v) ∈ t.members := by
    generalize t.members = members at found
    induction members with
    | nil => cases found
    | cons m members ih =>
      rw [List.lookup_cons] at found
      split at found
      · rename_i same
        cases found
        rw [eq_of_beq same]
        exact List.mem_cons_self
      · exact List.mem_cons_of_mem _ (ih found)
  exact h _ member

theorem add (h : t.Signed) (new : v.Signed) : (t.add name v).Signed := by
  intro m member
  rcases List.mem_append.mp member with member | member
  · exact h m member
  · cases List.mem_singleton.mp member
    exact new

theorem replace (h : t.Signed) (new : v.Signed) : (t.replace name v).Signed := by
  intro m member
  obtain ⟨old, member, same⟩ := List.mem_map.mp member
  have before := h old member
  dsimp only at same
  split at same
  · subst same; exact new
  · subst same; exact before

theorem remove (h : t.Signed) : (t.remove name).Signed := fun m member =>
  h m ((List.mem_filter.mp member).1)

theorem alter {way : Way} {change : Table → Except Conflict Table} {behind : List String}
    (keeps : ∀ t changed : Table, t.Signed → change t = .ok changed → changed.Signed)
    (h : t.Signed) (done : Table.alter way change behind path t = .ok changed) : changed.Signed := by
  induction path generalizing behind t changed with
  | nil => exact keeps t changed h done
  | cons name path ih =>
    rw [Table.alter] at done
    split at done
    · obtain ⟨sub, inner, rfl⟩ := mapSucceeds done
      exact h.add (.table (ih (by simp [Table.Signed]) inner))
    · rename_i kind members found
      have here := h.got found
      cases here with
      | table each =>
        split at done
        · cases done
        · obtain ⟨sub, inner, rfl⟩ := mapSucceeds done
          exact h.replace (.table (ih (t := ⟨kind, members⟩) each inner))
    · rename_i rows found
      have here := h.got found
      cases here with
      | tables each =>
        obtain ⟨sub, inner, rfl⟩ := mapSucceeds done
        have last : Table.Signed ⟨.defined, rows.getLast?.getD []⟩ := by
          intro m member
          cases final : rows.getLast? with
          | none => simp [final] at member
          | some row =>
            rw [final] at member
            exact each row (List.mem_of_getLast? final) m member
        refine h.replace (.tables fun row member => ?_)
        rcases List.mem_append.mp member with member | member
        · exact each row ((List.dropLast_sublist rows).mem member)
        · cases List.mem_singleton.mp member
          exact ih last inner
    · cases done

theorem set {owner : Option (List String)} {dotted : Bool} (h : t.Signed) (new : v.Signed)
    (done : Table.set owner dotted name v t = .ok changed) : changed.Signed := by
  unfold Table.set at done
  split at done
  · cases done
  · split at done
    · cases done
    · cases done
      exact h.add new

theorem assign {way : Way} (h : t.Signed) (new : v.Signed)
    (done : Table.assign way path name v t = .ok changed) : changed.Signed :=
  h.alter (fun _ _ before => before.set new) done

theorem define (h : t.Signed) (done : Table.define path name t = .ok changed) :
    changed.Signed := by
  unfold Table.define at done
  split at done
  · cases done
    exact h.add (.table (by simp))
  · rename_i members found
    cases done
    have here := h.got found
    cases here with
    | table each => exact h.remove.add (.table each)
  · cases done

theorem extend (h : t.Signed) (done : Table.extend path name t = .ok changed) :
    changed.Signed := by
  unfold Table.extend at done
  split at done
  · cases done
    exact h.add (.tables (by simp))
  · rename_i rows found
    cases done
    have here := h.got found
    cases here with
    | tables each =>
      refine h.replace (.tables fun row member => ?_)
      rcases List.mem_append.mp member with member | member
      · exact each row member
      · cases List.mem_singleton.mp member
        simp
  · cases done

end Table.Signed

theorem inlineSigned {found : List (List String × String × Tree)} {t : Tree}
    (each : ∀ m ∈ found, m.2.2.Signed) (h : inline found = .ok t) : t.Signed := by
  unfold inline at h
  dsimp only at h
  split at h
  · rename_i last found
    cases h
    exact .inline (foldKeeps Table.Signed
      (fun m member _ _ before => before.assign (each m member)) (by simp [Table.Signed, Table.root])
      found)
  · cases h

end Tables

section Texts

variable {s rest : List Char}

theorem valueSigned (depth : Nat) : ReadsSigned (value depth) := by
  induction depth with
  | zero => exact fun s t rest h => scalarSigned (presentSucceeds h)
  | succ depth ih =>
    intro s t rest h
    rw [value.eq_def] at h
    dsimp only at h
    split at h
    · obtain ⟨⟨found, after⟩, read, same⟩ := mapSucceeds h
      cases same
      exact .list (itemsSigned ih read)
    · obtain ⟨⟨found, after⟩, read, h⟩ := bindSucceeds h
      obtain ⟨t, made, h⟩ := bindSucceeds h
      have braces := inlineSigned (membersSigned ih read) made
      split at h
      · cases h
        exact braces
      · cases h
    · exact scalarSigned (presentSucceeds h)

def Statement.Signed : Statement → Prop
  | .assign _ _ v => v.Signed
  | _ => True

theorem statementSigned {found : Statement} (h : statement s = .ok (found, rest)) :
    found.Signed := by
  unfold statement at h
  split at h
  · obtain ⟨_, _, same⟩ := mapSucceeds h
    cases same
    trivial
  · obtain ⟨_, _, same⟩ := mapSucceeds h
    cases same
    trivial
  · obtain ⟨_, _, h⟩ := bindSucceeds h
    obtain ⟨⟨v, after⟩, value, h⟩ := bindSucceeds h
    obtain ⟨_, _, same⟩ := bindSucceeds h
    cases same
    exact memberSigned (valueSigned _) _ _ _ value

theorem statementsSigned (bound : Nat) (s : List Char) :
    ∀ found ∈ (statements bound s).1, found.Signed := by
  induction bound generalizing s with
  | zero => simp [statements]
  | succ bound ih =>
    rw [statements]
    split
    · simp
    · split
      · split
        · exact ih _
        · simp
      · split
        · rename_i read
          exact List.forall_mem_cons.mpr ⟨statementSigned read, ih _⟩
        · simp

theorem appliedSigned {d next : Draft} {found : Statement} (before : d.table.Signed)
    (new : found.Signed) (h : d.apply found = .ok next) : next.table.Signed := by
  cases found with
  | assign path name v =>
    obtain ⟨t, made, rfl⟩ := mapSucceeds h
    exact before.alter (fun _ _ inner => inner.assign new) made
  | define path name =>
    obtain ⟨t, made, rfl⟩ := mapSucceeds h
    exact before.alter (fun _ _ inner => inner.define) made
  | extend path name =>
    obtain ⟨t, made, rfl⟩ := mapSucceeds h
    exact before.alter (fun _ _ inner => inner.extend) made

theorem builtSigned {found : List Statement} {t : Table} (each : ∀ f ∈ found, f.Signed)
    (h : build found = .ok t) : t.Signed := by
  obtain ⟨last, built, rfl⟩ := mapSucceeds h
  exact foldKeeps (fun d : Draft => d.table.Signed)
    (fun f member _ _ before => appliedSigned before (each f member))
    (by simp [Table.Signed, Draft.start, Table.root]) built

theorem readSigned {d : Document} (h : read s = .ok d) : d.Signed := by
  unfold read at h
  dsimp only at h
  split at h
  · cases h
  · cases h
  · rename_i t built _
    cases h
    have tree : (Tree.table t.kind t.members).Signed :=
      .table (builtSigned (statementsSigned _ _) built)
    exact tree.toDocument

end Texts

end Toml
end ConnectionPool
