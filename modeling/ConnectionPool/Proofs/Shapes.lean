import ConnectionPool.Document.Shape

/-! What a shape reads from documents. From the document of a record it reads that record, and what
holds of the blank record and is kept by every field holds of all records it reads. -/
namespace ConnectionPool.Shape

variable {α β : Type} {shape : Shape α} {format : Format} {fields : List (Field α)} {a b : α}

section Back

inductive Filled (format : Format) (a : α) : List (Field α) → α → Prop where
  | done : Filled format a [] a
  | given {field : Field α} {fields : List (Field α)} {d : Document} {b next : α}
      (written : field.write a = some d) (read : field.read format d b = .ok next)
      (later : Filled format a fields next) : Filled format a (field :: fields) b
  | left {field : Field α} {fields : List (Field α)} {b : α} (omitted : field.write a = none)
      (free : field.required = false) (later : Filled format a fields b) :
      Filled format a (field :: fields) b

section Fields

variable {γ : Type} {name : String} {required : Bool}

theorem Filled.always {read : Format → Document → Decoded β} {write : β → Document} {get : α → β}
    {set : β → α → α} (back : read format (write (get a)) = .ok (get a))
    (later : Filled format a fields (set (get a) b)) :
    Filled format a (.of name required read (fun v => some (write v)) get set :: fields) b :=
  .given rfl (by simp [Field.of, back, Except.map]) later

theorem Filled.optional {read : Format → Document → Decoded (Option γ)} {write : γ → Document}
    {get : α → Option γ} {set : Option γ → α → α} (back : ∀ v, read format (write v) = .ok (some v))
    (blank : set none b = b) (later : Filled format a fields (set (get a) b)) :
    Filled format a (.of name false read (fun v => v.map write) get set :: fields) b := by
  cases value : get a with
  | none =>
    rw [value, blank] at later
    exact .left (by simp [Field.of, value]) rfl later
  | some v =>
    rw [value] at later
    exact .given (d := write v) (by simp [Field.of, value]) (by simp [Field.of, back, Except.map]) later

end Fields

def written (fields : List (Field α)) (a : α) : List (String × Document) :=
  fields.filterMap fun field => (field.write a).map (field.name, ·)

theorem found {field : Field α} (distinct : shape.names.Nodup) (member : field ∈ shape.fields) :
    shape.fields.find? (·.name == field.name) = some field := by
  rw [names] at distinct
  generalize shape.fields = fields at distinct member
  induction fields with
  | nil => cases member
  | cons first fields ih =>
    obtain ⟨new, distinct⟩ := List.nodup_cons.mp distinct
    rcases List.mem_cons.mp member with rfl | later
    · simp
    · have other : first.name ≠ field.name := fun same =>
        new (List.mem_map.mpr ⟨field, later, same.symm⟩)
      rw [List.find?_cons_of_neg (by simpa using other)]
      exact ih distinct later

theorem membersBack (earlier : List (Field α)) (seen : List String) (distinct : shape.names.Nodup)
    (split : shape.fields = earlier ++ fields) (fresh : ∀ name ∈ seen, name ∈ earlier.map (·.name))
    (filled : Filled format a fields b) :
    ∃ all, shape.readMembers format ((written fields a).map fun (k, d) => (some k, d)) seen b =
        .ok (all, a) ∧
      (∀ name ∈ seen, name ∈ all) ∧
      ∀ field ∈ fields, field.required = true → field.name ∈ all := by
  induction filled generalizing earlier seen with
  | done => exact ⟨seen, rfl, fun name member => member, by simp⟩
  | @given field fields d b next written read later ih =>
    have here := found distinct (split ▸ List.mem_append_right _ List.mem_cons_self)
    have new : field.name ∉ seen := by
      intro again
      have order := distinct
      rw [names, split, List.map_append, List.map_cons] at order
      exact (List.nodup_append.mp order).2.2 _ (fresh _ again) _ List.mem_cons_self rfl
    have fresh : ∀ name ∈ seen, name ∈ (earlier ++ [field]).map (·.name) := fun name member => by
      simpa using .inl (by simpa using fresh name member)
    obtain ⟨all, done, kept, required⟩ := ih (earlier ++ [field]) (field.name :: seen)
      (by simpa using split) (List.forall_mem_cons.mpr ⟨by simp, fresh⟩)
    refine ⟨all, ?_, fun name member => kept name (List.mem_cons_of_mem _ member), ?_⟩
    · simpa [Shape.written, written, readMembers, here, new, read] using done
    · intro f member
      rcases List.mem_cons.mp member with rfl | member
      · exact fun _ => kept _ List.mem_cons_self
      · exact required f member
  | @left field fields b omitted free later ih =>
    obtain ⟨all, done, kept, required⟩ := ih (earlier ++ [field]) seen (by simpa using split)
      fun name member => by simpa using .inl (by simpa using fresh name member)
    refine ⟨all, ?_, kept, ?_⟩
    · simpa [Shape.written, omitted] using done
    · intro f member
      rcases List.mem_cons.mp member with rfl | member
      · rw [free]
        exact fun no => nomatch no
      · exact required f member

theorem backAs (finish : α → Decoded β) (distinct : shape.names.Nodup)
    (filled : Filled format a shape.fields shape.blank) :
    shape.decodeAs finish format (shape.encode a) = finish a := by
  obtain ⟨seen, done, _, required⟩ :=
    membersBack [] [] distinct rfl (by simp) filled
  have complete : shape.missing? seen = none := by
    simp only [missing?, Option.map_eq_none_iff, List.find?_eq_none, Bool.and_eq_true,
      Bool.not_eq_true', not_and]
    intro field member needed
    simpa using required field member needed
  have listed : (shape.encode a).members? =
      some ((written shape.fields a).map fun (k, d) => (some k, d)) := rfl
  simp only [decodeAs, listed, done, complete]

theorem back (distinct : shape.names.Nodup) (filled : Filled format a shape.fields shape.blank) :
    shape.decode format (shape.encode a) = .ok a :=
  backAs .ok distinct filled

end Back

section Kept

variable {Good : Document → Prop} {Law : α → Prop} {d : Document}

def Inside (Good : Document → Prop) (d : Document) : Prop :=
  (∀ members, d.members? = some members → ∀ m ∈ members, Good m.2) ∧
    ∀ items, d = .list items → ∀ i ∈ items, Good i

def Keeps (fields : List (Field α)) (format : Format) (Good : Document → Prop) (Law : α → Prop) :
    Prop :=
  ∀ field ∈ fields, ∀ d a b, Good d → Law a → field.read format d a = .ok b → Law b

theorem membersKept {members : List (Option String × Document)} {seen all : List String}
    (keeps : Keeps shape.fields format Good Law) (good : ∀ m ∈ members, Good m.2) (law : Law a)
    (h : shape.readMembers format members seen a = .ok (all, b)) : Law b := by
  induction members generalizing seen a with
  | nil => cases h; exact law
  | cons m members ih =>
    obtain ⟨name, d⟩ := m
    have later : ∀ m ∈ members, Good m.2 := fun m member => good m (List.mem_cons_of_mem _ member)
    cases name with
    | none => cases h
    | some name =>
      rw [readMembers] at h
      split at h
      · split at h
        · cases h
        · exact ih later law h
      · rename_i field here
        split at h
        · cases h
        · split at h
          · rename_i next read
            exact ih later (keeps field (List.mem_of_find?_eq_some here) d a next
              (good _ List.mem_cons_self) law read) h
          · cases h

theorem itemsKept {expected : String} {items : List Document} {position : Nat}
    (keeps : Keeps fields format Good Law) (good : ∀ d ∈ items, Good d) (law : Law a)
    (h : readItems .ok expected format fields items position a = .ok b) : Law b := by
  induction fields generalizing items position a with
  | nil =>
    simp only [readItems] at h
    split at h
    · cases h
    · cases h; exact law
  | cons field fields ih =>
    have rest : Keeps fields format Good Law := fun f member =>
      keeps f (List.mem_cons_of_mem _ member)
    cases items with
    | nil =>
      rw [readItems] at h
      split at h
      · cases h
      · exact ih rest good law h
    | cons d items =>
      rw [readItems] at h
      split at h
      · rename_i next read
        exact ih rest (fun d member => good d (List.mem_cons_of_mem _ member))
          (keeps field List.mem_cons_self d a next (good d List.mem_cons_self) law read) h
      · cases h

theorem kept (Law : α → Prop) (keeps : Keeps shape.fields format Good Law) (blank : Law shape.blank)
    (good : Inside Good d) (h : shape.decode format d = .ok a) : Law a := by
  unfold decode decodeAs at h
  split at h
  · rename_i members listed
    split at h
    · cases h
    · rename_i seen b read
      split at h
      · cases h
      · cases h
        exact membersKept keeps (good.1 members listed) blank read
  · exact itemsKept keeps (good.2 _ rfl) blank h
  · unfold Document.mismatch at h
    split at h <;> cases h

end Kept

end ConnectionPool.Shape
