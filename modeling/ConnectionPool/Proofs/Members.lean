import Mathlib.Data.List.Pairwise
import ConnectionPool.Document.Shape

/-! The members of a table in any order. Fields that each set a part of their own can be read in any
order, and members that name no field of an open shape make no difference. A field that is named
again is refused at its second place. -/
namespace ConnectionPool.Shape

variable {α : Type} {shape : Shape α} {format : Format} {members before after : List (String × Document)}
  {seen all : List String} {a b c : α}

def knows (shape : Shape α) (m : String × Document) : Bool := shape.names.contains m.1

theorem knownField {m : String × Document} (h : shape.knows m = true) :
    ∃ field, shape.fields.find? (·.name == m.1) = some field := by
  rw [knows, List.contains_iff_mem, names] at h
  obtain ⟨field, member, same⟩ := List.mem_map.mp h
  exact Option.isSome_iff_exists.mp (List.find?_isSome.mpr ⟨field, member, by simpa using same⟩)

theorem unknownField {m : String × Document} (h : shape.knows m = false) :
    shape.fields.find? (·.name == m.1) = none := by
  rw [knows, List.contains_eq_mem, decide_eq_false_iff_not, names] at h
  refine List.find?_eq_none.mpr fun field member same => h (List.mem_map.mpr ⟨field, member, ?_⟩)
  simpa using same

section Order

inductive Takes (shape : Shape α) (format : Format) : List (String × Document) → α → α → Prop where
  | done (a : α) : Takes shape format [] a a
  | field {field : Field α} {m : String × Document} {members : List (String × Document)} {a b c : α}
      (found : shape.fields.find? (·.name == m.1) = some field) (read : field.read format m.2 a = .ok b)
      (later : Takes shape format members b c) : Takes shape format (m :: members) a c

def Independent (format : Format) (f g : Field α) : Prop :=
  ∀ d e a c, (∃ b, f.read format d a = .ok b ∧ g.read format e b = .ok c) ↔
    ∃ b, g.read format e a = .ok b ∧ f.read format d b = .ok c

instance : Std.Symm (Independent format : Field α → Field α → Prop) :=
  ⟨fun _ _ either d e a c => (either e d a c).symm⟩

theorem setsApart {β γ : Type} {name other : String} {required free : Bool}
    {read : Format → Document → Decoded β} {write : β → Option Document} {get : α → β}
    {set : β → α → α} {read' : Format → Document → Decoded γ} {write' : γ → Option Document}
    {get' : α → γ} {set' : γ → α → α} (commute : ∀ v w a, set' w (set v a) = set v (set' w a)) :
    Independent format (.of name required read write get set) (.of other free read' write' get' set') := by
  intro d e a c
  simp only [Field.of]
  cases read format d with
  | error => simp [Except.map]
  | ok v =>
    cases read' format e with
    | error => simp [Except.map]
    | ok w => simp [Except.map, commute]

theorem Takes.shuffle (independent : shape.fields.Pairwise (Independent format))
    (order : before.Perm after) (distinct : (before.map (·.1)).Nodup)
    (h : Takes shape format before a c) : Takes shape format after a c := by
  induction order generalizing a with
  | nil => exact h
  | cons m order ih =>
    cases h with
    | field found read later => exact .field found read (ih (List.nodup_cons.mp distinct).2 later)
  | swap m n members =>
    obtain _ | @⟨f, _, _, _, b, _, first, read, later⟩ := h
    obtain _ | @⟨g, _, _, _, b', _, second, again, later⟩ := later
    have apart : f ≠ g := by
      rintro rfl
      have one : f.name = n.1 := by simpa using List.find?_some first
      have two : f.name = m.1 := by simpa using List.find?_some second
      simp [← one, ← two] at distinct
    have either := independent.forall (List.mem_of_find?_eq_some first)
      (List.mem_of_find?_eq_some second) apart
    obtain ⟨b, again, read⟩ := (either n.2 m.2 a b').mp ⟨b, read, again⟩
    exact .field second again (.field first read later)
  | trans first _ ih ih' => exact ih' ((first.map _).nodup_iff.mp distinct) (ih distinct h)

theorem Takes.read (anyNames : shape.closed = false)
    (distinct : ((members.filter shape.knows).map (·.1)).Nodup)
    (fresh : ∀ m ∈ members.filter shape.knows, m.1 ∉ seen)
    (h : Takes shape format (members.filter shape.knows) a b) :
    ∃ all, shape.readMembers format (members.map fun (k, d) => (some k, d)) seen a = .ok (all, b) := by
  induction members generalizing seen a with
  | nil =>
    cases h
    exact ⟨seen, rfl⟩
  | cons m members ih =>
    cases known : shape.knows m with
    | false =>
      rw [List.filter_cons_of_neg (by simp [known])] at distinct fresh h
      simpa [readMembers, unknownField known, anyNames] using ih distinct fresh h
    | true =>
      rw [List.filter_cons_of_pos known] at distinct fresh h
      obtain ⟨new, distinct⟩ := List.nodup_cons.mp distinct
      cases h with
      | field found read later =>
        have unseen := fresh m List.mem_cons_self
        have fresh : ∀ n ∈ members.filter shape.knows, n.1 ∉ m.1 :: seen := by
          intro n member
          simp only [List.mem_cons, not_or]
          exact ⟨fun same => new (List.mem_map.mpr ⟨n, member, same⟩),
            fresh n (List.mem_cons_of_mem _ member)⟩
        simpa [readMembers, found, unseen, read] using ih distinct fresh later

end Order

theorem seenKept
    (h : shape.readMembers format (members.map fun (k, d) => (some k, d)) seen a = .ok (all, b)) :
    (∀ name ∈ seen, name ∈ all) ∧ ∀ m ∈ members, shape.knows m = true → m.1 ∈ all := by
  induction members generalizing seen a with
  | nil =>
    cases h
    exact ⟨fun _ member => member, by simp⟩
  | cons m members ih =>
    rw [List.map_cons, readMembers] at h
    cases known : shape.knows m with
    | false =>
      rw [unknownField known] at h
      dsimp only at h
      split at h
      · cases h
      · obtain ⟨kept, named⟩ := ih h
        refine ⟨kept, List.forall_mem_cons.mpr ⟨fun no => ?_, named⟩⟩
        rw [known] at no
        cases no
    | true =>
      obtain ⟨field, found⟩ := knownField known
      rw [found] at h
      dsimp only at h
      split at h
      · cases h
      · split at h
        · obtain ⟨kept, named⟩ := ih h
          exact ⟨fun name member => kept name (List.mem_cons_of_mem _ member),
            List.forall_mem_cons.mpr ⟨fun _ => kept _ List.mem_cons_self, named⟩⟩
        · cases h

theorem Takes.decode (anyNames : shape.closed = false)
    (independent : shape.fields.Pairwise (Independent format))
    (distinct : (before.map (·.1)).Nodup) (order : (members.filter shape.knows).Perm before)
    (required : ∀ field ∈ shape.fields, field.required = true → field.name ∈ before.map (·.1))
    (h : Takes shape format before shape.blank a) : shape.decode format (.named members) = .ok a := by
  have distinct' := (order.map (·.1)).nodup_iff.mpr distinct
  have fresh : ∀ m ∈ members.filter shape.knows, m.1 ∉ ([] : List String) := by simp
  obtain ⟨all, done⟩ := (h.shuffle independent order.symm distinct).read anyNames distinct' fresh
  have complete : shape.missing? all = none := by
    rw [missing?, Option.map_eq_none_iff, List.find?_eq_none]
    intro field member
    by_cases needed : field.required = true
    · obtain ⟨m, given, same⟩ := List.mem_map.mp (required field member needed)
      obtain ⟨inside, known⟩ := List.mem_filter.mp (order.mem_iff.mpr given)
      have there := (seenKept done).2 m inside known
      rw [same] at there
      simp [there]
    · simp [needed]
  have listed : (Document.named members).members? = some (members.map fun (k, d) => (some k, d)) := rfl
  simp only [Shape.decode, decodeAs, listed, done, complete]

section Repeats

variable {name : String} {d : Document}

theorem membersAppend (ms ns : List (Option String × Document)) :
    shape.readMembers format (ms ++ ns) seen a =
      (shape.readMembers format ms seen a).bind fun r => shape.readMembers format ns r.1 r.2 := by
  induction ms generalizing seen a with
  | nil => rfl
  | cons m ms ih =>
    obtain ⟨name | name, d⟩ := m
    · rfl
    · rw [List.cons_append, readMembers, readMembers]
      repeat' split
      all_goals first | rfl | exact ih

theorem repeatRefused (known : name ∈ shape.names) (given : name ∈ before.map (·.1)) :
    (∃ failure, shape.decode format (.named (before ++ (name, d) :: after)) = .error failure) ∧
      ((∃ a, shape.decode format (.named before) = .ok a) →
        shape.decode format (.named (before ++ (name, d) :: after)) = .error (.duplicateField name)) := by
  have listed (ms : List (String × Document)) :
      (Document.named ms).members? = some (ms.map fun (k, d) => (some k, d)) := rfl
  have knows (d : Document) : shape.knows (name, d) = true := by simpa [Shape.knows] using known
  simp only [Shape.decode, decodeAs, listed, List.map_append, membersAppend]
  cases read : shape.readMembers format (before.map fun (k, d) => (some k, d)) [] shape.blank with
  | error failure => exact ⟨⟨failure, rfl⟩, fun ⟨a, no⟩ => nomatch no⟩
  | ok r =>
    obtain ⟨seen, a⟩ := r
    obtain ⟨m, member, rfl⟩ := List.mem_map.mp given
    have again := (seenKept read).2 m member (knows m.2)
    obtain ⟨field, found⟩ := knownField (knows d)
    have refused : shape.readMembers format (((m.1, d) :: after).map fun (k, d) => (some k, d)) seen a =
        .error (.duplicateField m.1) := by
      simp only [List.map_cons, readMembers, found, again, if_true]
    simp only [Except.bind, refused]
    exact ⟨⟨_, rfl⟩, fun _ => trivial⟩

end Repeats

end ConnectionPool.Shape
