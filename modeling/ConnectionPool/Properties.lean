/-! Named text properties that a driver receives when it opens a connection. They are kept in the
order of their names, each name once, so that two property maps with the same entries are equal. -/
namespace ConnectionPool

structure Properties where
  entries : List (String × String)
  sorted : entries.Pairwise (fun a b => a.1 < b.1)
  deriving DecidableEq, Repr

namespace Properties

def empty : Properties := ⟨[], .nil⟩

instance : Inhabited Properties := ⟨empty⟩

def put (k v : String) : List (String × String) → List (String × String)
  | [] => [(k, v)]
  | (a, b) :: rest =>
    if k < a then (k, v) :: (a, b) :: rest
    else if a < k then (a, b) :: put k v rest
    else (k, v) :: rest

theorem memPut {k v : String} {entries : List (String × String)} {x : String × String}
    (h : x ∈ put k v entries) : x = (k, v) ∨ x ∈ entries := by
  induction entries with
  | nil => simpa [put] using h
  | cons head rest ih =>
    obtain ⟨a, b⟩ := head
    simp only [put] at h
    split at h
    · rcases List.mem_cons.1 h with h | h
      · exact .inl h
      · exact .inr h
    · split at h
      · rcases List.mem_cons.1 h with h | h
        · exact .inr (h ▸ List.mem_cons_self)
        · exact (ih h).imp id (List.mem_cons_of_mem _)
      · rcases List.mem_cons.1 h with h | h
        · exact .inl h
        · exact .inr (List.mem_cons_of_mem _ h)

theorem putSorted (k v : String) {entries : List (String × String)}
    (h : entries.Pairwise (fun a b => a.1 < b.1)) :
    (put k v entries).Pairwise (fun a b => a.1 < b.1) := by
  induction entries with
  | nil => simp [put]
  | cons head rest ih =>
    obtain ⟨a, b⟩ := head
    have ⟨below, tail⟩ := List.pairwise_cons.1 h
    simp only [put]
    split
    · next less =>
      refine List.pairwise_cons.2 ⟨fun x hx => ?_, h⟩
      rcases List.mem_cons.1 hx with rfl | hx
      · exact less
      · exact String.lt_trans less (below x hx)
    · split
      · next _ less =>
        refine List.pairwise_cons.2 ⟨fun x hx => ?_, ih tail⟩
        rcases memPut hx with rfl | hx
        · exact less
        · exact below x hx
      · next le ge =>
        have same : k = a := String.le_antisymm (String.not_lt.1 ge) (String.not_lt.1 le)
        exact List.pairwise_cons.2 ⟨fun x hx => same ▸ below x hx, tail⟩

def insert (p : Properties) (k v : String) : Properties :=
  ⟨put k v p.entries, putSorted k v p.sorted⟩

def insertSome (p : Properties) (k : String) : Option String → Properties
  | none => p
  | some v => p.insert k v

def ofList (entries : List (String × String)) : Properties :=
  entries.foldl (fun p e => p.insert e.1 e.2) empty

def get? (p : Properties) (k : String) : Option String := p.entries.lookup k

end Properties
end ConnectionPool
