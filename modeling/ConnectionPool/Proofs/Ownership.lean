import ConnectionPool.Proofs.Custody

/-! Ownership of the connections that a pool opens. Whatever the events of a run, no connection is lost
and none is in the charge of two. -/
namespace ConnectionPool

namespace Pool

def holders (p : Pool) (c : Nat) : List Entry :=
  (p.idle ++ p.active).filter (·.connection == c)

theorem filterOne {l : List Entry} {e : Entry} (unique : (l.map Entry.connection).Nodup)
    (member : e ∈ l) : l.filter (·.connection == e.connection) = [e] := by
  induction l with
  | nil => cases member
  | cons f l ih =>
    obtain ⟨new, unique⟩ := List.nodup_cons.mp unique
    rcases List.mem_cons.mp member with rfl | member
    · rw [List.filter_cons_of_pos (by simp), List.filter_eq_nil_iff.mpr fun f others same => ?_]
      exact new (List.mem_map.mpr ⟨f, others, by simpa using same⟩)
    · rw [List.filter_cons_of_neg, ih unique member]
      intro same
      exact new (List.mem_map.mpr ⟨e, member, (beq_iff_eq.mp same).symm⟩)

theorem holdersNone {p : Pool} {c : Nat} (absent : c ∉ (p.idle ++ p.active).map Entry.connection) :
    p.holders c = [] := by
  refine List.filter_eq_nil_iff.mpr fun e member same => absent ?_
  exact List.mem_map.mpr ⟨e, member, beq_iff_eq.mp same⟩

end Pool

namespace Traffic

variable {σ : Type} [Conditions σ]

def Opened (history : List (Moment σ)) (c : Nat) : Prop := ∃ m ∈ history, m.Opens c

def Made (history : List (Moment σ)) (call : Call) : Prop := ∃ m ∈ history, m.Makes call

structure State.Owned (history : List (Moment σ)) (s : State σ) : Prop where
  connections : ∀ c, Opened history c →
    (∃ e, s.pool.holders c = [e] ∧ s.pool.valid e = true) ∨
    s.pool.holders c = [] ∧ (Made history (.close c) ∨ s.world.isClosed c = true)
  handles : ∀ h ∈ s.handles, h.released = false →
    (h.valid s.pool = true ↔ h.entry ∈ s.pool.active)
  once : ∀ h ∈ s.handles, h.valid s.pool = true → s.pool.active.count h.entry = 1
  outstanding : s.pool.active.length = s.handles.countP (·.valid s.pool)
  apart : ∀ {i j : Nat} {h k : Handle}, s.handles[i]? = some h → s.handles[j]? = some k →
    h.valid s.pool = true → k.valid s.pool = true → h.entry.connection = k.entry.connection → i = j

namespace State

variable {s t : State σ} {e : Event σ} {first : World σ} {mine lost : Nat → Prop}

omit [Conditions σ] in
theorem settleCustody {number : Nat} {a : Attempt} {o : Outcome} {p : Pool} {w : World σ}
    (ends : Pool.Ends (Custody first mine lost s.handles [])
      (fun e => Custody first mine lost s.handles [e]) a o p w) :
    Custody first mine lost (s.settle number (o, p, w)).handles [] (s.settle number (o, p, w)).pool
      (s.settle number (o, p, w)).world := by
  cases ends with
  | granted held => exact held.checkOut a _
  | failed rest => exact rest
  | waiting b limit rest => exact rest

theorem Course.custody (course : s.Course e t) (inside : e.Inside)
    (h : Custody s.world mine lost s.handles [] s.pool s.world) :
    Custody s.world mine lost t.handles [] t.pool t.world := by
  cases course with
  | pursued x found =>
    obtain ⟨time, pool⟩ := pursuitPool found
    have handles : (s.enter e).handles = s.handles := by cases e <;> rfl
    have rest : Custody s.world mine lost (s.enter e).handles [] x.pool s.world := by
      rw [handles, pool]
      exact h.pool rfl rfl rfl rfl
    have search := Custody.search s.world mine lost (s.enter e).handles x.attempt.username
      x.attempt.password
    cases result : x.pool.resume x.attempt s.world with
    | mk o r => exact settleCustody (search.resume rest result)
  | called w _ _ calls => exact h.called calls
  | returned found => exact h.giveBack found
  | emptied change _ _ keeps => exact h.reconfigure keeps
  | tolerated n => exact h.pool rfl rfl rfl rfl
  | outside growth => exact inside.elim

def Kept (history : List (Moment σ)) (s : State σ) : Prop :=
  Custody s.world (Opened history) (fun c => Made history (.close c)) s.handles [] s.pool s.world

theorem keptStart (source : Source) (config : Config) (w : World σ) :
    (start source config w).Kept [] where
  ledger := {
    grows := w.growsRefl
    serials := List.nodup_nil
    issued := fun _ member => nomatch member
    valid := fun _ member => nomatch member
    past := fun _ member => nomatch member
    connections := List.nodup_nil
    opened := fun _ member => nomatch member
    owned := fun _ ⟨_, member, _⟩ => nomatch member
    accounted := fun _ account => account.elim (fun ⟨_, member, _⟩ => nomatch member)
      fun range => absurd range.2 (Nat.not_lt.mpr range.1) }
  issued := {
    serials := List.nodup_nil
    known := fun _ member => nomatch member
    valid := fun _ member => nomatch member
    held := fun _ member => nomatch member }

theorem kept {source : Source} {config : Config} {world : World σ} {history : List (Moment σ)}
    (run : Run (.start source config world) history s) : s.Kept history := by
  induction run with
  | none => exact keptStart source config world
  | @more history s before e possible ih =>
    -- what was opened and closed so far stays on the account; the event may add to both
    have earlier {P : Moment σ → Prop} : (∃ m ∈ history, P m) → ∃ m ∈ history ++ [⟨s, e⟩], P m :=
      fun ⟨m, member, found⟩ => ⟨m, List.mem_append_left _ member, found⟩
    have latest {P : Moment σ → Prop} (found : ∃ m ∈ history ++ [⟨s, e⟩], P m) :
        (∃ m ∈ history, P m) ∨ P ⟨s, e⟩ := by
      obtain ⟨m, member, found⟩ := found
      rcases List.mem_append.mp member with old | new
      · exact .inl ⟨m, old, found⟩
      · exact .inr (List.mem_singleton.mp new ▸ found)
    cases e with
    | outside change =>
      have next : Custody s.world (Opened (history ++ [⟨s, .outside change⟩]))
          (fun c => Made (history ++ [⟨s, .outside change⟩]) (.close c)) s.handles [] s.pool
          s.world := by
        refine ⟨ih.ledger.next (fun c own => ?_) (fun c gone => ?_), ih.issued⟩
        · exact (latest own).imp_right fun opens => opens.1.elim
        · exact earlier (gone.resolve_right (s.world.notTried _))
      exact ⟨next.ledger.outside possible, next.issued⟩
    | _ =>
      have next := (s.course _ possible).custody trivial ih
      refine ⟨next.ledger.next (fun c own => ?_) (fun c gone => ?_), next.issued⟩
      · exact (latest own).imp_right And.right
      · rcases gone with lost | tried
        · exact earlier lost
        · exact ⟨_, List.mem_append_right _ List.mem_cons_self, trivial, tried⟩

theorem stepGrows {history : List (Moment σ)} (kept : s.Kept history) (possible : s.Possible e) :
    s.world.Grows (s.step e).world := by
  cases e with
  | outside change => exact possible
  | _ => exact ((s.course _ possible).custody trivial kept).ledger.grows

theorem returning {history : List (Moment σ)} {number : Nat} {h : Handle} (kept : s.Kept history)
    (found : s.handles[number]? = some h) (good : s.pool.valid h.entry = true) :
    h.entry ∈ s.pool.active :=
  (kept.issued.valid h (List.mem_of_getElem? found) good).2

end State

theorem runOwned {source : Source} {config : Config} {world : World σ} {history : List (Moment σ)}
    {s : State σ} (run : Run (.start source config world) history s) : s.Owned history := by
  have custody := State.kept run
  have unique := custody.ledger.connections
  refine ⟨fun c own => ?_, fun h member _ => custody.handleValid member, fun h member good => ?_, ?_, ?_⟩
  · by_cases used : c ∈ (s.pool.idle ++ s.pool.active).map Entry.connection
    · obtain ⟨e, member, rfl⟩ := List.mem_map.mp used
      exact .inl ⟨e, Pool.filterOne unique member,
        Pool.validIff.mpr (custody.ledger.valid _ (List.mem_map_of_mem member))⟩
    · refine .inr ⟨Pool.holdersNone used, ?_⟩
      rcases custody.ledger.accounted c (.inl own) with member | lost | tried | closed
      · exact absurd member used
      · exact .inl lost
      · exact absurd tried (s.world.notTried _)
      · exact .inr closed
  · exact List.count_eq_one_of_mem custody.ledger.activeSerials.of_map
      ((custody.handleValid member).mp good)
  · rw [← custody.outstanding.length_eq, List.length_map, List.countP_eq_length_filter]
  · intro i j h k atI atJ goodH goodK same
    have memberH := List.mem_of_getElem? atI
    have memberK := List.mem_of_getElem? atJ
    have activeH := (custody.handleValid memberH).mp goodH
    have activeK := (custody.handleValid memberK).mp goodK
    have entry : h.entry = k.entry := List.inj_on_of_nodup_map unique
      (List.mem_append_right _ activeH) (List.mem_append_right _ activeK) same
    obtain ⟨bound, _⟩ := List.getElem?_eq_some_iff.mp atI
    exact (List.getElem?_inj (by simpa using bound) custody.issued.serials).mp
      (by simp [atI, atJ, entry])

def takenOver : List (Event Scenario.Plan) :=
  [.acquire none none none, .meanwhile 200000000 .undisturbed, .acquire none none none, .giveBack 0]

theorem runOwnedTakenOver : State.Owned (State.small.history takenOver) (State.small.after takenOver) ∧
    ((State.small.after takenOver).pool.holders 0).length = 1 ∧
    (State.small.after takenOver).handles.map (·.valid (State.small.after takenOver).pool) =
      [false, true] :=
  ⟨runOwned (State.small.run (List.forall_mem_cons.mpr ⟨fun _ => trivial, List.forall_mem_cons.mpr
    ⟨fun t => t.meanwhilePossible _ _, by simp [State.Possible]⟩⟩)), by decide, by decide⟩

end Traffic
end ConnectionPool
