import Mathlib.Data.List.Nodup
import ConnectionPool.Pool.Release
import ConnectionPool.Proofs.Growth

/-! What becomes of a pool when a connection comes back and when all of its connections are closed. The
ways in which an entry can come back are listed once, with all that the pool may do; what the laws need
of them is read off that list. -/
namespace ConnectionPool

namespace Pool

variable {σ : Type} {p : Pool} {e : Entry} {w : World σ}

theorem validIff : p.valid e = true ↔ e.serial ∉ p.revoked := by
  simp [valid]

theorem eraseSplit {l : List Entry} (member : e ∈ l) (unique : (l.map Entry.serial).Nodup) :
    ∃ before after, l = before ++ e :: after ∧ l.eraseP (·.serial == e.serial) = before ++ after := by
  obtain ⟨f, before, after, _, same, split, erased⟩ :=
    List.exists_of_eraseP (p := (·.serial == e.serial)) member (beq_self_eq_true _)
  have here : f ∈ l := by rw [split]; exact List.mem_append_right _ List.mem_cons_self
  have same : f = e := List.inj_on_of_nodup_map unique here member (beq_iff_eq.mp same)
  exact ⟨before, after, same ▸ split, erased⟩

theorem memErase {l : List Entry} {n : Nat} (unique : (l.map Entry.serial).Nodup) :
    e ∈ l.eraseP (·.serial == n) ↔ e ∈ l ∧ e.serial ≠ n := by
  induction l with
  | nil => simp
  | cons f l ih =>
    obtain ⟨new, unique⟩ := List.nodup_cons.mp unique
    by_cases same : f.serial = n
    · rw [List.eraseP_cons_of_pos (by simpa using same)]
      constructor
      · intro member
        exact ⟨List.mem_cons_of_mem _ member, fun other =>
          new (same ▸ other ▸ List.mem_map_of_mem member)⟩
      · rintro ⟨member, other⟩
        rcases List.mem_cons.mp member with rfl | member
        · exact absurd same other
        · exact member
    · rw [List.eraseP_cons_of_neg (by simpa using same), List.mem_cons, ih unique, List.mem_cons]
      constructor
      · rintro (rfl | ⟨member, other⟩)
        · exact ⟨.inl rfl, same⟩
        · exact ⟨.inr member, other⟩
      · rintro ⟨rfl | member, other⟩
        · exact .inl rfl
        · exact .inr ⟨member, other⟩

variable [Conditions σ]

theorem keepPool (p : Pool) (e : Entry) (w : World σ) : ∃ idle tally serials,
    (p.keep e w).1 = { p with
      idle := idle, tally := tally, serials := serials, revoked := e.serial :: p.revoked } ∧
    p.serials ≤ serials ∧ ∀ f ∈ idle, f ∈ p.idle ∨ f.connection = e.connection := by
  unfold keep
  split
  · refine ⟨_, _, _, rfl, Nat.le_succ _, fun f member => ?_⟩
    rcases List.mem_append.mp member with old | new
    · exact .inl old
    · exact .inr (by rw [List.mem_singleton.mp new]; rfl)
  · exact ⟨_, _, _, rfl, Nat.le_refl _, fun _ => .inl⟩

def without (p : Pool) (e : Entry) (now : Nat) : Pool :=
  { p with
    active := p.active.eraseP (·.serial == e.serial)
    tally.checkoutTime := p.tally.checkoutTime + e.checkoutTime now }

inductive Back (p : Pool) (e : Entry) (w : World σ) : Pool × World σ → Prop where
  | invalid (bad : p.valid e = false) :
      Back p e w ({ p with active := p.active.eraseP (·.serial == e.serial) }.countBad, w)
  | closed (good : p.valid e = true) (closed : w.isClosed e.connection = true) :
      Back p e w (((p.without e w.clock).revoke e).countBad.signal, w)
  | kept (good : p.valid e = true) (usable : w.isClosed e.connection = false)
      (reusable : (p.without e w.clock).reusable e = true) {q later}
      (result : (p.without e w.clock).keep e w = (q, later)) : Back p e w (q.signal, later)
  | surplus (good : p.valid e = true) (usable : w.isClosed e.connection = false)
      (useless : (p.without e w.clock).reusable e = false) :
      Back p e w (((p.without e w.clock).revoke e).signal, e.close w)

theorem releaseBack (p : Pool) (e : Entry) (w : World σ) : Back p e w (p.release e w) := by
  unfold release
  dsimp only
  split
  · rename_i bad
    exact .invalid (by simpa [valid] using bad)
  · rename_i good
    have good : p.valid e = true := by simpa [valid] using good
    split
    · rename_i closed
      exact .closed good closed
    · rename_i usable
      have usable : w.isClosed e.connection = false := by simpa using usable
      split
      · rename_i reusable
        exact .kept good usable reusable rfl
      · rename_i useless
        exact .surplus good usable (by simpa [without] using useless)

theorem keepIdle (p : Pool) (e : Entry) (w : World σ) : (p.keep e w).1.idle = p.idle ∨
    ∃ serial, (p.keep e w).1.idle = p.idle ++ [e.rewrap serial (p.keep e w).2.clock] := by
  unfold keep
  split
  · exact .inr ⟨_, rfl⟩
  · exact .inl rfl

theorem releaseIdle (p : Pool) (e : Entry) (w : World σ) : (p.release e w).1.idle = p.idle ∨
    (∃ serial, (p.release e w).1.idle = p.idle ++ [e.rewrap serial (p.release e w).2.clock]) ∧
      p.valid e = true ∧ w.isClosed e.connection = false ∧ p.reusable e = true := by
  have back := releaseBack p e w
  generalize p.release e w = r at back
  cases back with
  | invalid => exact .inl rfl
  | closed => exact .inl rfl
  | kept good usable reusable result =>
    have kept := keepIdle (p.without e w.clock) e w
    rw [result] at kept
    exact kept.imp_right fun again => ⟨again, good, usable, reusable⟩
  | surplus => exact .inl rfl

theorem releasedIdle {f : Entry} (member : f ∈ (p.release e w).1.idle) : f ∈ p.idle ∨
    (∃ serial, f = e.rewrap serial (p.release e w).2.clock) ∧
      p.valid e = true ∧ w.isClosed e.connection = false ∧ p.reusable e = true := by
  rcases p.releaseIdle e w with same | ⟨⟨serial, idle⟩, kept⟩
  · exact .inl (same ▸ member)
  · rw [idle] at member
    rcases List.mem_append.mp member with old | new
    · exact .inl old
    · exact .inr ⟨⟨serial, List.mem_singleton.mp new⟩, kept⟩

theorem releaseInvalid (bad : p.valid e = false) : p.release e w =
    ({ p with active := p.active.eraseP (·.serial == e.serial) }.countBad, w) := by
  have back := releaseBack p e w
  generalize p.release e w = r at back
  cases back with
  | invalid => rfl
  | closed good => rw [bad] at good; cases good
  | kept good => rw [bad] at good; cases good
  | surplus good => rw [bad] at good; cases good

theorem releaseValid (good : p.valid e = true) : ∃ idle tally serials,
    (p.release e w).1 = { p with
      active := p.active.eraseP (·.serial == e.serial), idle := idle, tally := tally,
      serials := serials, revoked := e.serial :: p.revoked, signals := p.signals + 1 } ∧
    p.serials ≤ serials ∧ ∀ f ∈ idle, f ∈ p.idle ∨ f.connection = e.connection := by
  have back := releaseBack p e w
  generalize p.release e w = r at back
  cases back with
  | invalid bad => rw [bad] at good; cases good
  | closed => exact ⟨_, _, _, rfl, Nat.le_refl _, fun _ => .inl⟩
  | kept _ _ _ result =>
    obtain ⟨idle, tally, serials, pool, more, old⟩ := keepPool (p.without e w.clock) e w
    rw [result] at pool
    cases pool
    exact ⟨idle, tally, serials, rfl, more, old⟩
  | surplus => exact ⟨_, _, _, rfl, Nat.le_refl _, fun _ => .inl⟩

theorem releaseAccount (p : Pool) (e : Entry) (w : World σ) :
    (∀ f, (p.release e w).1.valid f = true → p.valid f = true ∧ f.serial ≠ e.serial) ∧
      (p.release e w).1.active = p.active.eraseP (·.serial == e.serial) ∧
      p.serials ≤ (p.release e w).1.serials := by
  cases good : p.valid e with
  | false =>
    rw [releaseInvalid good]
    refine ⟨fun f valid => ⟨valid, fun same => ?_⟩, rfl, Nat.le_refl _⟩
    have valid : p.valid f = true := valid
    rw [validIff, same, ← validIff, good] at valid
    cases valid
  | true =>
    obtain ⟨idle, tally, serials, pool, more, _⟩ := releaseValid (w := w) good
    rw [pool]
    refine ⟨fun f valid => ?_, rfl, more⟩
    rw [validIff, List.mem_cons, not_or] at valid
    exact ⟨validIff.mpr valid.2, valid.1⟩

theorem releaseTarget (p : Pool) (e : Entry) (w : World σ) : (p.release e w).1.config = p.config ∧
    (p.release e w).1.source = p.source ∧ (p.release e w).1.expectedCode = p.expectedCode := by
  cases good : p.valid e with
  | false => rw [releaseInvalid good]; exact ⟨rfl, rfl, rfl⟩
  | true =>
    obtain ⟨_, _, _, pool, _⟩ := releaseValid (w := w) good
    rw [pool]
    exact ⟨rfl, rfl, rfl⟩

end Pool

namespace World.ClosingLaw

variable {σ : Type} [Conditions σ] {R : World σ → World σ → Prop} (law : World.ClosingLaw R)
include law

theorem keep (p : Pool) (e : Entry) (w : World σ) : R w (p.keep e w).2 := by
  have rolled := law.rollback e w
  unfold Pool.keep
  split
  · rename_i kept; rw [kept] at rolled; exact rolled
  · rename_i failed; rw [failed] at rolled; exact law.trans rolled (law.closeEntry e _)

theorem release (p : Pool) (e : Entry) (w : World σ) : R w (p.release e w).2 := by
  have back := Pool.releaseBack p e w
  generalize p.release e w = r at back
  cases back with
  | invalid => exact law.refl w
  | closed => exact law.refl w
  | kept _ _ _ result =>
    have kept := law.keep (p.without e w.clock) e w
    rw [result] at kept
    exact kept
  | surplus => exact law.closeEntry e w

theorem discardAll (l : List Entry) (p : Pool) (w : World σ) : R w (Pool.discardAll l p w).2 := by
  induction l generalizing p w with
  | nil => exact law.refl w
  | cons e l ih => exact law.trans (law.closeEntry e w) (ih (p.revoke e) (e.close w))

theorem reconfigure (change : Pool → Pool) (p : Pool) (w : World σ) : R w (p.reconfigure change w).2 :=
  law.discardAll _ _ w

end World.ClosingLaw

namespace Pool

variable {σ : Type} [Conditions σ] {p : Pool} {e : Entry} {w : World σ}

theorem releaseCalled (p : Pool) (e : Entry) (w : World σ) : w.Called (p.release e w).2 :=
  World.calledLaw.release p e w

theorem reconfigureCalled (change : Pool → Pool) (p : Pool) (w : World σ) :
    w.Called (p.reconfigure change w).2 :=
  World.calledLaw.reconfigure change p w

theorem discardAllPool (l : List Entry) (p : Pool) (w : World σ) :
    (discardAll l p w).1 = { p with revoked := (l.map Entry.serial).reverse ++ p.revoked } := by
  induction l generalizing p w with
  | nil => rfl
  | cons e l ih =>
    refine (ih (p.revoke e) (e.close w)).trans ?_
    simp [revoke]

theorem closeAllPool (p : Pool) (w : World σ) :
    (p.closeAll w).1 = { p.refreshCode with
      active := []
      idle := []
      revoked := ((p.active.reverse ++ p.idle.reverse).map Entry.serial).reverse ++ p.revoked } :=
  discardAllPool _ _ w

theorem reconfigurePool (change : Pool → Pool) (p : Pool) (w : World σ) : ∃ revoked,
    (p.reconfigure change w).1 = { (change p).refreshCode with
      active := [], idle := [], revoked := revoked, signals := (change p).signals + 1 } :=
  ⟨_, congrArg signal ((change p).closeAllPool w)⟩

theorem reconfigureEmpties (change : Pool → Pool) (p : Pool) (w : World σ) :
    (p.reconfigure change w).1.idle = [] ∧ (p.reconfigure change w).1.active = [] ∧
      (p.reconfigure change w).1.expectedCode = codeOf (p.reconfigure change w).1.source := by
  obtain ⟨_, pool⟩ := p.reconfigurePool change w
  rw [pool]
  exact ⟨rfl, rfl, rfl⟩

end Pool
end ConnectionPool
