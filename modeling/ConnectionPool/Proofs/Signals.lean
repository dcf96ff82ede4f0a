import ConnectionPool.Proofs.Ownership

/-! Signals to those who wait. A saturated pool gets room when a checkout comes back or the pool is
emptied, and then there is a signal. It also gets room when an acquire takes over a checkout that turns
out to be bad and then fails; those who wait do not hear of that. -/
namespace ConnectionPool

namespace Pool

variable {σ : Type} [Conditions σ] {p q : Pool} {e : Entry} {w later : World σ}

structure Claimed (p q : Pool) : Prop where
  signals : q.signals = p.signals
  config : q.config = p.config
  claims : p.tally.overdueClaims ≤ q.tally.overdueClaims
  full : p.Saturated → q.idle = [] ∧ p.config.maxActive.toNat ≤ q.active.length + 1 ∧
    (q.Saturated ∨ p.tally.overdueClaims < q.tally.overdueClaims)

structure Claiming (p q : Pool) : Prop where
  rest : p.Claimed q
  full : p.Saturated → p.tally.overdueClaims < q.tally.overdueClaims

theorem claimed (p : Pool) (username password : Option String) :
    Search (σ := σ) username password (fun q _ => p.Claimed q) (fun _ q _ => p.Claiming q) where
  reuse h idle := by
    have never (full : p.Saturated) : False := by
      rw [(h.full full).1] at idle
      cases idle
    exact ⟨⟨h.signals, h.config, h.claims, fun full => (never full).elim⟩,
      fun full => (never full).elim⟩
  openOk h idle room opened := by
    obtain ⟨_, _, rfl, _⟩ := openEntryOk opened
    refine ⟨⟨h.signals, h.config, h.claims, h.full⟩, fun full => ?_⟩
    obtain ⟨_, _, saturated | claims⟩ := h.full full
    · exact absurd room (Nat.not_lt.mpr saturated.2)
    · exact claims
  openError h idle room failed := by
    obtain ⟨rfl, _⟩ := openEntryError failed
    exact h
  takeOver h saturated active _ taken := by
    have claims := Nat.lt_succ_of_le h.claims
    have few := saturated.2
    rw [h.config, active] at few
    cases taken
    exact ⟨⟨h.signals, h.config, Nat.le_of_lt claims, fun _ => ⟨saturated.1, few, .inr claims⟩⟩,
      fun _ => claims⟩
  examine h := h
  discard h := ⟨h.rest.signals, h.rest.config, h.rest.claims, fun full =>
    ⟨(h.rest.full full).1, (h.rest.full full).2.1, .inr (h.full full)⟩⟩
  countWait h := by
    unfold countWait
    split
    · exact h
    · exact ⟨h.signals, h.config, h.claims, h.full⟩

end Pool

namespace Traffic

variable {σ : Type} [Conditions σ]

def Moment.Lapses (m : Moment σ) : Prop :=
  m.state.pool.Saturated ∧ ¬m.next.pool.Saturated ∧ m.next.pool.signals = m.state.pool.signals

instance (m : Moment σ) : Decidable m.Lapses := by unfold Moment.Lapses; infer_instance

namespace State

variable {s t : State σ} {e : Event σ} {x : Pursuit}

omit [Conditions σ] in
theorem pursuitClaimed (found : s.pursuit? e = some x) : s.pool.Claimed x.pool := by
  obtain ⟨time, pool⟩ := pursuitPool found
  rw [pool]
  exact ⟨rfl, rfl, Nat.le_refl _, fun full => ⟨full.1, Nat.le_succ_of_le full.2, .inl full⟩⟩

theorem pursuitSilent (found : s.pursuit? e = some x) :
    (s.step e).pool.signals = s.pool.signals ∧
      (s.pool.Saturated → ¬(s.step e).pool.Saturated →
        s.pool.tally.overdueClaims < (s.step e).pool.tally.overdueClaims ∧
        ∃ error, (x.pool.resume x.attempt s.world).1 = .failed error) := by
  rw [stepPursuit found, (settlePool _ _ _).1]
  cases result : x.pool.resume x.attempt s.world with
  | mk o r =>
    obtain ⟨q, later⟩ := r
    have ends := (s.pool.claimed x.attempt.username x.attempt.password).resume
      (pursuitClaimed found) result
    cases ends with
    | @granted e p w held =>
      refine ⟨held.rest.signals, fun full free => absurd ⟨(held.rest.full full).1, ?_⟩ free⟩
      have few := (held.rest.full full).2.1
      simpa [Pool.checkOut, held.rest.config] using few
    | failed rest =>
      refine ⟨rest.signals, fun full free => ⟨?_, _, rfl⟩⟩
      exact (rest.full full).2.2.resolve_left free
    | waiting b limit rest saturated => exact ⟨rest.signals, fun _ free => absurd saturated free⟩

theorem quietSignals {history : List (Moment σ)} (kept : s.Kept history) (course : s.Course e t)
    (quiet : s.pursuit? e = none) : t.pool.signals = s.pool.signals + 1 ∨
      t.pool.signals = s.pool.signals ∧ (s.pool.Saturated → t.pool.Saturated) := by
  cases course with
  | pursued x found => rw [found] at quiet; cases quiet
  | called => exact .inr ⟨rfl, id⟩
  | @returned number h found =>
    dsimp only [Handle.giveBack]
    split
    · exact .inr ⟨rfl, id⟩
    · cases good : s.pool.valid h.entry with
      | true =>
        obtain ⟨_, _, _, pool, _⟩ := Pool.releaseValid (w := s.world) good
        rw [pool]
        exact .inl rfl
      | false =>
        rw [Pool.releaseInvalid good, kept.ledger.absent good]
        exact .inr ⟨rfl, id⟩
  | emptied change _ _ keeps =>
    obtain ⟨_, _, _, _, signals⟩ := keeps s.pool
    obtain ⟨_, pool⟩ := s.pool.reconfigurePool change s.world
    refine .inl ?_
    change (s.pool.reconfigure change s.world).1.signals = _
    rw [pool, ← signals]
  | tolerated => exact .inr ⟨rfl, id⟩
  | outside => exact .inr ⟨rfl, id⟩

theorem signalsGrow {history : List (Moment σ)} (kept : s.Kept history) (possible : s.Possible e) :
    s.pool.signals ≤ (s.step e).pool.signals := by
  cases found : s.pursuit? e with
  | some x => exact Nat.le_of_eq (pursuitSilent found).1.symm
  | none =>
    rcases quietSignals kept (s.course e possible) found with more | ⟨same, _⟩
    · exact more ▸ Nat.le_succ _
    · exact Nat.le_of_eq same.symm

theorem unheard {source : Source} {config : Config} {world : World σ} {history : List (Moment σ)}
    (run : Run (.start source config world) history s) {y : Waiter} (member : y ∈ s.waiters) :
    y.heard ≤ s.pool.signals ∧ (y.heard = s.pool.signals → s.pool.Saturated ∨
      ∃ m ∈ history, m.Lapses ∧ y ∈ m.state.waiters ∧ y.heard = m.state.pool.signals) := by
  induction run with
  | none => cases member
  | @more history s before e possible ih =>
    have grow := signalsGrow (kept before) possible
    rcases waitersStep (s.course e possible) member with old | ⟨heard, saturated, _⟩
    · obtain ⟨bound, waited⟩ := ih old
      refine ⟨Nat.le_trans bound grow, fun silent => ?_⟩
      have since : y.heard = s.pool.signals := Nat.le_antisymm bound (silent ▸ grow)
      rcases waited since with full | ⟨m, earlier, lapse⟩
      · by_cases still : (s.step e).pool.Saturated
        · exact .inl still
        · exact .inr ⟨⟨s, e⟩, List.mem_append_right _ List.mem_cons_self,
            ⟨full, still, silent.symm.trans since⟩, old, since⟩
      · exact .inr ⟨m, List.mem_append_left _ earlier, lapse⟩
    · exact ⟨Nat.le_of_eq heard, fun _ => .inl saturated⟩

end State

/- A saturated pool that gets room signals those who wait, except in an acquire: that never does, and it
leaves room only when it took over a checkout and failed. But for this, whoever waits unsignalled does
so before a saturated pool. -/
theorem roomSignalled {source : Source} {config : Config} {world : World σ}
    {history : List (Moment σ)} {s : State σ} (run : Run (.start source config world) history s) :
    (∀ e, s.Possible e → s.pool.Saturated → ¬(s.step e).pool.Saturated →
      (s.pool.signals < (s.step e).pool.signals ↔ s.pursuit? e = none) ∧
      ∀ x, s.pursuit? e = some x →
        s.pool.tally.overdueClaims < (s.step e).pool.tally.overdueClaims ∧
        ∃ error, (x.pool.resume x.attempt s.world).1 = .failed error) ∧
    ∀ y ∈ s.waiters, y.heard = s.pool.signals → s.pool.Saturated ∨
      ∃ m ∈ history, m.Lapses ∧ y ∈ m.state.waiters ∧ y.heard = m.state.pool.signals := by
  refine ⟨fun e possible full free => ?_, fun y member => (State.unheard run member).2⟩
  cases found : s.pursuit? e with
  | some x =>
    obtain ⟨silent, fails⟩ := State.pursuitSilent found
    refine ⟨⟨fun more => absurd more (Nat.not_lt.mpr (Nat.le_of_eq silent)), nofun⟩, ?_⟩
    rintro _ ⟨⟩
    exact fails full free
  | none =>
    refine ⟨⟨fun _ => rfl, fun _ => ?_⟩, fun _ some => nomatch some⟩
    rcases State.quietSignals (State.kept run) (s.course e possible) found with more | ⟨_, still⟩
    · exact more ▸ Nat.lt_succ_self _
    · exact absurd (still full) free

def waiting : List (Event Scenario.Plan) := [.acquire none none none, .acquire none none none]

theorem roomSignalledEmptied : (State.small.after waiting).pool.signals <
    ((State.small.after waiting).step .forceCloseAll).pool.signals :=
  ((roomSignalled (State.small.run (by simp [waiting, State.Possible]))).1 .forceCloseAll trivial
    (by decide) (by decide)).1.mpr rfl

def breakdown : Event Scenario.Plan :=
  .meanwhile 200000000 ⟨[(⟨some 0, .autoCommit⟩, ⟨.connection "lost", none⟩),
    (⟨none, .connect⟩, ⟨.connection "refused", none⟩)], [], 0⟩

/- One more acquire takes the checkout over, finds it bad and cannot open another connection. The pool is
empty then, and who waits is not signalled and has no limit. -/
theorem roomUnsignalled : ∃ history s, Run State.small history s ∧
    Moment.Lapses ⟨s, .acquire none none none⟩ ∧
    (s.step (.acquire none none none)).waiters = [⟨1, ⟨none, none, none, 0, true, 0⟩, 0, none, 0⟩] ∧
    (s.step (.acquire none none none)).pool.idle = [] ∧
    (s.step (.acquire none none none)).pool.active = [] ∧
    (s.step (.acquire none none none)).pool.signals = 0 := by
  have before : Run State.small (State.small.history waiting) (State.small.after waiting) :=
    State.small.run (by simp [waiting, State.Possible])
  exact ⟨_, _, before.more breakdown (State.meanwhilePossible _ _ _), by decide +kernel,
    by decide +kernel, by decide +kernel, by decide +kernel, by decide +kernel⟩

end Traffic
end ConnectionPool
