import ConnectionPool.Proofs.Origins

/-! The limits of a pool. Nothing in an acquire checks the limit of checkouts when a connection is
reused, and nowhere are idle and checked-out entries counted together. They stay within the limits all
the same: an entry in hand takes the place of one that left the pool, or was opened when there was room
and nothing idle. -/
namespace ConnectionPool

namespace Pool

structure Bounded (c : Config) (code : UInt64) (hand : Nat) (p : Pool) : Prop where
  config : p.config = c
  expected : p.expectedCode = code
  idle : p.idle.length ≤ c.maxIdle.toNat
  total : p.idle.length + p.active.length + hand ≤ c.maxActive.toNat
  labels : ∀ e ∈ p.idle, e.typeCode = code

variable {σ : Type} [Conditions σ] {p : Pool} {c : Config} {code : UInt64} {e : Entry} {w : World σ}

theorem bounded (c : Config) (code : UInt64) (username password : Option String) :
    Search (σ := σ) username password (fun p _ => p.Bounded c code 0)
      (fun _ p _ => p.Bounded c code 1) where
  reuse {p _ e rest} h idle := by
    have few := h.idle
    have total := h.total
    rw [idle, List.length_cons] at few total
    refine ⟨h.config, h.expected, Nat.le_of_succ_le few, ?_, fun f member => ?_⟩
    · change rest.length + p.active.length + 1 ≤ _
      omega
    · exact h.labels f (idle ▸ List.mem_cons_of_mem _ member)
  openOk {p _ _ _ _} h idle room opened := by
    obtain ⟨_, _, rfl, _⟩ := openEntryOk opened
    refine ⟨h.config, h.expected, h.idle, ?_, h.labels⟩
    rw [h.config] at room
    change p.idle.length + p.active.length + 1 ≤ _
    rw [idle, List.length_nil]
    omega
  openError h _ _ failed := by
    obtain ⟨rfl, _⟩ := openEntryError failed
    exact h
  takeOver {p _ _ _ _ _ rest} h _ active _ taken := by
    have total := h.total
    rw [active, List.length_cons] at total
    cases taken
    refine ⟨h.config, h.expected, h.idle, ?_, h.labels⟩
    change p.idle.length + rest.length + 1 ≤ _
    omega
  examine h := h
  discard h := ⟨h.config, h.expected, h.idle, Nat.le_of_succ_le h.total, h.labels⟩
  countWait h := by
    unfold countWait
    split
    · exact h
    · exact ⟨h.config, h.expected, h.idle, h.total, h.labels⟩

omit [Conditions σ] in
theorem Bounded.checkOut (h : p.Bounded c code 1) (e : Entry) (a : Attempt) (now : Nat) :
    (p.checkOut e a now).2.Bounded c code 0 := by
  have total := h.total
  refine ⟨h.config, h.expected, h.idle, ?_, h.labels⟩
  simp only [Pool.checkOut, List.length_append, List.length_singleton]
  omega

/- A connection that is kept was checked out before, so that only the limit of idle ones needs a check. -/
theorem Bounded.release (h : p.Bounded c code 0) (member : p.valid e = true → e ∈ p.active) :
    (p.release e w).1.Bounded c code 0 := by
  obtain ⟨config, _, expected⟩ := p.releaseTarget e w
  obtain ⟨_, active, _⟩ := p.releaseAccount e w
  have total := h.total
  have fewer : (p.release e w).1.active.length ≤ p.active.length := by
    rw [active]
    exact List.length_eraseP_le
  rcases p.releaseIdle e w with same | ⟨⟨serial, idle⟩, good, _, reusable⟩
  · rw [← same] at total
    exact ⟨config.trans h.config, expected.trans h.expected, same ▸ h.idle, by omega, same ▸ h.labels⟩
  · simp only [Pool.reusable, Bool.and_eq_true, decide_eq_true_eq, beq_iff_eq] at reusable
    obtain ⟨⟨_, room⟩, wanted⟩ := reusable
    have one : (p.release e w).1.active.length + 1 = p.active.length := by
      have there : 0 < p.active.length := List.length_pos_of_mem (member good)
      rw [active, List.length_eraseP_of_mem (member good) (by simp)]
      omega
    refine ⟨config.trans h.config, expected.trans h.expected, ?_, ?_, fun f kept => ?_⟩
    · rw [idle, List.length_append, List.length_singleton]
      rw [h.config] at room
      omega
    · rw [idle, List.length_append, List.length_singleton]
      omega
    · rw [idle, List.mem_append, List.mem_singleton] at kept
      rcases kept with old | rfl
      · exact h.labels f old
      · exact wanted.trans h.expected

theorem reconfigureBounded (change : Pool → Pool) (p : Pool) (w : World σ) :
    (p.reconfigure change w).1.Bounded (change p).config (codeOf (change p).source) 0 := by
  obtain ⟨_, pool⟩ := p.reconfigurePool change w
  rw [pool]
  exact ⟨rfl, rfl, Nat.zero_le _, Nat.zero_le _, fun _ member => nomatch member⟩

end Pool

namespace Traffic

variable {σ : Type} [Conditions σ]

namespace State

variable {s : State σ} {e : Event σ} {x : Pursuit} {history : List (Moment σ)}

theorem pursuitBounded {c : Config} {code : UInt64} (h : s.pool.Bounded c code 0)
    (found : s.pursuit? e = some x) : (s.step e).pool.Bounded c code 0 := by
  have law := Pool.bounded (σ := σ) c code x.attempt.username x.attempt.password
  refine pursuitKeeps law found (fun _ => ?_) fun held => held.checkOut _ _ _
  exact ⟨h.config, h.expected, h.idle, h.total, h.labels⟩

theorem boundedStep (h : s.pool.Bounded s.pool.config s.pool.expectedCode 0)
    (one : 1 ≤ s.pool.config.maxActive.toNat) (kept : s.Kept history) (possible : s.Possible e) :
    (s.step e).pool.Bounded (s.step e).pool.config (s.step e).pool.expectedCode 0 ∧
      1 ≤ (s.step e).pool.config.maxActive.toNat := by
  have same {t : State σ} (next : t.pool.Bounded s.pool.config s.pool.expectedCode 0) :
      t.pool.Bounded t.pool.config t.pool.expectedCode 0 ∧ 1 ≤ t.pool.config.maxActive.toNat := by
    rw [next.config, next.expected]
    exact ⟨next, one⟩
  have course := s.course e possible
  generalize next : s.step e = t at course
  cases course with
  | pursued x found =>
    rw [← next]
    exact same (pursuitBounded h found)
  | called => exact ⟨h, one⟩
  | @returned number x found =>
    refine same ?_
    dsimp only [Handle.giveBack]
    split
    · exact h
    · exact h.release (returning kept found)
  | emptied change _ _ _ limit =>
    have bounded := s.pool.reconfigureBounded change s.world
    change (s.pool.reconfigure change s.world).1.Bounded
      (s.pool.reconfigure change s.world).1.config _ 0 ∧
        1 ≤ (s.pool.reconfigure change s.world).1.config.maxActive.toNat
    rw [bounded.config]
    exact ⟨bounded.expected ▸ bounded, limit one⟩
  | tolerated => exact ⟨⟨rfl, rfl, h.idle, h.total, h.labels⟩, one⟩
  | outside => exact ⟨h, one⟩

theorem boundedRun {source : Source} {config : Config} {world : World σ}
    (run : Run (.start source config world) history s) :
    s.pool.Bounded s.pool.config s.pool.expectedCode 0 ∧ 1 ≤ s.pool.config.maxActive.toNat := by
  induction run with
  | none =>
    refine ⟨⟨rfl, rfl, Nat.zero_le _, Nat.zero_le _, fun _ member => nomatch member⟩, ?_⟩
    exact config.allowsOne config.maxActive
  | more before e possible ih => exact boundedStep ih.1 ih.2 (kept before) possible

end State

theorem limitsKept {source : Source} {config : Config} {world : World σ}
    {history : List (Moment σ)} {s : State σ} (run : Run (.start source config world) history s) :
    1 ≤ s.pool.config.maxActive.toNat ∧
    s.pool.idle.length ≤ s.pool.config.maxIdle.toNat ∧
    s.pool.idle.length + s.pool.active.length ≤ s.pool.config.maxActive.toNat ∧
    (∀ e ∈ s.pool.idle ++ s.pool.active, s.pool.valid e = true) ∧
    s.pool.expectedCode =
      typeCode s.pool.source.url s.pool.source.username s.pool.source.password ∧
    ∀ e ∈ s.pool.idle, e.typeCode = s.pool.expectedCode := by
  obtain ⟨bounded, one⟩ := State.boundedRun run
  have custody := State.kept run
  have valid (e : Entry) (member : e ∈ s.pool.idle ++ s.pool.active) : s.pool.valid e = true :=
    Pool.validIff.mpr (custody.ledger.valid _ (List.mem_map_of_mem member))
  exact ⟨one, bounded.idle, bounded.total, valid, (State.sourced run).code, bounded.labels⟩

def State.closed : State Scenario.Plan :=
  .start ⟨⟨0, "mock"⟩, "mock://primary", some "app", none, .empty, true, none⟩
    { Config.new 1 1 with maxActive := 0 } ⟨0, 0, [], [], ⟨true, none⟩, .undisturbed⟩

theorem limitsKeptRaised :
    let s := State.closed.after [.acquireDefault, .giveBack 0]
    s.pool.config.maxActive = 1 ∧ s.pool.idle.length = 1 ∧
      s.pool.idle.length + s.pool.active.length ≤ s.pool.config.maxActive.toNat ∧
      ∀ e ∈ s.pool.idle, e.typeCode = s.pool.expectedCode := by
  intro s
  have run : Run State.closed _ s := State.closed.run (by simp [State.Possible])
  have law := limitsKept run
  exact ⟨by decide +kernel, by decide +kernel, law.2.2.1, law.2.2.2.2.2⟩

end Traffic
end ConnectionPool
