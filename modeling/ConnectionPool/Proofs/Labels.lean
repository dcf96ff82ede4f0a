import ConnectionPool.Proofs.Credentials
import ConnectionPool.Proofs.Limits

/-! The labels of entries against the credentials that their connections were opened with. A checkout
is labelled with the type code of whoever it is for, wherever the connection comes from, and it is by
this label that a connection is kept. Reuse and opening do no harm: a connection that comes back was
opened for the label that it bears or for the one that it was kept under before. An overdue checkout
that is taken over gets the label of another acquire, and is kept under it. -/
namespace ConnectionPool

namespace Pool

variable {σ : Type} [Conditions σ]

structure Left (first : World σ) (before p : Pool) (w : World σ) : Prop where
  since : first.connections.length ≤ w.connections.length
  idle : ∀ f ∈ p.idle, f ∈ before.idle
  active : ∀ f ∈ p.active, f ∈ before.active

inductive Drawn (first : World σ) (before : Pool) (w : World σ) (c : Nat) : Prop where
  | reused {f} (idle : f ∈ before.idle) (same : f.connection = c)
  | opened (since : first.connections.length ≤ c) (known : c < w.connections.length)
  | takenOver {f} (active : f ∈ before.active) (same : f.connection = c)

variable {first w later : World σ} {before p q : Pool} {c : Nat}

omit [Conditions σ] in
theorem Drawn.called (h : Drawn first before w c) (calls : w.Called later) :
    Drawn first before later c := by
  cases h with
  | reused idle same => exact .reused idle same
  | opened since known => exact .opened since (calls.same ▸ known)
  | takenOver active same => exact .takenOver active same

omit [Conditions σ] in
theorem Left.called (h : Left first before p w) (calls : w.Called later) : Left first before p later :=
  ⟨calls.same ▸ h.since, h.idle, h.active⟩

theorem drawing (first : World σ) (before : Pool) (username password : Option String) :
    Search username password (Left first before)
      (fun e p w => Left first before p w ∧ Drawn first before w e.connection) where
  reuse {p _ _ _} h idle := by
    have all := h.idle
    rw [idle] at all
    refine ⟨⟨h.since, fun f member => all f (List.mem_cons_of_mem _ member), h.active⟩, ?_⟩
    exact .reused (all _ List.mem_cons_self) rfl
  openOk h _ _ opened := by
    obtain ⟨_, connection, rfl, opening⟩ := openEntryOk opened
    have since := h.since
    refine ⟨⟨Nat.le_trans since opening.grows.count, h.idle, h.active⟩, .opened ?_ ?_⟩
    · rw [connection]
      exact since
    · rw [connection, opening.count]
      exact Nat.lt_succ_self _
  openError h _ _ failed := by
    obtain ⟨rfl, calls | ⟨opening, _⟩⟩ := openEntryError failed
    · exact h.called calls
    · exact ⟨Nat.le_trans h.since opening.grows.count, h.idle, h.active⟩
  takeOver {p _ w _ _ oldest rest} h _ active _ taken := by
    have all := h.active
    rw [active] at all
    have calls := oldest.callsRollback w
    have left := h.called calls
    cases taken
    refine ⟨⟨left.since, h.idle, fun f member => all f (List.mem_cons_of_mem _ member)⟩, ?_⟩
    exact .takenOver (all _ List.mem_cons_self) rfl
  examine {p w e} h := by
    have calls := examineCalled p e w
    exact ⟨h.1.called calls, h.2.called calls⟩
  discard {p w e} h := by
    have left := h.1.called (e.closeCalled w)
    exact ⟨left.since, left.idle, left.active⟩
  countWait h := by
    unfold countWait
    split
    · exact h
    · exact ⟨h.since, h.idle, h.active⟩

end Pool

namespace Traffic

variable {σ : Type} [Conditions σ]

def TakenOver (history : List (Moment σ)) (c : Nat) : Prop :=
  ∃ m ∈ history, ∃ r ∈ m.granted?, r.2.connection = c ∧ ∃ f ∈ m.state.pool.active, f.connection = c

def State.Bears (s : State σ) (history : List (Moment σ)) (c : Nat) (code : UInt64) : Prop :=
  ∃ m ∈ history, ∃ y, m.OpensFor y s.pool.source c ∧
    s.world.OpenedAs c s.pool.source y.attempt.username y.attempt.password ∧
    (typeCode s.pool.source.url y.attempt.username y.attempt.password = code ∨ TakenOver history c)

structure State.Labelled (history : List (Moment σ)) (s : State σ) : Prop where
  idle : ∀ f ∈ s.pool.idle, s.Bears history f.connection s.pool.expectedCode
  active : ∀ f ∈ s.pool.active, s.Bears history f.connection s.pool.expectedCode ∨
    s.Bears history f.connection f.typeCode

namespace State

variable {s t : State σ} {e : Event σ} {x : Pursuit} {history : List (Moment σ)} {c : Nat}
  {code : UInt64}

theorem Bears.later (h : s.Bears history c code) (m : Moment σ) (growth : s.world.Grows t.world)
    (source : t.pool.source = s.pool.source) : t.Bears (history ++ [m]) c code := by
  obtain ⟨n, earlier, y, opens, stands, bears⟩ := h
  unfold Bears
  rw [source]
  refine ⟨n, List.mem_append_left _ earlier, y, opens, stands.later growth, bears.imp_right ?_⟩
  rintro ⟨n, earlier, taken⟩
  exact ⟨n, List.mem_append_left _ earlier, taken⟩

theorem Labelled.later (h : s.Labelled history) (m : Moment σ) (growth : s.world.Grows t.world)
    (source : t.pool.source = s.pool.source) (expected : t.pool.expectedCode = s.pool.expectedCode)
    (idle : ∀ f ∈ t.pool.idle, f ∈ s.pool.idle ∨
      s.Bears history f.connection s.pool.expectedCode)
    (active : ∀ f ∈ t.pool.active, f ∈ s.pool.active) : t.Labelled (history ++ [m]) where
  idle f member := by
    rw [expected]
    rcases idle f member with old | bears
    · exact (h.idle f old).later m growth source
    · exact bears.later m growth source
  active f member := by
    rw [expected]
    exact (h.active f (active f member)).imp (·.later m growth source) (·.later m growth source)

theorem pursuitLeft (found : s.pursuit? e = some x) :
    (∀ f ∈ (s.step e).pool.idle, f ∈ s.pool.idle) ∧
    ∀ f ∈ (s.step e).pool.active, f ∈ s.pool.active ∨
      (Moment.mk s e).granted? = some (x, f) ∧
        Pool.Drawn s.world s.pool (s.step e).world f.connection := by
  obtain ⟨time, pool⟩ := pursuitPool found
  have begun : Pool.Left s.world s.pool x.pool s.world := by
    rw [pool]
    exact ⟨Nat.le_refl _, fun _ member => member, fun _ member => member⟩
  rw [stepPursuit found, (settlePool _ _ _).1, (settlePool _ _ _).2]
  cases result : x.pool.resume x.attempt s.world with
  | mk o r =>
    obtain ⟨q, later⟩ := r
    have ends := (Pool.drawing s.world s.pool x.attempt.username x.attempt.password).resume begun result
    cases ends with
    | granted held =>
      refine ⟨held.1.idle, fun f member => ?_⟩
      rcases List.mem_append.mp member with old | new
      · exact .inl (held.1.active f old)
      · rw [List.mem_singleton.mp new]
        refine .inr ⟨?_, held.2⟩
        simp only [Moment.granted?, found, result]
        rfl
    | failed rest => exact ⟨rest.idle, fun f member => .inl (rest.active f member)⟩
    | waiting b limit rest => exact ⟨rest.idle, fun f member => .inl (rest.active f member)⟩

theorem inUse {past : List (Moment σ)} (kept : s.Kept past) (possible : s.Possible e) {f : Entry}
    (member : f ∈ (s.step e).pool.idle ++ (s.step e).pool.active) :
    (∃ g ∈ s.pool.idle ++ s.pool.active, f.connection = g.connection ∧ f.lastUsedAt = g.lastUsedAt) ∨
      ∃ x, (Moment.mk s e).granted? = some (x, f) ∧
        Pool.Drawn s.world s.pool (s.step e).world f.connection := by
  have course := s.course e possible
  generalize next : s.step e = t at course member ⊢
  cases course with
  | pursued x found =>
    rw [← next] at member ⊢
    obtain ⟨idle, active⟩ := pursuitLeft found
    rcases List.mem_append.mp member with kept | checkedOut
    · exact .inl ⟨f, List.mem_append_left _ (idle f kept), rfl, rfl⟩
    · exact (active f checkedOut).imp (fun old => ⟨f, List.mem_append_right _ old, rfl, rfl⟩)
        fun granted => ⟨x, granted⟩
  | called => exact .inl ⟨f, member, rfl, rfl⟩
  | @returned number x found =>
    dsimp only [Handle.giveBack] at member
    split at member
    · exact .inl ⟨f, member, rfl, rfl⟩
    · obtain ⟨_, active, _⟩ := s.pool.releaseAccount x.entry s.world
      rcases List.mem_append.mp member with idle | checkedOut
      · rcases Pool.releasedIdle idle with old | ⟨⟨_, rfl⟩, good, _⟩
        · exact .inl ⟨f, List.mem_append_left _ old, rfl, rfl⟩
        · exact .inl ⟨x.entry, List.mem_append_right _ (returning kept found good), rfl, rfl⟩
      · have old := List.mem_of_mem_eraseP (active ▸ checkedOut)
        exact .inl ⟨f, List.mem_append_right _ old, rfl, rfl⟩
  | emptied change =>
    obtain ⟨idle, active, _⟩ := s.pool.reconfigureEmpties change s.world
    have member : f ∈ (s.pool.reconfigure change s.world).1.idle ++
        (s.pool.reconfigure change s.world).1.active := member
    rw [idle, active] at member
    cases member
  | tolerated => exact .inl ⟨f, member, rfl, rfl⟩
  | outside => exact .inl ⟨f, member, rfl, rfl⟩

theorem grantedBears (h : s.Labelled history) (sourced : s.Sourced history) {k : Entry}
    (granted : (Moment.mk s e).granted? = some (x, k))
    (drawn : Pool.Drawn s.world s.pool (s.step e).world k.connection) :
    (s.step e).Bears (history ++ [⟨s, e⟩]) k.connection s.pool.expectedCode ∨
      (s.step e).Bears (history ++ [⟨s, e⟩]) k.connection k.typeCode := by
  obtain ⟨found, _, label⟩ := grantedEntry granted
  have origins := pursuitOrigins sourced.code found
  cases drawn with
  | reused idle same =>
    have bears := h.idle _ idle
    rw [same] at bears
    exact .inl (bears.later _ origins.grows origins.source)
  | opened since known =>
    obtain ⟨opens, stands⟩ := pursuitOpens sourced.code found since known
    rw [origins.source] at label
    unfold Bears
    rw [origins.source]
    exact .inr ⟨_, List.mem_append_right _ List.mem_cons_self, x, opens, stands, .inl label.symm⟩
  | takenOver active same =>
    obtain ⟨m, earlier, y, opens, stands⟩ := sourced.live _ (List.mem_append_right _ active)
    rw [same] at opens stands
    have taken : TakenOver (history ++ [⟨s, e⟩]) k.connection :=
      ⟨_, List.mem_append_right _ List.mem_cons_self, _, granted, rfl, _, active, same⟩
    unfold Bears
    rw [origins.source]
    exact .inl ⟨m, List.mem_append_left _ earlier, y, opens, stands.later origins.grows, .inr taken⟩

theorem labelledStep (h : s.Labelled history) (sourced : s.Sourced history) (kept : s.Kept history)
    (possible : s.Possible e) : (s.step e).Labelled (history ++ [⟨s, e⟩]) := by
  have course := s.course e possible
  generalize next : s.step e = t at course
  cases course with
  | pursued x found =>
    rw [← next]
    obtain ⟨idle, active⟩ := pursuitLeft found
    have origins := pursuitOrigins sourced.code found
    have expected := origins.code.trans sourced.code.symm
    refine ⟨fun f member => ?_, fun f member => ?_⟩
    · rw [expected]
      exact (h.idle f (idle f member)).later _ origins.grows origins.source
    · rw [expected]
      rcases active f member with old | ⟨granted, drawn⟩
      · exact (h.active f old).imp (·.later _ origins.grows origins.source)
          (·.later _ origins.grows origins.source)
      · exact grantedBears h sourced granted drawn
  | called w _ _ calls => exact h.later _ calls.grows rfl rfl (fun _ => .inl) fun _ => id
  | @returned number x found =>
    dsimp only [Handle.giveBack]
    split
    · exact h.later _ s.world.growsRefl rfl rfl (fun _ => .inl) fun _ => id
    · obtain ⟨_, source, expected⟩ := s.pool.releaseTarget x.entry s.world
      obtain ⟨_, active, _⟩ := s.pool.releaseAccount x.entry s.world
      refine h.later _ (Pool.releaseCalled _ _ _).grows source expected (fun f member => ?_)
        fun f member => List.mem_of_mem_eraseP (active ▸ member)
      rcases Pool.releasedIdle member with old | ⟨⟨_, rfl⟩, good, _, use⟩
      · exact .inl old
      · -- the label that lets it be kept is that of its last checkout
        have checkedOut := returning kept found good
        simp only [Pool.reusable, Bool.and_eq_true, beq_iff_eq] at use
        have bears := h.active _ checkedOut
        rw [use.2, or_self] at bears
        exact .inr bears
  | emptied change =>
    obtain ⟨idle, active, _⟩ := s.pool.reconfigureEmpties change s.world
    refine ⟨fun f member => ?_, fun f member => ?_⟩
    · cases idle ▸ member
    · cases active ▸ member
  | tolerated => exact h.later _ s.world.growsRefl rfl rfl (fun _ => .inl) fun _ => id
  | outside growth => exact h.later _ growth rfl rfl (fun _ => .inl) fun _ => id

theorem labelled {source : Source} {config : Config} {world : World σ}
    (run : Run (.start source config world) history s) : s.Labelled history := by
  induction run with
  | none => exact ⟨fun _ member => (nomatch member), fun _ member => (nomatch member)⟩
  | more before e possible ih => exact labelledStep ih (sourced before) (kept before) possible

end State

/- The label of an idle connection is the expected one, and what it was opened with agrees with that unless
it was taken over from somebody. -/
theorem keptForReuse {source : Source} {config : Config} {world : World σ}
    {history : List (Moment σ)} {s : State σ} (run : Run (.start source config world) history s)
    {f : Entry} (idle : f ∈ s.pool.idle) :
    f.typeCode = s.pool.expectedCode ∧
    s.pool.expectedCode =
      typeCode s.pool.source.url s.pool.source.username s.pool.source.password ∧
    ∃ m ∈ history, ∃ y, m.OpensFor y s.pool.source f.connection ∧
      s.world.OpenedAs f.connection s.pool.source y.attempt.username y.attempt.password ∧
      (s.world.OpenedAs f.connection s.pool.source s.pool.source.username s.pool.source.password ↔
        s.pool.source.propertiesFor y.attempt.username y.attempt.password =
          s.pool.source.propertiesFor s.pool.source.username s.pool.source.password) ∧
      (typeCode s.pool.source.url y.attempt.username y.attempt.password = s.pool.expectedCode ∨
        TakenOver history f.connection) := by
  obtain ⟨m, member, y, opens, stands, bears⟩ := (State.labelled run).idle f idle
  refine ⟨(State.boundedRun run).1.labels f idle, (State.sourced run).code, m, member, y, opens, stands,
    stands.same, bears⟩

def adopted : State Scenario.Plan := (State.small.after overdue).after [.acquireDefault, .giveBack 1]

theorem adoptedRun : Run State.small (State.small.history overdue ++
    (State.small.after overdue).history [.acquireDefault, .giveBack 1]) adopted :=
  overdueRun.append (by simp [State.Possible])

theorem keptForReuseAdopted : ∃ f ∈ adopted.pool.idle, f.typeCode = adopted.pool.expectedCode ∧
    ∃ (m : Moment Scenario.Plan) (y : Pursuit), m.OpensFor y adopted.pool.source f.connection ∧
      adopted.world.OpenedAs f.connection adopted.pool.source y.attempt.username
        y.attempt.password := by
  obtain ⟨f, idle⟩ := List.exists_mem_of_ne_nil adopted.pool.idle (by decide +kernel)
  obtain ⟨label, _, m, _, y, opens, stands, _⟩ := keptForReuse adoptedRun idle
  exact ⟨f, idle, label, m, y, opens, stands⟩

theorem foreignKept : ∃ history s, Run State.small history s ∧ ∃ f ∈ s.pool.idle,
    f.typeCode = s.pool.expectedCode ∧
    s.world.OpenedAs f.connection s.pool.source (some "alice") (some "a") ∧
    ¬s.world.OpenedAs f.connection s.pool.source s.pool.source.username s.pool.source.password :=
  ⟨_, _, adoptedRun, by decide +kernel⟩

end Traffic
end ConnectionPool
