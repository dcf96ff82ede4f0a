import ConnectionPool.Proofs.Ownership

/-! Where the connections of a pool come from. Each of them was opened in the course of the run by an
acquire, for the target that the pool still has and with the credentials of that acquire; a change of
the target closes them all. -/
namespace ConnectionPool

variable {σ : Type}

def World.OpenedAs (w : World σ) (c : Nat) (s : Source) (username password : Option String) : Prop :=
  ∃ k ∈ w.connection? c, k.driver = s.driver ∧ k.url = s.url ∧
    k.properties = s.propertiesFor username password

instance (w : World σ) (c : Nat) (s : Source) (username password : Option String) :
    Decidable (w.OpenedAs c s username password) := by
  unfold World.OpenedAs; infer_instance

def Source.call (s : Source) (username password : Option String) : Call :=
  .connect s.driver s.url (s.propertiesFor username password)

namespace World

variable {w next : World σ} {c : Nat} {s : Source} {username password : Option String}

theorem OpenedAs.later (h : w.OpenedAs c s username password) (growth : w.Grows next) :
    next.OpenedAs c s username password := by
  obtain ⟨k, found, driver, url, properties⟩ := h
  obtain ⟨l, found, kept⟩ := growth.connections found
  exact ⟨l, found, kept.driver.trans driver, kept.url.trans url, kept.properties.trans properties⟩

theorem OpenedAs.same {username' password' : Option String} (h : w.OpenedAs c s username password) :
    w.OpenedAs c s username' password' ↔
      s.propertiesFor username password = s.propertiesFor username' password' := by
  obtain ⟨k, found, driver, url, properties⟩ := h
  constructor
  · rintro ⟨l, again, _, _, others⟩
    cases Option.some.inj (found.symm.trans again)
    exact properties.symm.trans others
  · exact fun same => ⟨k, found, driver, url, properties.trans same⟩

end World

structure Origins (first : World σ) (s : Source) (username password : Option String)
    (old : Nat → Prop) (live : List Entry) (p : Pool) (w : World σ) : Prop where
  source : p.source = s
  code : p.expectedCode = Pool.codeOf s
  grows : first.Grows w
  fresh : ∀ c, first.connections.length ≤ c → c < w.connections.length →
    w.OpenedAs c s username password ∧ first.Recorded w ⟨s.call username password, false⟩
  live : ∀ e ∈ live, old e.connection ∨
    first.connections.length ≤ e.connection ∧ e.connection < w.connections.length

namespace Origins

variable {first w later : World σ} {s : Source} {username password : Option String}
  {old : Nat → Prop} {live : List Entry} {p q : Pool} {e : Entry}

theorem called (h : Origins first s username password old live p w) (calls : w.Called later) :
    Origins first s username password old live p later where
  source := h.source
  code := h.code
  grows := h.grows.trans calls.grows
  fresh c since known := by
    obtain ⟨opened, call⟩ := h.fresh c since (calls.same ▸ known)
    exact ⟨opened.later calls.grows, call.later calls.grows⟩
  live e member := calls.same.symm ▸ h.live e member

theorem opened (h : Origins first s username password old live p w)
    (opening : w.Opened later p.source.driver p.source.url (p.source.propertiesFor username password)) :
    Origins first s username password old live p later where
  source := h.source
  code := h.code
  grows := h.grows.trans opening.grows
  fresh c since known := by
    rw [opening.count] at known
    rcases Nat.lt_succ_iff_lt_or_eq.mp known with before | rfl
    · obtain ⟨opened, call⟩ := h.fresh c since before
      exact ⟨opened.later opening.grows, call.later opening.grows⟩
    · rw [h.source] at opening
      obtain ⟨k, found, target⟩ := opening.found
      exact ⟨⟨k, found, target⟩, opening.call.earlier h.grows⟩
  live e member := (h.live e member).imp_right fun range =>
    ⟨range.1, Nat.lt_of_lt_of_le range.2 opening.grows.count⟩

theorem rearrange {other : List Entry} (h : Origins first s username password old live p w)
    (source : q.source = p.source) (code : q.expectedCode = p.expectedCode)
    (same : ∀ e ∈ other, ∃ f ∈ live, e.connection = f.connection) :
    Origins first s username password old other q w where
  source := source.trans h.source
  code := code.trans h.code
  grows := h.grows
  fresh := h.fresh
  live e member := by
    obtain ⟨f, found, connection⟩ := same e member
    exact connection ▸ h.live f found

variable [Conditions σ]

theorem search (first : World σ) (s : Source) (username password : Option String) (old : Nat → Prop) :
    Pool.Search username password
      (fun p w => Origins first s username password old (p.idle ++ p.active) p w)
      (fun e p w => Origins first s username password old (e :: (p.idle ++ p.active)) p w) where
  reuse h idle := by
    rw [idle] at h
    exact h.rearrange rfl rfl fun e member => ⟨e, member, rfl⟩
  openOk h _ _ opened := by
    obtain ⟨_, connection, rfl, opening⟩ := Pool.openEntryOk opened
    have since := h.grows.count
    have more := h.opened opening
    refine ⟨more.source, more.code, more.grows, more.fresh, fun f member => ?_⟩
    rcases List.mem_cons.mp member with rfl | member
    · rw [connection, opening.count]
      exact .inr ⟨since, Nat.lt_succ_self _⟩
    · exact more.live f member
  openError h _ _ failed := by
    obtain ⟨rfl, calls | ⟨opening, _⟩⟩ := Pool.openEntryError failed
    · exact h.called calls
    · exact h.opened opening
  takeOver {p _ w _ _ oldest rest} h _ active _ taken := by
    have calls := oldest.callsRollback w
    cases taken
    rw [active] at h
    refine (h.called calls).rearrange rfl rfl fun f member => ?_
    rcases List.mem_cons.mp member with rfl | member
    · exact ⟨oldest, List.mem_append_right _ List.mem_cons_self, rfl⟩
    · refine ⟨f, ?_, rfl⟩
      rcases List.mem_append.mp member with idle | later
      · exact List.mem_append_left _ idle
      · exact List.mem_append_right _ (List.mem_cons_of_mem _ later)
  examine h := h.called (Pool.examineCalled _ _ _)
  discard h := (h.called (Entry.closeCalled _ _)).rearrange rfl rfl fun e member =>
    ⟨e, List.mem_cons_of_mem _ member, rfl⟩
  countWait h := by
    unfold Pool.countWait
    split
    · exact h
    · exact h.rearrange rfl rfl fun e member => ⟨e, member, rfl⟩

end Origins

namespace Pool

variable [Conditions σ]

theorem releaseOrigins {p : Pool} {e : Entry} {w : World σ} (member : p.valid e = true → e ∈ p.active) :
    (p.release e w).1.source = p.source ∧ (p.release e w).1.expectedCode = p.expectedCode ∧
      ∀ f ∈ (p.release e w).1.idle ++ (p.release e w).1.active,
        ∃ g ∈ p.idle ++ p.active, f.connection = g.connection := by
  obtain ⟨_, source, code⟩ := p.releaseTarget e w
  obtain ⟨_, active, _⟩ := p.releaseAccount e w
  refine ⟨source, code, fun f found => ?_⟩
  rcases List.mem_append.mp found with idle | rest
  · rcases releasedIdle idle with old | ⟨⟨_, rfl⟩, good, _⟩
    · exact ⟨f, List.mem_append_left _ old, rfl⟩
    · exact ⟨e, List.mem_append_right _ (member good), rfl⟩
  · exact ⟨f, List.mem_append_right _ (List.mem_of_mem_eraseP (active ▸ rest)), rfl⟩

end Pool

namespace Traffic

variable [Conditions σ]

structure Moment.OpensFor (m : Moment σ) (x : Pursuit) (source : Source) (c : Nat) : Prop where
  found : m.state.pursuit? m.event = some x
  opens : m.Opens c
  call : m.state.world.Recorded m.next.world
    ⟨source.call x.attempt.username x.attempt.password, false⟩

def OpenedBy (history : List (Moment σ)) (source : Source) (w : World σ) (c : Nat) : Prop :=
  ∃ m ∈ history, ∃ x, m.OpensFor x source c ∧
    w.OpenedAs c source x.attempt.username x.attempt.password

structure State.Sourced (history : List (Moment σ)) (s : State σ) : Prop where
  code : s.pool.expectedCode = Pool.codeOf s.pool.source
  live : ∀ e ∈ s.pool.idle ++ s.pool.active, OpenedBy history s.pool.source s.world e.connection

namespace State

variable {s t : State σ} {e : Event σ} {x : Pursuit} {history : List (Moment σ)}

theorem Sourced.later (h : s.Sourced history) (m : Moment σ) (growth : s.world.Grows t.world)
    (source : t.pool.source = s.pool.source) (code : t.pool.expectedCode = s.pool.expectedCode)
    (same : ∀ e ∈ t.pool.idle ++ t.pool.active,
      ∃ f ∈ s.pool.idle ++ s.pool.active, e.connection = f.connection) :
    t.Sourced (history ++ [m]) where
  code := by rw [code, source, h.code]
  live e member := by
    obtain ⟨f, found, connection⟩ := same e member
    obtain ⟨n, earlier, x, opens, stands⟩ := h.live f found
    rw [source, connection]
    exact ⟨n, List.mem_append_left _ earlier, x, opens, stands.later growth⟩

theorem pursuitOrigins (code : s.pool.expectedCode = Pool.codeOf s.pool.source)
    (found : s.pursuit? e = some x) :
    Origins s.world s.pool.source x.attempt.username x.attempt.password
      (fun c => ∃ f ∈ s.pool.idle ++ s.pool.active, f.connection = c)
      ((s.step e).pool.idle ++ (s.step e).pool.active) (s.step e).pool (s.step e).world := by
  obtain ⟨time, pool⟩ := pursuitPool found
  have begun : Origins s.world s.pool.source x.attempt.username x.attempt.password
      (fun c => ∃ f ∈ s.pool.idle ++ s.pool.active, f.connection = c)
      (x.pool.idle ++ x.pool.active) x.pool s.world := by
    rw [pool]
    exact ⟨rfl, code, s.world.growsRefl, fun c since known => absurd known (Nat.not_lt.mpr since),
      fun f member => .inl ⟨f, member, rfl⟩⟩
  rw [stepPursuit found, (settlePool _ _ _).1, (settlePool _ _ _).2]
  cases result : x.pool.resume x.attempt s.world with
  | mk o r =>
    obtain ⟨q, later⟩ := r
    have ends := (Origins.search _ _ x.attempt.username _ _).resume begun result
    cases ends with
    | @granted k p w held =>
      refine held.rearrange rfl rfl fun f member => ?_
      rcases List.mem_append.mp member with idle | active
      · exact ⟨f, List.mem_cons_of_mem _ (List.mem_append_left _ idle), rfl⟩
      · rcases List.mem_append.mp active with old | new
        · exact ⟨f, List.mem_cons_of_mem _ (List.mem_append_right _ old), rfl⟩
        · rw [List.mem_singleton.mp new]
          exact ⟨k, List.mem_cons_self, rfl⟩
    | failed rest => exact rest
    | waiting b limit rest => exact rest

theorem pursuitOpens (code : s.pool.expectedCode = Pool.codeOf s.pool.source)
    (found : s.pursuit? e = some x) {c : Nat} (since : s.world.connections.length ≤ c)
    (known : c < (s.step e).world.connections.length) :
    Moment.OpensFor ⟨s, e⟩ x s.pool.source c ∧
      (s.step e).world.OpenedAs c s.pool.source x.attempt.username x.attempt.password := by
  obtain ⟨stands, call⟩ := (pursuitOrigins code found).fresh c since known
  exact ⟨⟨found, ⟨pursuitInside found, since, known⟩, call⟩, stands⟩

theorem sourcedStep {past : List (Moment σ)} (h : s.Sourced history) (kept : s.Kept past)
    (possible : s.Possible e) : (s.step e).Sourced (history ++ [⟨s, e⟩]) := by
  have course := s.course e possible
  generalize next : s.step e = t at course
  cases course with
  | pursued x found =>
    rw [← next]
    have origins := pursuitOrigins h.code found
    refine ⟨by rw [origins.code, origins.source], fun f member => ?_⟩
    rw [origins.source]
    rcases origins.live f member with ⟨g, old, connection⟩ | ⟨since, known⟩
    · obtain ⟨m, earlier, y, opens, stands⟩ := h.live g old
      rw [← connection]
      exact ⟨m, List.mem_append_left _ earlier, y, opens, stands.later origins.grows⟩
    · exact ⟨_, List.mem_append_right _ List.mem_cons_self, x, pursuitOpens h.code found since known⟩
  | called w _ _ calls => exact h.later _ calls.grows rfl rfl fun f member => ⟨f, member, rfl⟩
  | @returned number x found =>
    dsimp only [Handle.giveBack]
    split
    · exact h.later _ s.world.growsRefl rfl rfl fun f member => ⟨f, member, rfl⟩
    · obtain ⟨source, code, same⟩ := Pool.releaseOrigins (w := s.world) (returning kept found)
      exact h.later _ (Pool.releaseCalled _ _ _).grows source code same
  | emptied change =>
    obtain ⟨idle, active, code⟩ := s.pool.reconfigureEmpties change s.world
    refine ⟨code, fun f member => ?_⟩
    rcases List.mem_append.mp member with kept | checkedOut
    · cases idle ▸ kept
    · cases active ▸ checkedOut
  | tolerated n => exact h.later _ s.world.growsRefl rfl rfl fun f member => ⟨f, member, rfl⟩
  | outside growth => exact h.later _ growth rfl rfl fun f member => ⟨f, member, rfl⟩

theorem sourced {source : Source} {config : Config} {world : World σ}
    (run : Run (.start source config world) history s) : s.Sourced history := by
  induction run with
  | none => exact ⟨rfl, fun _ member => nomatch member⟩
  | more before e possible ih => exact sourcedStep ih (kept before) possible

end State
end Traffic
end ConnectionPool
