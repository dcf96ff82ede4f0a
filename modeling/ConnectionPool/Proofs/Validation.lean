import ConnectionPool.Proofs.Credentials
import ConnectionPool.Proofs.Trial

/-! Failed tests. A connection that fails the test of an acquire is discarded, so that no entry leads to
it any more. One that fails the test of its holder is only closed: the entry stays valid, and what
keeps the pool from using the connection again is that it finds it closed. A close that fails leaves
it open, and then nothing tells it from a good one. -/
namespace ConnectionPool

section Close

variable {σ : Type} [Conditions σ]

theorem Database.closeSettles {c : Nat} {w : World σ} (known : c < w.connections.length) :
    ((Database.close c).effect w).isClosed c = true ∨
      w.Recorded ((Database.close c).effect w) ⟨.close c, true⟩ := by
  obtain ⟨connections, _⟩ := performConnections (.close c) w
  cases h : perform (.close c) w with
  | mk r later =>
    rw [h] at connections
    cases r with
    | ok u =>
      have closed : (Database.close c).effect w =
          later.update c fun k => { k with closed := true } := by
        rw [Action.effect, Database.close, Action.bindOk h]
        rfl
      rw [← connections] at known
      obtain ⟨k, found⟩ := World.opened.mp known
      rw [World.connection?] at found
      left
      simp [closed, World.isClosed, World.connection?, World.update, found]
    | error e =>
      have same : (Database.close c).effect w = later := by
        rw [Action.effect, Database.close, Action.bindError h]
      right
      rw [same, World.Recorded, performError h]
      simp

theorem Entry.probeFailed {e : Entry} {config : Config} {w : World σ}
    (known : e.connection < w.connections.length) (failed : (e.probe config w).1 = false) :
    (e.probe config w).2.isClosed e.connection = true ∨
      w.Recorded (e.probe config w).2 ⟨.close e.connection, true⟩ := by
  have calls := (World.calledLaw.lapse w).trans
    (Database.pingCalled e.connection config.pingQuery w.lapse)
  unfold probe at failed ⊢
  split at failed
  · rename_i closed
    rw [if_pos closed]
    exact .inl closed
  · rename_i usable
    rw [if_neg usable]
    split at failed
    · cases failed
    · rename_i tested
      rw [if_neg tested]
      split at failed
      · cases failed
      · rename_i error later pinged
        rw [pinged] at calls
        dsimp only
        rw [← calls.same] at known
        exact (Database.closeSettles known).imp_right fun made => made.earlier calls.grows

end Close

namespace Pool

variable {σ : Type}

/- The pool will not use a connection again. Its last holder may still have it in hand, but closed. -/
structure Finished (inHand : Bool) (c : Nat) (p : Pool) (w : World σ) : Prop where
  known : c < w.connections.length
  idle : ∀ f ∈ p.idle, f.connection ≠ c
  active : inHand = true ∧ w.isClosed c = true ∨ ∀ f ∈ p.active, f.connection ≠ c

variable {inHand : Bool} {c : Nat} {p q : Pool} {w now later : World σ} {e : Entry}

theorem Finished.fewer (h : Finished inHand c p w) (growth : w.Grows later)
    (idle : ∀ f ∈ q.idle, f ∈ p.idle) (active : ∀ f ∈ q.active, f ∈ p.active) :
    Finished inHand c q later where
  known := Nat.lt_of_lt_of_le h.known growth.count
  idle f member := h.idle f (idle f member)
  active := h.active.imp (And.imp_right (growth.isClosed h.known)) fun absent f member =>
    absent f (active f member)

variable [Conditions σ]

theorem examineParts (h : p.examine e w = (true, later)) : p.valid e = true ∧
    ∃ tested, e.probe p.config w = (true, tested) ∧ e.rollbackIfNeeded tested = (.ok (), later) := by
  unfold examine at h
  split at h
  · cases h
  · rename_i tested probed
    unfold probe at probed
    split at probed
    · rename_i valid
      split at h
      · rename_i rolled
        cases h
        exact ⟨valid, tested, probed, rolled⟩
      · cases h
    · cases probed

theorem examineGood (h : p.examine e w = (true, later)) :
    p.valid e = true ∧ w.isClosed e.connection = false := by
  obtain ⟨valid, _, probed, _⟩ := examineParts h
  refine ⟨valid, Bool.eq_false_iff.mpr fun closed => ?_⟩
  rw [Entry.probe, if_pos closed] at probed
  cases probed

theorem examineProbed (failed : (p.probe e p.config w).1 = false) : (p.examine e w).1 = false := by
  unfold examine
  split
  · rfl
  · rename_i good
    rw [good] at failed
    cases failed

theorem finishing (inHand : Bool) (c : Nat) (username password : Option String) :
    Search (σ := σ) username password (Finished inHand c) (fun e p w =>
      Finished inHand c p w ∧ (e.connection = c → inHand = true ∧ w.isClosed c = true)) where
  reuse {p w e rest} h idle := by
    have all := h.idle
    rw [idle] at all
    refine ⟨h.fewer w.growsRefl (fun f member => ?_) fun _ => id, fun same => ?_⟩
    · exact idle ▸ List.mem_cons_of_mem _ member
    · exact absurd same (all e List.mem_cons_self)
  openOk h _ _ opened := by
    obtain ⟨_, connection, rfl, opening⟩ := openEntryOk opened
    refine ⟨h.fewer opening.grows (fun _ => id) fun _ => id, fun same => ?_⟩
    have known := h.known
    omega
  openError h _ _ failed := by
    obtain ⟨rfl, calls | ⟨opening, _⟩⟩ := openEntryError failed
    · exact h.fewer calls.grows (fun _ => id) fun _ => id
    · exact h.fewer opening.grows (fun _ => id) fun _ => id
  takeOver {p _ w _ _ oldest rest} h _ active _ taken := by
    have calls := oldest.callsRollback w
    have settled := h.active
    rw [active] at settled
    cases taken
    refine ⟨h.fewer calls.grows (fun _ => id) fun f member => ?_, fun same => ?_⟩
    · exact active ▸ List.mem_cons_of_mem _ member
    · rcases settled with closed | absent
      · exact closed.imp_right (calls.grows.isClosed h.known)
      · exact absurd same (absent oldest List.mem_cons_self)
  examine {p w e} h := by
    have calls := examineCalled p e w
    refine ⟨h.1.fewer calls.grows (fun _ => id) fun _ => id, fun same => ?_⟩
    exact (h.2 same).imp_right (calls.grows.isClosed h.1.known)
  discard {p w e} h := h.1.fewer (e.closeCalled w).grows (fun _ => id) fun _ => id
  countWait {p w a} h := by
    refine h.fewer w.growsRefl ?_ ?_
    · unfold countWait
      split <;> exact fun _ => id
    · unfold countWait
      split <;> exact fun _ => id

omit [Conditions σ] in
theorem Finished.checkOut (h : Finished inHand c p w)
    (held : e.connection = c → inHand = true ∧ w.isClosed c = true) (a : Attempt) (now : Nat) :
    Finished inHand c (p.checkOut e a now).2 w := by
  refine ⟨h.known, h.idle, ?_⟩
  rcases h.active with closed | absent
  · exact .inl closed
  · by_cases same : e.connection = c
    · exact .inl (held same)
    · refine .inr fun f member => ?_
      rcases List.mem_append.mp member with old | new
      · exact absent f old
      · rw [List.mem_singleton.mp new]
        exact same

theorem Finished.release (h : Finished inHand c p w) (member : p.valid e = true → e ∈ p.active) :
    Finished inHand c (p.release e w).1 (p.release e w).2 := by
  have growth := (releaseCalled p e w).grows
  obtain ⟨_, active, _⟩ := p.releaseAccount e w
  refine ⟨Nat.lt_of_lt_of_le h.known growth.count, fun f kept => ?_, ?_⟩
  · rcases releasedIdle kept with old | ⟨⟨_, rfl⟩, good, usable, _⟩
    · exact h.idle f old
    · intro same
      have same : e.connection = c := same
      rcases h.active with closed | absent
      · rw [← same, usable] at closed
        cases closed.2
      · exact absent e (member good) same
  · refine h.active.imp (And.imp_right (growth.isClosed h.known)) fun absent f checkedOut => ?_
    rw [active] at checkedOut
    exact absent f (List.mem_of_mem_eraseP checkedOut)

end Pool

namespace Traffic

variable {σ : Type} [Conditions σ]

inductive Moment.Fails (m : Moment σ) (c : Nat) : Prop where
  | acquiring {x : Pursuit} {e : Entry} {q : Pool} {now : World σ}
      (found : m.state.pursuit? m.event = some x)
      (tries : Pool.Tries x.attempt.username x.attempt.password
        (x.pool.config.badLimit - x.attempt.bad) x.pool m.state.world e q now)
      (connection : e.connection = c) (valid : q.valid e = true)
      (failed : (q.probe e q.config now).1 = false)
  | validating {number : Nat} {config : Config} {h : Handle}
      (event : m.event = .validate number config) (found : m.state.handles[number]? = some h)
      (connection : h.entry.connection = c) (valid : h.valid m.state.pool = true)
      (failed : (h.validate m.state.pool config m.state.world).1 = false)

def Moment.Spares (m : Moment σ) (c : Nat) : Prop :=
  (∃ number config, m.event = .validate number config) ∧
    m.state.world.Recorded m.next.world ⟨.close c, true⟩

namespace State

variable {s : State σ} {e : Event σ} {x : Pursuit} {inHand : Bool} {c : Nat} {history : List (Moment σ)}

theorem finishedStep (h : Pool.Finished inHand c s.pool s.world) (kept : s.Kept history)
    (possible : s.Possible e) : Pool.Finished inHand c (s.step e).pool (s.step e).world := by
  have course := s.course e possible
  generalize next : s.step e = t at course
  cases course with
  | pursued x found =>
    have law := Pool.finishing (σ := σ) inHand c x.attempt.username x.attempt.password
    rw [← next]
    exact pursuitKeeps law found (fun _ => ⟨h.known, h.idle, h.active⟩) fun held =>
      held.1.checkOut held.2 _ _
  | called w _ _ calls => exact h.fewer calls.grows (fun _ => id) fun _ => id
  | @returned number x found =>
    dsimp only [Handle.giveBack]
    split
    · exact h
    · exact h.release (returning kept found)
  | emptied change =>
    have calls := s.pool.reconfigureCalled change s.world
    obtain ⟨idle, active, _⟩ := s.pool.reconfigureEmpties change s.world
    refine h.fewer calls.grows (fun f member => ?_) fun f member => ?_
    · cases idle ▸ member
    · cases active ▸ member
  | tolerated => exact ⟨h.known, h.idle, h.active⟩
  | outside growth => exact h.fewer growth (fun _ => id) fun _ => id

theorem finishedNeverGranted (h : Pool.Finished inHand c s.pool s.world) {k : Entry}
    (granted : (Moment.mk s e).granted? = some (x, k)) : k.connection ≠ c := by
  obtain ⟨found, q, later, result⟩ := grantedResume granted
  obtain ⟨time, pool⟩ := pursuitPool found
  have begun : Pool.Finished inHand c x.pool s.world := by
    rw [pool]
    exact ⟨h.known, h.idle, h.active⟩
  obtain ⟨f, r, now, tries, good, checkedOut⟩ := Pool.grantedTried result
  have held := (Pool.finishing inHand c x.attempt.username x.attempt.password).tried begun tries
  have usable := (Pool.examineGood good).2
  cases checkedOut
  intro same
  have same : f.connection = c := same
  rw [same, (held.2 same).2] at usable
  cases usable

theorem triedCustody {past : List (Moment σ)} (kept : s.Kept past) (found : s.pursuit? e = some x)
    {f : Entry} {q : Pool} {now : World σ} {patience : Nat}
    (tries : Pool.Tries x.attempt.username x.attempt.password patience x.pool s.world f q now) :
    Custody s.world (Opened past) (fun c => Made past (.close c)) s.handles [f] q now := by
  obtain ⟨time, pool⟩ := pursuitPool found
  have begun : Custody s.world (Opened past) (fun c => Made past (.close c)) s.handles [] x.pool
      s.world := by
    rw [pool]
    exact Custody.pool kept rfl rfl rfl rfl
  exact (Custody.search s.world (Opened past) (fun c => Made past (.close c)) s.handles
    x.attempt.username x.attempt.password).tried begun tries

theorem failedAcquiring {past : List (Moment σ)} (kept : s.Kept past) (found : s.pursuit? e = some x)
    {f : Entry} {q : Pool} {now : World σ} (tries : Pool.Tries x.attempt.username x.attempt.password
      (x.pool.config.badLimit - x.attempt.bad) x.pool s.world f q now)
    (failed : (q.probe f q.config now).1 = false) :
    Pool.Finished false f.connection (s.step e).pool (s.step e).world := by
  have custody := triedCustody kept found tries
  have calls := Pool.examineCalled q f now
  cases examined : q.examine f now with
  | mk good after =>
    have bad : good = false := by
      have bad := Pool.examineProbed failed
      rw [examined] at bad
      exact bad
    subst bad
    rw [examined] at calls
    -- in hand and in no other place before, the entry is nowhere once it is discarded
    have alone : f.connection ∉ (q.idle ++ q.active).map Entry.connection :=
      (List.nodup_cons.mp custody.ledger.connections).1
    rw [List.mem_map] at alone
    have closing := f.closeCalled after
    have rest : Pool.Finished false f.connection (q.discard f after).1.countBad
        (q.discard f after).2 := by
      refine ⟨?_, fun g idle same => alone ⟨g, List.mem_append_left _ idle, same⟩,
        .inr fun g active same => alone ⟨g, List.mem_append_right _ active, same⟩⟩
      have known := custody.ledger.opened _ List.mem_cons_self
      exact Nat.lt_of_lt_of_le known (calls.trans closing).grows.count
    rw [stepPursuit found, (settlePool _ _ _).1, (settlePool _ _ _).2]
    cases result : x.pool.resume x.attempt s.world with
    | mk o r =>
      obtain ⟨r, later⟩ := r
      have ends := (Pool.finishing false f.connection x.attempt.username
        x.attempt.password).afterBad tries examined rest rfl rfl result
      cases ends with
      | granted held => exact held.1.checkOut held.2 _ _
      | failed rest => exact rest
      | waiting b limit rest => exact rest

theorem failedValidating {past : List (Moment σ)} (kept : s.Kept past) {number : Nat}
    {config : Config} {h : Handle} (found : s.handles[number]? = some h)
    (valid : h.valid s.pool = true) (failed : (h.validate s.pool config s.world).1 = false)
    (closed : ¬s.world.Recorded (s.step (.validate number config)).world
      ⟨.close h.entry.connection, true⟩) :
    Pool.Finished true h.entry.connection (s.step (.validate number config)).pool
      (s.step (.validate number config)).world := by
  have active := (kept.handleValid (List.mem_of_getElem? found)).mp valid
  have known := kept.ledger.opened _ (List.mem_map_of_mem (List.mem_append_right _ active))
  have next : s.step (.validate number config) =
      { s with world := (h.entry.probe config s.world).2 } := by
    simp only [step, found, Handle.validate, valid, if_true]
  rw [Handle.validate, if_pos valid] at failed
  have calls := h.entry.probeCalled config s.world
  have settled := Entry.probeFailed known failed
  rw [next] at closed ⊢
  refine ⟨calls.same ▸ known, fun f idle same => ?_, .inl ⟨rfl, settled.resolve_right closed⟩⟩
  have unique := kept.ledger.connections
  rw [List.nil_append, List.map_append] at unique
  exact (List.nodup_append.mp unique).2.2 _ (List.mem_map_of_mem idle) _
    (List.mem_map_of_mem active) same

theorem failedStep {past : List (Moment σ)} (kept : s.Kept past) (failed : (Moment.mk s e).Fails c)
    (closed : ¬(Moment.mk s e).Spares c) :
    Pool.Finished true c (s.step e).pool (s.step e).world ∧
      ∀ r ∈ (Moment.mk s e).granted?, r.2.connection ≠ c := by
  cases failed with
  | acquiring found tries connection _ failed =>
    subst connection
    have finished := failedAcquiring kept found tries failed
    have absent := finished.active.resolve_left fun closed => Bool.false_ne_true closed.1
    refine ⟨⟨finished.known, finished.idle, .inr absent⟩, fun r granted => ?_⟩
    exact absent r.2 (grantedEntry granted).2.1
  | validating event found connection valid failed =>
    dsimp only at event found
    subst event connection
    refine ⟨failedValidating kept found valid failed fun made => closed ⟨⟨_, _, rfl⟩, made⟩, ?_⟩
    exact fun _ granted => nomatch granted

end State

/- A connection that fails the test of an acquire is never handed out again, by that one or any other,
and never kept. The same is true of one that fails the test of its holder, unless the close that this
test makes fails. -/
theorem failedForGood {source : Source} {config : Config} {world : World σ}
    {history : List (Moment σ)} {s : State σ} (run : Run (.start source config world) history s)
    {m : Moment σ} (member : m ∈ history) {c : Nat} (failed : m.Fails c) (closed : ¬m.Spares c) :
    (∀ r ∈ m.granted?, r.2.connection ≠ c) ∧ (∀ f ∈ s.pool.idle, f.connection ≠ c) ∧
      ∀ e, ∀ r ∈ (Moment.mk s e).granted?, r.2.connection ≠ c := by
  have finished : Pool.Finished true c s.pool s.world ∧ ∀ r ∈ m.granted?, r.2.connection ≠ c := by
    induction run with
    | none => cases member
    | more before e possible ih =>
      rcases List.mem_append.mp member with earlier | latest
      · obtain ⟨finished, other⟩ := ih earlier
        exact ⟨State.finishedStep finished (State.kept before) possible, other⟩
      · cases List.mem_singleton.mp latest
        exact State.failedStep (State.kept before) failed closed
  refine ⟨finished.2, finished.1.idle, fun e r granted => ?_⟩
  exact State.finishedNeverGranted finished.1 granted

def State.testing : State Scenario.Plan :=
  .start State.small.pool.source { Config.new 1 1 with pingEnabled := true, pingQuery := "SELECT 1" }
    State.small.world

def tested (more : List (Scenario.Target × Scenario.Fault)) : List (Event Scenario.Plan) :=
  [.acquireDefault, .meanwhile 1 ⟨(⟨none, .executeQuery⟩, ⟨.query "refused", some 1⟩) :: more, [], 0⟩,
    .validate 0 State.testing.pool.config, .giveBack 0]

theorem testedRun (more : List (Scenario.Target × Scenario.Fault)) :
    Run State.testing (State.testing.history (tested more)) (State.testing.after (tested more)) :=
  State.testing.run (List.forall_mem_cons.mpr ⟨fun _ => trivial, List.forall_mem_cons.mpr
    ⟨fun t => t.meanwhilePossible _ _, by simp [State.Possible]⟩⟩)

def test (more : List (Scenario.Target × Scenario.Fault)) : Moment Scenario.Plan :=
  ⟨State.testing.after ((tested more).take 2), .validate 0 State.testing.pool.config⟩

theorem testOccurs (more : List (Scenario.Target × Scenario.Fault)) :
    test more ∈ State.testing.history (tested more) :=
  List.mem_cons_of_mem _ (List.mem_cons_of_mem _ List.mem_cons_self)

theorem failedForGoodClosed : (test []).Fails 0 ∧
    (∀ f ∈ (State.testing.after (tested [])).pool.idle, f.connection ≠ 0) ∧
    ∃ r ∈ (Moment.mk (State.testing.after (tested [])) .acquireDefault).granted?,
      r.2.connection ≠ 0 := by
  have fails : (test []).Fails 0 :=
    .validating rfl rfl (by decide +kernel) (by decide +kernel) (by decide +kernel)
  have quiet : ∀ r ∈ (test []).next.world.trace.drop (test []).state.world.trace.length,
      r.failed = true → r.call.kind ≠ .close := by decide +kernel
  obtain ⟨r, granted⟩ := Option.isSome_iff_exists.mp (by decide +kernel :
    (Moment.mk (State.testing.after (tested [])) .acquireDefault).granted?.isSome)
  have law := failedForGood (testedRun []) (testOccurs []) fails fun spares =>
    quiet _ spares.2 rfl rfl
  exact ⟨fails, law.2.1, r, granted, law.2.2 _ r granted⟩

theorem sparedByClose : ∃ history s, Run State.testing history s ∧ ∃ m ∈ history, m.Fails 0 ∧
    (∃ f ∈ s.pool.idle, f.connection = 0) ∧
    ∃ r ∈ (Moment.mk s .acquireDefault).granted?, r.2.connection = 0 := by
  let more : List (Scenario.Target × Scenario.Fault) :=
    [(⟨none, .close⟩, ⟨.connection "stuck", some 1⟩)]
  refine ⟨_, _, testedRun more, test more, testOccurs more, ?_, by decide +kernel, by decide +kernel⟩
  exact .validating rfl rfl (by decide +kernel) (by decide +kernel) (by decide +kernel)

end Traffic
end ConnectionPool
