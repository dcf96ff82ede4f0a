import ConnectionPool.Proofs.Deadlines

/-! How many candidates an acquire may discard. It does so only in its last section, as it waits only
before a saturated pool, and goes on after as many of them as the limits allow. The one that is too many
ends it with an error of its own; a driver may report the same error when a connection is opened. -/
namespace ConnectionPool

namespace Pool

variable {σ : Type} [Conditions σ] {username password : Option String} {p q r : Pool}
  {w now after later : World σ} {a : Attempt} {bad : List Entry} {patience : Nat} {o : Outcome}
  {c : Except Error (Option Entry)} {x : Error}

theorem Sought.counts (h : Sought username password p w c q later) :
    q.tally.badConnections = p.tally.badConnections := by
  cases h with
  | reused => rfl
  | opened _ _ opened =>
    obtain ⟨_, _, rfl, _⟩ := openEntryOk opened
    rfl
  | unopened _ _ failed =>
    obtain ⟨rfl, _⟩ := openEntryError failed
    rfl
  | takenOver _ _ _ taken =>
    cases taken
    rfl
  | nothing => rfl

theorem Rounds.counts (h : Rounds username password p w bad q later) :
    q.tally.badConnections = p.tally.badConnections + bad.length := by
  induction h with
  | none => rfl
  | @more p w e q now after bad r later going found failed rest ih =>
    have met : (q.discard e after).1.countBad.tally.badConnections = p.tally.badConnections + 1 :=
      congrArg (· + 1) (candidateSought found).counts
    rw [ih, met, List.length_cons, Nat.add_assoc, Nat.add_comm 1]

theorem Last.counts (h : Last a p w o q later) :
    q.tally.badConnections = p.tally.badConnections := by
  obtain ⟨waits, counted⟩ := p.countWaitPool a
  cases h with
  | closed => rfl
  | unopened _ idle room failed => exact (Sought.unopened idle room failed).counts
  | late => rw [counted]
  | waits => rw [counted]
  | granted _ found => exact (candidateSought found).counts

theorem Last.grows (h : Last a p w o q later) : w.Grows later := by
  cases h with
  | closed => exact w.growsRefl
  | unopened _ idle room failed => exact (Sought.unopened idle room failed).grows
  | late => exact w.growsRefl
  | waits => exact w.growsRefl
  | @granted e q now later _ found good =>
    have examined := examineCalled q e now
    rw [good] at examined
    exact (candidateSought found).grows.trans examined.grows

theorem pursueGrows (h : p.pursue patience a w = (o, q, later)) : w.Grows later := by
  obtain ⟨bad, r, v, rounds, ⟨_, _, _, rfl⟩ | ⟨_, last⟩⟩ := pursueEnds h
  · exact rounds.grows
  · exact rounds.grows.trans last.grows

theorem pursueAfter (going : p.shutDown = false)
    (found : p.candidate username password w = (c, r, now)) (h : p.pursue patience a w = (o, q, later))
    (user : a.username = username) (word : a.password = password) : now.Grows later := by
  subst user word
  rcases c with x | none | e
  · rw [pursue.eq_def, going, if_neg Bool.false_ne_true, found] at h
    cases h
    exact now.growsRefl
  · rw [pursue.eq_def, going, if_neg Bool.false_ne_true, found] at h
    dsimp only at h
    split at h
    · cases h
      exact now.growsRefl
    · cases h
      exact now.growsRefl
  · have examined := (examineCalled r e now).grows
    cases result : r.examine e now with
    | mk good after =>
      rw [result] at examined
      cases good with
      | true =>
        rw [pursueGood going found result] at h
        cases h
        exact examined
      | false =>
        have discarded := examined.trans (e.closeCalled after).grows
        rw [pursueBad going found result] at h
        cases patience with
        | zero =>
          cases h
          exact discarded
        | succ n => exact discarded.trans (pursueGrows h)

theorem Rounds.discarded (h : Rounds username password p w bad q later) (few : bad.length ≤ patience) :
    discarded username password patience p w =
      bad ++ discarded username password (patience - bad.length) q later := by
  induction h generalizing patience with
  | none => rfl
  | more going found failed rest ih =>
    rw [List.length_cons] at few ⊢
    obtain ⟨n, rfl⟩ : ∃ n, patience = n + 1 := ⟨patience - 1, by omega⟩
    rw [discardedBad going found failed, Nat.add_sub_add_right, List.cons_append,
      ← ih (Nat.le_of_succ_le_succ few)]

theorem discardedUnopened (idle : p.idle = []) (room : p.active.length < p.config.maxActive.toNat)
    (failed : p.openEntry username password w = (.error x, q, later)) :
    discarded username password patience p w = [] := by
  refine discardedNone ?_
  rintro ⟨e, r, now, after, _, found, _⟩
  rw [candidateOpens idle room, failed] at found
  cases found

theorem discardedWaiting (saturated : p.Saturated)
    (young : ∀ f ∈ p.active.head?, f.checkoutTime w.clock ≤ p.config.maxCheckout.nanos) :
    discarded username password patience p w = [] := by
  refine discardedNone ?_
  rintro ⟨e, r, now, after, _, found, _⟩
  rw [(Sought.nothing saturated young).candidate] at found
  cases found

end Pool

namespace Traffic

variable {σ : Type} [Conditions σ]

def Moment.discarded (m : Moment σ) : List Entry :=
  match m.state.pursuit? m.event with
  | none => []
  | some x => x.pool.discarded x.attempt.username x.attempt.password
      (x.pool.config.badLimit - x.attempt.bad) m.state.world

def discardedBy (number : Nat) (history : List (Moment σ)) : List Entry :=
  history.flatMap fun m =>
    if (m.state.pursuit? m.event).map (·.number) = some number then m.discarded else []

structure Moment.Discards (m : Moment σ) (x : Pursuit) : Prop where
  rounds : ∃ r v, Pool.Rounds x.attempt.username x.attempt.password x.pool m.state.world m.discarded r v
  rejected : ∀ f ∈ m.discarded, m.Rejects x f.connection
  counted : m.next.pool.tally.badConnections = m.state.pool.tally.badConnections + m.discarded.length

namespace State

variable {s : State σ} {e : Event σ} {x y : Pursuit} {m : Moment σ} {history : List (Moment σ)}
  {source : Source} {config : Config} {world : World σ}

theorem discardedIn (run : Run (.start source config world) history s)
    (found : s.pursuit? e = some x) : (Moment.mk s e).discarded =
      x.pool.discarded x.attempt.username x.attempt.password s.pool.config.badLimit s.world := by
  rw [← pursuitPatience run found]
  simp only [Moment.discarded, found]

theorem pursuitDiscards (run : Run (.start source config world) history s)
    (found : s.pursuit? e = some x) : (Moment.mk s e).Discards x ∧
      ((Moment.mk s e).discarded.length = s.pool.config.badLimit + 1 ∧
          (Moment.mk s e).failed? = some (x, .noGoodConnection) ∨
        (Moment.mk s e).discarded.length ≤ s.pool.config.badLimit ∧ ∃ r v,
          Pool.Rounds x.attempt.username x.attempt.password x.pool s.world (Moment.mk s e).discarded r v ∧
          Pool.Last { x.attempt with bad := x.attempt.bad + (Moment.mk s e).discarded.length } r v
            (x.pool.resume x.attempt s.world).1 (s.step e).pool (s.step e).world) := by
  have patience := pursuitPatience run found
  have count : x.pool.tally.badConnections = s.pool.tally.badConnections := by
    obtain ⟨time, pool⟩ := pursuitPool found
    rw [pool]
  cases result : x.pool.resume x.attempt s.world with
  | mk o rest =>
    obtain ⟨q, later⟩ := rest
    have next : (s.step e).pool = q ∧ (s.step e).world = later := by
      rw [stepPursuit found, result]
      exact settlePool _ _ _
    obtain ⟨r, v, rounds, ends⟩ := Pool.pursueDiscards result
      (show _ = (Moment.mk s e).discarded by simp only [Moment.discarded, found])
    have met := rounds.counts
    rw [patience] at ends
    rw [next.1, next.2]
    rcases ends with ⟨many, rfl, rfl, rfl⟩ | ⟨few, last⟩
    · refine ⟨⟨⟨_, _, rounds⟩, fun f member => ?_, ?_⟩, .inl ⟨many, failedIff.mpr ⟨found, ?_⟩⟩⟩
      · exact roundsReject rounds (patience ▸ Nat.le_of_eq many) (next.2 ▸ later.growsRefl) member
      · rw [Moment.next, next.1, met, count]
      · rw [result]
    · refine ⟨⟨⟨_, _, rounds⟩, fun f member => ?_, ?_⟩, .inr ⟨few, r, v, rounds, last⟩⟩
      · exact roundsReject rounds (patience ▸ Nat.le_succ_of_le few) (next.2 ▸ last.grows) member
      · rw [Moment.next, next.1, last.counts, met, count]

theorem discardedBefore (run : Run (.start source config world) history s)
    (found : s.pursuit? e = some x) (member : m ∈ history) (pursued : m.state.pursuit? m.event = some y)
    (same : y.number = x.number) : m.discarded = [] := by
  obtain ⟨past, before⟩ := run.earlier member
  -- After that section it either waits, which it does only before a saturated pool, or is done.
  by_cases waited : ∃ z ∈ m.next.waiters, z.number = y.number
  · obtain ⟨z, waits, number⟩ := waited
    rcases pursuitWaiters pursued waits with old | ⟨_, _, result⟩
    · exact absurd number (enterWithout before pursued old)
    · have waits := Pool.pursueWaits result (pursuitFits before pursued)
      rw [discardedIn before pursued]
      exact Pool.discardedWaiting waits.saturated waits.young
  · obtain ⟨below, absent⟩ := endedStays run member pursued fun z waits number =>
      waited ⟨z, waits, number⟩
    rcases pursuitNumber found with ⟨new, _⟩ | ⟨z, waits, number, _⟩
    · exact absurd (same.trans new) (Nat.ne_of_lt below)
    · exact absurd (number.trans same.symm) (absent z waits)

theorem discardedTotal (run : Run (.start source config world) history s)
    (found : s.pursuit? e = some x) :
    discardedBy x.number (history ++ [⟨s, e⟩]) = (Moment.mk s e).discarded := by
  have before : discardedBy x.number history = [] := by
    refine List.flatMap_eq_nil_iff.mpr fun m member => ?_
    split
    · rename_i mine
      obtain ⟨y, pursued, same⟩ := Option.map_eq_some_iff.mp mine
      exact discardedBefore run found member pursued same
    · rfl
  rw [discardedBy, List.flatMap_append, ← discardedBy, before, List.nil_append, List.flatMap_singleton]
  exact if_pos (congrArg (Option.map (·.number)) found)

theorem refusedWithin (run : Run (.start source config world) history s)
    (found : s.pursuit? e = some x) {error : Error} (refused : (Moment.mk s e).Refused x error) :
    (Moment.mk s e).discarded.length ≤ s.pool.config.badLimit := by
  obtain ⟨p, w, ⟨_, bad, rounds, few⟩, idle, room, fails⟩ := refused
  obtain ⟨r, later, failed⟩ := Pool.openEntryFails.mpr fails
  rw [pursuitPatience run found] at few
  rw [discardedIn run found, rounds.discarded few, Pool.discardedUnopened idle room failed,
    List.append_nil]
  exact few

theorem exhaustedCause (run : Run (.start source config world) history s) {text : String}
    (failed : (Moment.mk s e).failed? = some (x, .poolExhausted text)) :
    (Moment.mk s e).discarded.length = s.pool.config.badLimit + 1 ∨
      (Moment.mk s e).Refused x (.poolExhausted text) := by
  obtain ⟨found, failed⟩ := failedIff.mp failed
  obtain ⟨_, ⟨many, _⟩ | ⟨few, r, v, rounds, last⟩⟩ := pursuitDiscards run found
  · exact .inl many
  · rw [failed] at last
    cases last with
    | unopened going idle room failed =>
      refine .inr ⟨r, v, ⟨going, _, rounds, ?_⟩, idle, room, Pool.openEntryFails.mp ⟨_, _, failed⟩⟩
      rw [pursuitPatience run found]
      exact few

end State

/- An acquire discards one entry too many just if it fails with the error of an exhausted pool on its own
account, which is not the error of opening a connection. -/
theorem retriesBounded {source : Source} {config : Config} {world : World σ}
    {history : List (Moment σ)} {s : State σ} (run : Run (.start source config world) history s)
    {e : Event σ} {x : Pursuit} (found : s.pursuit? e = some x) {limit : Nat}
    (sum : s.pool.config.maxIdle.toNat + s.pool.config.badTolerance.toNat = limit)
    (small : limit < UInt64.size - 1) :
    let gone := discardedBy x.number (history ++ [⟨s, e⟩])
    let exhausted := ∃ text, (Moment.mk s e).failed? = some (x, .poolExhausted text) ∧
      ¬(Moment.mk s e).Refused x (.poolExhausted text)
    gone.length ≤ limit + 1 ∧ (gone.length = limit + 1 ↔ exhausted) ∧
    (¬exhausted → gone.length ≤ limit) ∧
    ∀ m ∈ history ++ [⟨s, e⟩], ∀ y, m.state.pursuit? m.event = some y → m.Discards y := by
  intro gone exhausted
  have same : s.pool.config.badLimit = limit := by
    rw [Config.badLimit, sum]
    exact Nat.min_eq_left (Nat.le_of_lt small)
  have total : gone = (Moment.mk s e).discarded := State.discardedTotal run found
  obtain ⟨_, ends⟩ := State.pursuitDiscards run found
  have bound : gone.length ≤ limit + 1 := by
    rw [total, ← same]
    rcases ends with ⟨many, _⟩ | ⟨few, _⟩
    · exact Nat.le_of_eq many
    · exact Nat.le_succ_of_le few
  have exactly : gone.length = limit + 1 ↔ exhausted := by
    rw [total, ← same]
    constructor
    · intro many
      rcases ends with ⟨_, failed⟩ | ⟨few, _⟩
      · refine ⟨_, failed, fun refused => ?_⟩
        have few := State.refusedWithin run found refused
        omega
      · omega
    · rintro ⟨text, failed, alone⟩
      exact (State.exhaustedCause run failed).resolve_right alone
  refine ⟨bound, exactly, fun other => ?_, fun m member y pursued => ?_⟩
  · have not : gone.length ≠ limit + 1 := fun many => other (exactly.mp many)
    omega
  · rcases List.mem_append.mp member with earlier | latest
    · obtain ⟨past, before⟩ := run.earlier earlier
      exact (State.pursuitDiscards before pursued).1
    · cases List.mem_singleton.mp latest
      exact (State.pursuitDiscards run pursued).1

def State.strict : State Scenario.Plan :=
  .start { State.small.pool.source with autoCommit := false }
    { Config.new 1 0 with badTolerance := 0, waitMillis := 0 } State.small.world

def stuck : Event Scenario.Plan :=
  .meanwhile 1 ⟨[(⟨none, .rollback⟩, ⟨.connection "lost", none⟩)], [], 0⟩

theorem retriesBoundedStuck :
    let s := ((State.strict.after [.acquireDefault, .acquireDefault]).step stuck).step (.giveBack 0)
    ∃ x, s.pursuit? (.wake 1) = some x ∧
      (∃ text, (Moment.mk s (.wake 1)).failed? = some (x, .poolExhausted text) ∧
        ¬(Moment.mk s (.wake 1)).Refused x (.poolExhausted text)) ∧
      (Moment.mk s (.wake 1)).discarded.length = 1 ∧ (Moment.mk s (.wake 1)).Discards x := by
  intro s
  have before : Run State.strict (State.strict.history [.acquireDefault, .acquireDefault])
      (State.strict.after [.acquireDefault, .acquireDefault]) :=
    State.strict.run (by simp [State.Possible])
  have run : Run State.strict _ s :=
    (before.more stuck (State.meanwhilePossible _ _ _)).more (.giveBack 0) trivial
  obtain ⟨x, found⟩ := Option.isSome_iff_exists.mp
    (by decide +kernel : (s.pursuit? (.wake 1)).isSome)
  have sum : s.pool.config.maxIdle.toNat + s.pool.config.badTolerance.toNat = 0 := by decide +kernel
  obtain ⟨_, exactly, _, discards⟩ := retriesBounded run found sum (by decide)
  have one : (Moment.mk s (.wake 1)).discarded.length = 1 := by decide +kernel
  have many := congrArg List.length (State.discardedTotal run found)
  rw [one] at many
  exact ⟨x, found, exactly.mp many, one,
    discards _ (List.mem_append_right _ List.mem_cons_self) x found⟩

theorem exhaustedUndiscarded : ∃ history s x, Run State.strict history s ∧
    s.pursuit? .acquireDefault = some x ∧
    s.pool.config.maxIdle.toNat + s.pool.config.badTolerance.toNat = 0 ∧
    (Moment.mk s .acquireDefault).failed? = some (x, .poolExhausted "no room") ∧
    (discardedBy x.number (history ++ [⟨s, .acquireDefault⟩])).length = 0 := by
  let exhausted : Event Scenario.Plan :=
    .meanwhile 1 ⟨[(⟨none, .connect⟩, ⟨.poolExhausted "no room", none⟩)], [], 0⟩
  have run : Run State.strict _ (State.strict.step exhausted) :=
    Run.none.more exhausted (State.meanwhilePossible _ _ _)
  obtain ⟨⟨x, error⟩, failed⟩ := Option.isSome_iff_exists.mp (by decide +kernel :
    (Moment.mk (State.strict.step exhausted) .acquireDefault).failed?.isSome)
  have reason : ∀ r ∈ (Moment.mk (State.strict.step exhausted) .acquireDefault).failed?,
      r.2 = .poolExhausted "no room" := by decide +kernel
  cases reason _ failed
  have found := (State.failedIff.mp failed).1
  refine ⟨_, _, x, run, found, by decide +kernel, failed, ?_⟩
  rw [State.discardedTotal run found]
  decide +kernel

/-- Of three connections that are opened for an acquire, each fails its first test. -/
example :
    let config := { Config.new 2 1 with badTolerance := 1, pingEnabled := true, pingQuery := "SELECT 1" }
    let failing : Scenario.Plan := ⟨[(⟨none, .executeQuery⟩, ⟨.query "boom", none⟩)], [], 1⟩
    let s := (State.start State.small.pool.source config State.small.world).step (.meanwhile 0 failing)
    let t := s.step .acquireDefault
    (Moment.mk s .acquireDefault).failed?.map (·.2) = some .noGoodConnection ∧
      t.world.connections.length = 3 ∧ t.pool.tally.badConnections = 3 ∧ t.pool.active = [] := by
  decide +kernel

end Traffic
end ConnectionPool
