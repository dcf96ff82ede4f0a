import ConnectionPool.Proofs.Labels
import ConnectionPool.Proofs.Signals
import ConnectionPool.Proofs.Trial
import ConnectionPool.Proofs.Validation

/-! What a connection that is handed out is fit for. The last thing that an acquire does is to examine
it: it is open, it has passed a test if it was out of use for too long, and nothing is pending on it.
How long it was out of use is told by a date in its entry, which goes from one entry of a connection to
the next; this is when it was last checked out, by whichever way it has come back since. -/
namespace ConnectionPool

section Examination

variable {σ : Type} {w later : World σ}

structure World.Untouched (w later : World σ) : Prop where
  connections : later.connections = w.connections
  initial : later.initial = w.initial

theorem World.Untouched.session (h : w.Untouched later) (c : Nat) : later.session c = w.session c := by
  rw [World.session, connection?, h.connections, h.initial]
  rfl

theorem World.Untouched.isClosed (h : w.Untouched later) (c : Nat) :
    later.isClosed c = w.isClosed c := by
  rw [World.isClosed, connection?, h.connections]
  rfl

variable [Conditions σ]

theorem World.untouchedLaw : World.Law (World.Untouched (σ := σ)) where
  refl _ := ⟨rfl, rfl⟩
  trans first last :=
    ⟨last.connections.trans first.connections, last.initial.trans first.initial⟩
  perform call w := by
    unfold Database.perform
    dsimp only
    split
    · exact ⟨rfl, rfl⟩
    · split <;> exact ⟨rfl, rfl⟩
  lapse _ := ⟨rfl, rfl⟩

theorem Database.probeOk {c : Nat} {sql : String} (h : probe c sql w = (.ok (), later)) :
    w.Recorded later ⟨.executeQuery c sql [], false⟩ := by
  have law : World.Law (World.Called (σ := σ)) := World.calledLaw.toLaw
  obtain ⟨_, made, creating, created⟩ := Action.bindSucceeds h
  obtain ⟨outcome, queried, querying, executed⟩ := Action.bindSucceeds created
  obtain ⟨closed, settled, closing, ended⟩ := Action.bindSucceeds executed
  obtain ⟨rows, _, succeeded, rest⟩ := Action.bindSucceeds ended
  obtain ⟨rfl, rfl⟩ := Action.liftSucceeds succeeded
  obtain ⟨_, _, closes, last⟩ := Action.bindSucceeds rest
  obtain ⟨rfl, rfl⟩ := Action.liftSucceeds closes
  obtain ⟨auto, asked, asking, h⟩ := Action.bindSucceeds last
  have rest : queried.Grows later := by
    have before := law.trans ((law.perform (.closeStatement c)).attempt.of closing)
      ((law.autoCommit c).of asking)
    cases auto with
    | false => exact (law.trans before ((law.perform (.rollback c)).of h)).grows
    | true => cases h; exact before.grows
  have made : made.Recorded queried ⟨.executeQuery c sql [], false⟩ := by
    obtain ⟨_, _, executing, h⟩ := Action.bindSucceeds (Action.attemptEnds querying)
    cases h
    rw [World.Recorded, performOk executing, List.drop_left]
    exact List.mem_singleton.mpr rfl
  exact (made.later rest).earlier ((law.perform (.createStatement c)).of creating).grows

theorem Entry.probeOk {e : Entry} {config : Config} (h : e.probe config w = (true, later)) :
    w.isClosed e.connection = false ∧ w.Untouched later ∧ (config.pingEnabled = true →
      config.pingThreshold.nanos < e.unusedTime w.lapse.clock →
        w.Recorded later ⟨.executeQuery e.connection config.pingQuery [], false⟩) := by
  have waits := World.untouchedLaw.lapse w
  have untouched := World.untouchedLaw.ping e.connection config.pingQuery w.lapse
  unfold probe at h
  split at h
  · cases h
  · rename_i usable
    have usable := Bool.eq_false_iff.mpr usable
    refine ⟨usable, ?_⟩
    split at h
    · rename_i recent
      cases h
      refine ⟨waits, fun enabled idled => ?_⟩
      rw [enabled] at recent
      simp at recent
      omega
    · split at h
      · rename_i answer now pinged
        rw [pinged] at untouched
        cases h
        refine ⟨World.untouchedLaw.trans waits untouched, fun _ _ => ?_⟩
        unfold Database.ping at pinged
        rw [waits.isClosed, usable, if_neg Bool.false_ne_true] at pinged
        split at pinged
        · rename_i probed
          cases pinged
          exact (Database.probeOk probed).earlier (World.calledLaw.lapse w).grows
        · cases pinged
      · cases h

theorem Entry.rollbackOk {e : Entry} (h : e.rollbackIfNeeded w = (.ok (), later))
    (pending : (w.session e.connection).autoCommit = false) :
    ∃ calls, later.trace = w.trace ++ calls ++ [⟨.rollback e.connection, false⟩] := by
  obtain ⟨auto, asked, asking, h⟩ := Action.bindSucceeds h
  obtain ⟨_, between, performed, read⟩ := Action.bindSucceeds asking
  have untouched := (World.untouchedLaw.perform (.autoCommit e.connection)).of performed
  have trace := Database.performOk performed
  rw [← untouched.session] at pending
  have off : auto = false := by
    cases read
    exact pending
  have same : between = asked := by
    cases read
    rfl
  subst off same
  have rolled : Database.perform (.rollback e.connection) between = (.ok (), later) := h
  exact ⟨[⟨.autoCommit e.connection, false⟩], by rw [Database.performOk rolled, trace]⟩

theorem Pool.examineOk {p : Pool} {e : Entry} (h : p.examine e w = (true, later)) :
    later.isClosed e.connection = false ∧
    (p.config.pingEnabled = true → p.config.pingThreshold.nanos < e.unusedTime w.lapse.clock →
      w.Recorded later ⟨.executeQuery e.connection p.config.pingQuery [], false⟩) ∧
    ((later.session e.connection).autoCommit = false →
      ∃ calls, later.trace = w.trace ++ calls ++ [⟨.rollback e.connection, false⟩]) := by
  obtain ⟨_, tested, probed, rolled⟩ := examineParts h
  obtain ⟨usable, untouched, pinged⟩ := Entry.probeOk probed
  have quiet := (World.untouchedLaw.rollback e).of rolled
  refine ⟨?_, fun enabled idled => ?_, fun off => ?_⟩
  · rw [quiet.isClosed, untouched.isClosed]
    exact usable
  · exact (pinged enabled idled).later ((World.calledLaw.rollback e).of rolled).grows
  · rw [quiet.session] at off
    obtain ⟨calls, trace⟩ := Entry.rollbackOk rolled off
    have growth := (e.probeCalled p.config w).grows.trace
    rw [probed] at growth
    obtain ⟨before, same⟩ := growth
    exact ⟨before ++ calls, by rw [trace, ← same, List.append_assoc w.trace]⟩

end Examination

theorem Scenario.Plan.faultLapse (plan : Plan) (call : Call) : (plan.fault call).2.lapse = plan.lapse := by
  unfold fault
  split
  · rfl
  · rfl

theorem World.steadyLaw : World.ClosingLaw
    (fun w later : World Scenario.Plan => later.conditions.lapse = w.conditions.lapse) where
  refl _ := rfl
  trans first last := last.trans first
  perform call w := by
    have kept := w.conditions.faultLapse call
    unfold Database.perform
    dsimp only
    split
    · rfl
    · split
      all_goals
        rename_i faulty
        exact (congrArg (fun r => r.2.lapse) faulty).symm.trans kept
  lapse _ := rfl
  closing _ _ := rfl

namespace Pool

variable {σ : Type} [Conditions σ] {p q : Pool} {w later : World σ} {e : Entry}
  {username password : Option String}

theorem openEntryNow (h : p.openEntry username password w = (.ok e, q, later)) :
    e.lastUsedAt = later.clock := by
  unfold openEntry at h
  split at h
  · cases h
  · cases h
    rfl

theorem candidateWays (h : p.candidate username password w = (.ok (some e), q, later)) :
    e ∈ p.idle ∨ p.openEntry username password w = (.ok e, q, later) ∨
      ∃ f ∈ p.active, e.connection = f.connection ∧ e.lastUsedAt = f.lastUsedAt := by
  unfold candidate at h
  split at h
  · rename_i idle
    cases h
    exact .inl (idle ▸ List.mem_cons_self)
  · split at h
    · split at h
      · rename_i opened
        cases h
        exact .inr (.inl opened)
      · cases h
    · split at h
      · cases h
      · rename_i oldest rest active
        split at h
        · cases h
        · cases h
          exact .inr (.inr ⟨oldest, active ▸ List.mem_cons_self, rfl, rfl⟩)

end Pool

namespace Traffic

variable {σ : Type} [Conditions σ]

def Moment.checkedOut? (m : Moment σ) (c : Nat) : Option Nat :=
  match m.granted? with
  | some (_, k) => if k.connection = c then some m.next.world.clock else none
  | none => none

def lastCheckout? (history : List (Moment σ)) (c : Nat) : Option Nat := latest? (·.checkedOut? c) history

theorem Moment.checkedOutIff {m : Moment σ} {c time : Nat} : m.checkedOut? c = some time ↔
    ∃ x k, m.granted? = some (x, k) ∧ k.connection = c ∧ m.next.world.clock = time := by
  unfold checkedOut?
  split
  · rename_i x k granted
    simp [granted]
  · rename_i none
    simp [none]

namespace State

variable {s : State σ} {e : Event σ} {x : Pursuit} {k : Entry} {history : List (Moment σ)}

theorem grantedDate (granted : (Moment.mk s e).granted? = some (x, k)) :
    k.lastUsedAt = (s.step e).world.clock := by
  obtain ⟨found, q, later, result⟩ := grantedResume granted
  obtain ⟨_, _, _, _, _, checkedOut⟩ := Pool.grantedTried result
  rw [stepPursuit found, result]
  cases checkedOut
  rfl

theorem checkoutPast {source : Source} {config : Config} {world : World σ}
    (run : Run (.start source config world) history s) {c time : Nat}
    (said : lastCheckout? history c = some time) :
    c < s.world.connections.length ∧ time ≤ s.world.clock := by
  induction run with
  | none => cases said
  | @more history s before e possible ih =>
    rw [lastCheckout?, latestNext] at said
    cases now : (Moment.mk s e).checkedOut? c with
    | some moment =>
      rw [now] at said
      cases said
      obtain ⟨x, k, granted, rfl, rfl⟩ := Moment.checkedOutIff.mp now
      have active := List.mem_append_right (s.step e).pool.idle (grantedEntry granted).2.1
      exact ⟨(kept (before.more e possible)).ledger.opened _ (List.mem_map_of_mem active), Nat.le_refl _⟩
    | none =>
      rw [now] at said
      obtain ⟨known, past⟩ := ih said
      have growth := stepGrows (kept before) possible
      exact ⟨Nat.lt_of_lt_of_le known growth.count, Nat.le_trans past growth.clock⟩

def Dated (history : List (Moment σ)) (s : State σ) : Prop :=
  ∀ f ∈ s.pool.idle ++ s.pool.active, lastCheckout? history f.connection = some f.lastUsedAt

theorem dated {source : Source} {config : Config} {world : World σ}
    (run : Run (.start source config world) history s) : s.Dated history := by
  induction run with
  | none => exact fun _ member => nomatch member
  | @more history s before e possible ih =>
    intro f member
    rw [lastCheckout?, latestNext]
    cases said : (Moment.mk s e).checkedOut? f.connection with
    | some time =>
      -- what is granted is the only entry in use for its connection
      obtain ⟨x, k, granted, same, rfl⟩ := Moment.checkedOutIff.mp said
      have unique := (kept (before.more e possible)).ledger.connections
      have active := List.mem_append_right (s.step e).pool.idle (grantedEntry granted).2.1
      have only : k = f := List.inj_on_of_nodup_map unique active member same
      rw [← only, grantedDate granted]
      rfl
    | none =>
      rcases inUse (kept before) possible member with ⟨g, old, connection, date⟩ | ⟨x, granted, _⟩
      · rw [connection, date]
        exact ih g old
      · rw [Moment.checkedOutIff.mpr ⟨x, f, granted, rfl, rfl⟩] at said
        cases said

theorem triedUnder {past : List (Moment σ)} (kept : s.Kept past) (found : s.pursuit? e = some x)
    {f : Entry} {r : Pool} {now : World σ} {patience : Nat}
    (tries : Pool.Tries x.attempt.username x.attempt.password patience x.pool s.world f r now) :
    s.world.Grows now ∧ r.config = s.pool.config := by
  have claiming := (s.pool.claimed x.attempt.username x.attempt.password).tried
    (pursuitClaimed found) tries
  exact ⟨(triedCustody kept found tries).ledger.grows, claiming.rest.config⟩

/-- An acquire comes to examine an entry and finds it good. Its connection was out of use since its last
checkout, or since this acquire opened it just then. -/
def FoundGood (history : List (Moment σ)) (s : State σ) (x : Pursuit) (c since : Nat)
    (now later : World σ) : Prop :=
  ∃ (f : Entry) (r : Pool), f.connection = c ∧
    Pool.Tries x.attempt.username x.attempt.password (x.pool.config.badLimit - x.attempt.bad) x.pool
      s.world f r now ∧
    r.examine f now = (true, later) ∧
    (lastCheckout? history c = some since ∨ lastCheckout? history c = none ∧ since = now.clock ∧
      ∃ q v, Pool.openEntry q x.attempt.username x.attempt.password v = (.ok f, r, now))

theorem candidateDate {source : Source} {config : Config} {world : World σ}
    (run : Run (.start source config world) history s) (found : s.pursuit? e = some x) {f : Entry}
    {r : Pool} {now : World σ} {patience : Nat}
    (tries : Pool.Tries x.attempt.username x.attempt.password patience x.pool s.world f r now) :
    lastCheckout? history f.connection = some f.lastUsedAt ∨
      lastCheckout? history f.connection = none ∧ f.lastUsedAt = now.clock ∧
        ∃ q v, Pool.openEntry q x.attempt.username x.attempt.password v = (.ok f, r, now) := by
  obtain ⟨time, pool⟩ := pursuitPool found
  have begun : Pool.Left s.world s.pool x.pool s.world := by
    rw [pool]
    exact ⟨Nat.le_refl _, fun _ => id, fun _ => id⟩
  obtain ⟨q, v, left, candidate⟩ := (Pool.drawing s.world s.pool x.attempt.username
    x.attempt.password).lastRound begun tries
  rcases Pool.candidateWays candidate with idle | opened | ⟨g, active, connection, date⟩
  · exact .inl (dated run f (List.mem_append_left _ (left.idle f idle)))
  · refine .inr ⟨?_, Pool.openEntryNow opened, q, v, opened⟩
    obtain ⟨_, connection, _⟩ := Pool.openEntryOk opened
    cases said : lastCheckout? history f.connection with
    | none => rfl
    | some time =>
      have known := (checkoutPast run said).1
      rw [connection] at known
      exact absurd known (Nat.not_lt.mpr left.since)
  · rw [connection, date]
    exact .inl (dated run g (List.mem_append_right _ (left.active g active)))

end State

/- How long a connection was out of use is seen only after the time that lapses until then, so that one
which was opened just now is tested too if the threshold is as low as that. -/
theorem handedOutFit {source : Source} {config : Config} {world : World σ}
    {history : List (Moment σ)} {s : State σ} (run : Run (.start source config world) history s)
    {e : Event σ} {x : Pursuit} {k : Entry} (granted : (Moment.mk s e).granted? = some (x, k)) :
    (Handle.new k).valid (s.step e).pool = true ∧
    (s.step e).world.isClosed k.connection = false ∧
    (∃ since now, s.world.Grows now ∧
      s.FoundGood history x k.connection since now (s.step e).world ∧
      (s.pool.config.pingEnabled = true →
        s.pool.config.pingThreshold.nanos < now.lapse.clock - since ∨
          (∃ m ∈ history, ∃ f ∈ m.state.pool.idle, f ∈ s.pool.idle ∧ f.connection = k.connection ∧
            s.pool.config.pingThreshold.nanos < now.lapse.clock - m.state.world.clock) →
        now.Recorded (s.step e).world ⟨.executeQuery k.connection s.pool.config.pingQuery [], false⟩)) ∧
    (((s.step e).world.session k.connection).autoCommit = false → ∃ calls,
      (s.step e).world.trace = s.world.trace ++ calls ++ [⟨.rollback k.connection, false⟩]) := by
  obtain ⟨found, q, later, result⟩ := State.grantedResume granted
  obtain ⟨f, r, now, tries, good, checkedOut⟩ := Pool.grantedTried result
  obtain ⟨growth, same⟩ := State.triedUnder (State.kept run) found tries
  obtain ⟨usable, pinged, rolled⟩ := Pool.examineOk good
  have next : (s.step e).world = later := by
    rw [State.stepPursuit found, result]
    rfl
  have connection : f.connection = k.connection := by
    cases checkedOut
    rfl
  have date := State.candidateDate run found tries
  have possible : s.Possible e := State.insidePossible (State.pursuitInside found)
  have valid := (State.kept (run.more e possible)).checkedOutValid (State.grantedEntry granted).2.1
  rw [same, connection] at pinged
  rw [connection] at usable rolled date
  rw [next]
  refine ⟨valid, usable, ⟨f.lastUsedAt, now, growth, ⟨f, r, connection, tries, good, date⟩,
    fun enabled idled => pinged enabled ?_⟩, fun off => ?_⟩
  · rcases idled with idled | ⟨m, member, g, wasIdle, idle, here, idled⟩
    · exact idled
    · -- its date is the one that it has borne since it became idle
      obtain ⟨past, before⟩ := run.earlier member
      have old := (State.checkoutPast before (State.dated before g (List.mem_append_left _ wasIdle))).2
      have still := State.dated run g (List.mem_append_left _ idle)
      rw [here] at still
      rcases date with date | ⟨never, _⟩
      · have same : g.lastUsedAt = f.lastUsedAt := Option.some.inj (still.symm.trans date)
        unfold Entry.unusedTime
        omega
      · rw [still] at never
        cases never
  · obtain ⟨calls, trace⟩ := rolled off
    obtain ⟨before, grown⟩ := growth.trace
    exact ⟨before ++ calls, by rw [trace, ← grown, List.append_assoc s.world.trace]⟩

theorem foundNew {history : List (Moment Scenario.Plan)} {s : State Scenario.Plan} {x : Pursuit}
    {c since : Nat} {now later : World Scenario.Plan}
    (found : s.FoundGood history x c since now later) (never : lastCheckout? history c = none) :
    now.lapse.clock - since = later.conditions.lapse := by
  obtain ⟨f, r, _, _, good, date⟩ := found
  have steady := World.steadyLaw.examine r f now
  simp only [good] at steady
  rcases date with date | ⟨_, rfl, _⟩
  · rw [never] at date
    cases date
  · rw [steady]
    exact Nat.add_sub_cancel_left _ _

def unhurried : Event Scenario.Plan := .meanwhile 0 ⟨[], [], 1⟩

def rested : List (Event Scenario.Plan) :=
  [.acquireDefault, .use 0 (.setAutoCommit false), .giveBack 0, .meanwhile 1 .undisturbed]

theorem restedRun : Run State.testing (State.testing.history rested) (State.testing.after rested) :=
  State.testing.run (List.forall_mem_cons.mpr ⟨fun _ => trivial, List.forall_mem_cons.mpr
    ⟨fun _ => trivial, List.forall_mem_cons.mpr ⟨fun _ => trivial, List.forall_mem_cons.mpr
      ⟨fun t => t.meanwhilePossible _ _, by simp⟩⟩⟩⟩)

theorem handedOutFitTested :
    (let s := State.testing.step unhurried
      ∃ r ∈ (Moment.mk s .acquireDefault).granted?, r.2.connection = 0 ∧
        s.world.Recorded (s.step .acquireDefault).world ⟨.executeQuery 0 "SELECT 1" [], false⟩) ∧
    let s := State.testing.after rested
    let t := s.step .acquireDefault
    ∃ r ∈ (Moment.mk s .acquireDefault).granted?, r.2.connection = 0 ∧ t.world.isClosed 0 = false ∧
      s.world.Recorded t.world ⟨.executeQuery 0 "SELECT 1" [], false⟩ ∧
      ∃ calls, t.world.trace = s.world.trace ++ calls ++ [⟨.rollback 0, false⟩] := by
  constructor
  -- a connection that was never checked out is tested as soon as any time has passed
  · intro s
    have run : Run State.testing [⟨State.testing, unhurried⟩] s :=
      Run.none.more unhurried (State.meanwhilePossible _ _ _)
    have facts : (Moment.mk s .acquireDefault).granted?.isSome ∧
        (∀ r ∈ (Moment.mk s .acquireDefault).granted?, r.2.connection = 0) ∧
        lastCheckout? [⟨State.testing, unhurried⟩] 0 = none ∧
        s.pool.config = State.testing.pool.config ∧
        (s.step .acquireDefault).world.conditions.lapse = 1 := by decide +kernel
    obtain ⟨some, same, never, tests, lapsed⟩ := facts
    obtain ⟨⟨x, k⟩, granted⟩ := Option.isSome_iff_exists.mp some
    have same : k.connection = 0 := same _ granted
    obtain ⟨_, _, ⟨since, now, growth, found, pinged⟩, _⟩ := handedOutFit run granted
    rw [same, tests] at pinged
    rw [same] at found
    have waited : State.testing.pool.config.pingThreshold.nanos < now.lapse.clock - since := by
      rw [foundNew found never, lapsed]
      decide
    exact ⟨(x, k), granted, same, (pinged rfl (.inl waited)).earlier growth⟩
  -- one that was given back is tested if it was idle for longer than the threshold
  · intro s t
    have facts : (Moment.mk s .acquireDefault).granted?.isSome ∧
        (∀ r ∈ (Moment.mk s .acquireDefault).granted?, r.2.connection = 0) ∧
        (∃ f ∈ s.pool.idle, f.connection = 0 ∧
          f ∈ (State.testing.after (rested.take 3)).pool.idle) ∧
        (State.testing.after (rested.take 3)).world.clock < s.world.clock ∧
        s.pool.config = State.testing.pool.config ∧ (t.world.session 0).autoCommit = false := by
      decide +kernel
    obtain ⟨some, same, ⟨f, idle, connection, wasIdle⟩, later, tests, off⟩ := facts
    obtain ⟨⟨x, k⟩, granted⟩ := Option.isSome_iff_exists.mp some
    have same : k.connection = 0 := same _ granted
    obtain ⟨_, usable, ⟨since, now, growth, _, pinged⟩, rolled⟩ := handedOutFit restedRun granted
    rw [same] at usable rolled
    rw [same, tests] at pinged
    have waited : State.testing.pool.config.pingThreshold.nanos <
        now.lapse.clock - (State.testing.after (rested.take 3)).world.clock := by
      have onward := growth.trans (World.calledLaw.lapse now).grows
      exact Nat.sub_pos_of_lt (Nat.lt_of_lt_of_le later onward.clock)
    have pinged := pinged rfl
      (.inr ⟨⟨State.testing.after (rested.take 3), .meanwhile 1 .undisturbed⟩,
        List.mem_cons_of_mem _ (List.mem_cons_of_mem _ (List.mem_cons_of_mem _ List.mem_cons_self)),
        f, wasIdle, idle, connection, waited⟩)
    exact ⟨(x, k), granted, same, usable, pinged.earlier growth, rolled off⟩

end Traffic
end ConnectionPool
