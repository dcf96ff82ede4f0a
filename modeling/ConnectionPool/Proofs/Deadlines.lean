import ConnectionPool.Proofs.Progress
import ConnectionPool.Proofs.Selection

/-! The deadline of an acquire. It is looked at only when there is nothing to try, just before a wait would
begin, and the time that is left is reckoned anew for each wait. So an acquire whose deadline has passed
still gets what can be had without a wait. -/
namespace ConnectionPool

namespace Pool

theorem waitBounded {wait now moment : Nat} {limit : Option Nat}
    (lasts : waitLimit wait (some moment) now = .ok limit) :
    now < moment ∧ ∃ l, limit = some l ∧ 0 < l ∧ l ≤ moment - now ∧ (wait ≠ 0 → l ≤ wait) := by
  unfold waitLimit at lasts
  dsimp only at lasts
  split at lasts
  · cases lasts
  · rename_i early
    have before : now < moment := Nat.not_le.mp early
    cases lasts
    refine ⟨before, _, rfl, ?_⟩
    split <;> omega

theorem waitRefused {wait now : Nat} {deadline : Option Nat} {x : Error}
    (late : waitLimit wait deadline now = .error x) :
    x = .deadlinePassed ∧ ∃ moment, deadline = some moment ∧ moment ≤ now := by
  unfold waitLimit at late
  split at late
  · cases late
  · split at late
    · rename_i moment reached
      cases late
      exact ⟨rfl, moment, rfl, reached⟩
    · cases late

variable {σ : Type} [Conditions σ] {username password : Option String} {p q r : Pool}
  {w now after later : World σ} {a : Attempt} {e : Entry} {patience : Nat} {text : String}

structure Expires (a : Attempt) (p : Pool) (w : World σ) (q : Pool) (later : World σ) : Prop where
  pool : q = p.countWait a
  world : later = w
  going : p.shutDown = false
  saturated : p.Saturated
  young : ∀ f ∈ p.active.head?, f.checkoutTime w.clock ≤ p.config.maxCheckout.nanos
  reached : ∃ moment, a.deadline = some moment ∧ moment ≤ w.clock

theorem timeoutRound (h : p.pursue patience a w = (.failed (.timeout text), q, later)) :
    .timeout text = Error.deadlinePassed ∧ Expires a p w q later ∨
    p.shutDown = false ∧
      (p.idle = [] ∧ p.active.length < p.config.maxActive.toNat ∧
          p.source.Fails a.username a.password w (.timeout text) ∨
        ∃ e r now after n, p.candidate a.username a.password w = (.ok (some e), r, now) ∧
          r.examine e now = (false, after) ∧ patience = n + 1 ∧
          (r.discard e after).1.countBad.pursue n { a with bad := a.bad + 1 } (r.discard e after).2 =
            (.failed (.timeout text), q, later)) := by
  have going := pursueGoing h nofun
  cases found : p.candidate a.username a.password w with
  | mk c rest =>
    obtain ⟨r, now⟩ := rest
    have sought := candidateSought found
    rcases c with x | none | e
    · rw [pursue.eq_def, going, if_neg Bool.false_ne_true, found] at h
      cases h
      cases sought with
      | unopened idle room failed =>
        exact .inr ⟨going, .inl ⟨idle, room, openEntryFails.mp ⟨_, _, failed⟩⟩⟩
    · rw [pursue.eq_def, going, if_neg Bool.false_ne_true, found] at h
      cases sought with
      | nothing saturated young =>
        dsimp only at h
        split at h
        · rename_i late
          obtain ⟨error, reached⟩ := waitRefused late
          cases h
          exact .inl ⟨error, rfl, rfl, going, saturated, young, reached⟩
        · cases h
    · cases examined : r.examine e now with
      | mk good after =>
        cases good with
        | true =>
          rw [pursueGood going found examined] at h
          cases h
        | false =>
          rw [pursueBad going found examined] at h
          cases patience with
          | zero => cases h
          | succ n => exact .inr ⟨going, .inr ⟨e, r, now, after, n, rfl, examined, rfl, h⟩⟩

/- Once it has met a bad entry an acquire could open a connection, so that it does not end at its
deadline. -/
theorem pursueTimeout (h : p.pursue patience a w = (.failed (.timeout text), q, later))
    (fits : p.idle.length + p.active.length ≤ p.config.maxActive.toNat) :
    .timeout text = Error.deadlinePassed ∧ Expires a p w q later ∨
    ∃ bad r v, Rounds a.username a.password p w bad r v ∧ bad.length ≤ patience ∧ r.shutDown = false ∧
      r.idle = [] ∧ r.active.length < r.config.maxActive.toNat ∧
      r.source.Fails a.username a.password v (.timeout text) := by
  induction patience generalizing a p w with
  | zero =>
    rcases timeoutRound h with expires | ⟨going, ⟨idle, room, fails⟩ | ⟨_, _, _, _, n, _, _, more, _⟩⟩
    · exact .inl expires
    · exact .inr ⟨[], p, w, .none, Nat.zero_le _, going, idle, room, fails⟩
    · cases more
  | succ patience ih =>
    rcases timeoutRound h with expires | ⟨going, ⟨idle, room, fails⟩ |
      ⟨e, r, now, after, n, found, failed, more, h⟩⟩
    · exact .inl expires
    · exact .inr ⟨[], p, w, .none, Nat.zero_le _, going, idle, room, fails⟩
    · cases more
      obtain ⟨_, _, met⟩ := (candidateSought found).took fits
      have room := (met.countBad e).room (List.cons_ne_nil _ _)
      rcases ih h (Nat.le_of_lt room) with ⟨_, expires⟩ | ⟨bad, s, v, rounds, few, rest⟩
      · have full := expires.saturated.2
        exact absurd (Nat.lt_of_le_of_lt (Nat.le_add_left _ _) room) (Nat.not_lt.mpr full)
      · exact .inr ⟨e :: bad, s, v, .more going found failed rounds, Nat.succ_le_succ few, rest⟩

theorem Sought.candidate {c : Except Error (Option Entry)} (h : Sought username password p w c q later) :
    p.candidate username password w = (c, q, later) := by
  cases h with
  | reused idle => rw [Pool.candidate, idle]
  | opened idle room opened => rw [candidateOpens idle room, opened]
  | unopened idle room failed => rw [candidateOpens idle room, failed]
  | takenOver saturated active overdue taken =>
    unfold Pool.candidate
    rw [saturated.1]
    dsimp only
    rw [if_neg (Nat.not_lt.mpr saturated.2), active]
    dsimp only
    rw [if_neg (Nat.not_le.mpr overdue), taken]
  | nothing saturated young =>
    unfold Pool.candidate
    rw [saturated.1]
    dsimp only
    rw [if_neg (Nat.not_lt.mpr saturated.2)]
    split
    · rfl
    · rename_i oldest rest active
      exact if_pos (young oldest (by rw [active]; rfl))

end Pool

namespace Traffic

variable {σ : Type} [Conditions σ]

structure Waiter.Within (y : Waiter) (wait d : Nat) : Prop where
  before : y.since < d
  limit : ∃ l, y.limit = some l ∧ 0 < l ∧ l ≤ d - y.since ∧ (wait ≠ 0 → l ≤ wait)

theorem Waiter.Within.ends {y : Waiter} {wait d : Nat} (h : y.Within wait d) :
    ∃ l, y.limit = some l ∧ y.since + l ≤ d := by
  have before := h.before
  obtain ⟨l, limit, _, within, _⟩ := h.limit
  exact ⟨l, limit, by omega⟩

def Moment.Refused (m : Moment σ) (x : Pursuit) (error : Error) : Prop :=
  ∃ p w, m.Looks x p w ∧ p.idle = [] ∧ p.active.length < p.config.maxActive.toNat ∧
    p.source.Fails x.attempt.username x.attempt.password w error

namespace State

variable {s : State σ} {e : Event σ} {x y : Pursuit} {m : Moment σ} {history : List (Moment σ)}
  {source : Source} {config : Config} {world : World σ} {d : Nat}

theorem pursuitDeadline {n : Nat} {deadline : Option Nat} (begun : n < s.acquires)
    (asked : ∀ z ∈ s.waiters, z.number = n → z.attempt.deadline = deadline)
    (found : s.pursuit? e = some x) (same : x.number = n) : x.attempt.deadline = deadline := by
  rcases pursuitNumber found with ⟨new, _⟩ | ⟨z, waits, number, attempt⟩
  · exact absurd (same.symm.trans new) (Nat.ne_of_lt begun)
  · rw [← attempt]
    exact asked z waits (number.trans same)

theorem deadlineStays (run : Run (.start source config world) history s) (member : m ∈ history)
    (found : m.state.pursuit? m.event = some y) : y.number < s.acquires ∧
      ∀ z ∈ s.waiters, z.number = y.number → z.attempt.deadline = y.attempt.deadline := by
  induction run with
  | none => cases member
  | @more history s before e possible ih =>
    rcases List.mem_append.mp member with earlier | latest
    · obtain ⟨begun, asked⟩ := ih earlier
      refine ⟨Nat.lt_of_lt_of_le begun (acquiresGrow possible), fun z waits same => ?_⟩
      cases pursued : s.pursuit? e with
      | none => exact asked z (quietWaiters possible pursued ▸ waits) same
      | some x =>
        rcases pursuitWaiters pursued waits with old | ⟨number, _, result⟩
        · exact asked z (enterWaiters old) same
        · rw [(Pool.pursueWaits result (pursuitFits before pursued)).attempt]
          exact pursuitDeadline begun asked pursued (number.symm.trans same)
    · cases List.mem_singleton.mp latest
      refine ⟨pursuitBegun before found, fun z waits same => ?_⟩
      rcases pursuitWaiters found waits with old | ⟨_, _, result⟩
      · exact absurd same (enterWithout before found old)
      · rw [(Pool.pursueWaits result (pursuitFits before found)).attempt]

theorem deadlineCalled (run : Run (.start source config world) history s) {t : State σ}
    {username password : Option String} {d : Nat}
    (called : ⟨t, .acquire username password (some d)⟩ ∈ history ++ [⟨s, e⟩])
    (found : s.pursuit? e = some x) (same : x.number = t.acquires) :
    x.attempt.deadline = some d := by
  rcases List.mem_append.mp called with earlier | latest
  · obtain ⟨begun, asked⟩ := deadlineStays run earlier rfl
    exact pursuitDeadline begun asked found same
  · cases List.mem_singleton.mp latest
    cases found
    rfl

theorem timeoutCause (run : Run (.start source config world) history s) {text : String}
    (failed : (Moment.mk s e).failed? = some (x, .timeout text)) :
    (.timeout text = Error.deadlinePassed ∧
      Pool.Expires x.attempt x.pool s.world (s.step e).pool (s.step e).world) ∨
    (Moment.mk s e).Refused x (.timeout text) := by
  obtain ⟨found, failed⟩ := failedIff.mp failed
  have next : (s.step e).pool = (x.pool.resume x.attempt s.world).2.1 ∧
      (s.step e).world = (x.pool.resume x.attempt s.world).2.2 := by
    rw [stepPursuit found]
    exact settlePool _ _ _
  rw [next.1, next.2]
  rcases Pool.pursueTimeout (Prod.ext failed rfl) (pursuitFits run found) with
    expires | ⟨bad, r, v, rounds, few, going, rest⟩
  · exact .inl expires
  · exact .inr ⟨r, v, ⟨going, bad, rounds, few⟩, rest⟩

end State

/- An acquire that was called with a deadline fails with a timeout of its own only once that has passed.
The timeout of a driver that does not open a connection is passed on as any other error. -/
theorem deadlineKept {source : Source} {config : Config} {world : World σ}
    {history : List (Moment σ)} {s t : State σ} (run : Run (.start source config world) history s)
    {e : Event σ} {x : Pursuit} {username password : Option String} {d : Nat}
    (called : ⟨t, .acquire username password (some d)⟩ ∈ history ++ [⟨s, e⟩])
    (found : s.pursuit? e = some x) (same : x.number = t.acquires) :
    (∀ y ∈ (s.step e).waiters, y.number = x.number →
      y.since = s.world.clock ∧ y.Within s.pool.config.wait.nanos d) ∧
    (∀ text, (Moment.mk s e).failed? = some (x, .timeout text) →
      (.timeout text = Error.deadlinePassed ∧ (s.step e).world = s.world ∧ d ≤ s.world.clock ∧
        s.pool.shutDown = false ∧ s.pool.Exhausted s.world.clock) ∨
      (Moment.mk s e).Refused x (.timeout text)) ∧
    (d ≤ s.world.clock →
      (∀ y ∈ (s.step e).waiters, y.number ≠ x.number) ∧ (Moment.mk s e).Settles x) ∧
    ∀ k q now later, s.pool.shutDown = false →
      Pool.Sought x.attempt.username x.attempt.password x.pool s.world (.ok (some k)) q now →
      q.examine k now = (true, later) →
      (Moment.mk s e).granted? = some (x, (q.checkOut k x.attempt later.clock).1) := by
  have deadline := State.deadlineCalled run called found same
  have fits := State.pursuitFits run found
  obtain ⟨time, pool⟩ := State.pursuitPool found
  have waits (y : Waiter) (member : y ∈ (s.step e).waiters) (number : y.number = x.number) :
      y.since = s.world.clock ∧ y.Within s.pool.config.wait.nanos d := by
    rcases State.pursuitWaiters found member with old | ⟨_, _, result⟩
    · exact absurd number (State.enterWithout run found old)
    · have waits := Pool.pursueWaits result fits
      have lasts := waits.lasts
      rw [deadline, ← waits.since, pool] at lasts
      obtain ⟨before, limit⟩ := Pool.waitBounded lasts
      exact ⟨waits.since, before, limit⟩
  refine ⟨waits, fun text failed => ?_, fun passed => ?_, fun k q now later going sought good => ?_⟩
  · rcases State.timeoutCause run failed with ⟨error, expires⟩ | refused
    · obtain ⟨moment, same, reached⟩ := expires.reached
      have saturated := expires.saturated
      have young := expires.young
      have going := expires.going
      cases deadline.symm.trans same
      rw [pool] at saturated young fits going
      exact .inl ⟨error, expires.world, reached, going,
        (State.ordered run).exhausted saturated fits young⟩
    · exact .inr refused
  · have never (y : Waiter) (member : y ∈ (s.step e).waiters) : y.number ≠ x.number := fun number => by
      obtain ⟨since, within⟩ := waits y member number
      exact absurd (since ▸ within.before) (Nat.not_lt.mpr passed)
    refine ⟨never, ?_⟩
    rcases State.pursuitSettles run found with settles | ⟨y, there, _⟩
    · exact settles
    · have number := List.find?_some there
      exact absurd (beq_iff_eq.mp number) (never y (List.mem_of_find?_eq_some there))
  · have running : x.pool.shutDown = false := pool ▸ going
    have granted : x.pool.resume x.attempt s.world = _ :=
      Pool.pursueGood running sought.candidate good
    exact State.grantedIff.mpr ⟨found, congrArg Prod.fst granted⟩

def belated : List (Event Scenario.Plan) :=
  [.acquireDefault, .acquire none none (some 50000000), .meanwhile 60000000 .undisturbed]

theorem deadlineKeptBelated :
    let t := State.small.after [.acquireDefault]
    let s := State.small.after belated
    (∃ y ∈ (t.step (.acquire none none (some 50000000))).waiters,
      ∃ l, y.limit = some l ∧ y.since + l ≤ 50000000) ∧
    ∃ x, (Moment.mk s (.wake 1)).failed? = some (x, .deadlinePassed) ∧
      ∀ y ∈ (s.step (.wake 1)).waiters, y.number ≠ x.number := by
  intro t s
  have begun : Run State.small (State.small.history [.acquireDefault]) t :=
    State.small.run (by simp [State.Possible])
  have run : Run State.small (State.small.history belated) s :=
    State.small.run (List.forall_mem_cons.mpr ⟨fun _ => trivial, List.forall_mem_cons.mpr
      ⟨fun _ => trivial, List.forall_mem_cons.mpr ⟨fun t => t.meanwhilePossible _ _, by simp⟩⟩⟩)
  have waits : ∃ y ∈ (t.step (.acquire none none (some 50000000))).waiters, y.number = t.acquires := by
    decide +kernel
  obtain ⟨⟨x, error⟩, failed⟩ := Option.isSome_iff_exists.mp
    (by decide +kernel : (Moment.mk s (.wake 1)).failed?.isSome)
  have facts : (∀ r ∈ (Moment.mk s (.wake 1)).failed?, r.1.number = t.acquires ∧
      r.2 = .deadlinePassed) ∧ 50000000 ≤ s.world.clock := by decide +kernel
  obtain ⟨number, late⟩ := facts.1 _ failed
  cases late
  refine ⟨?_, x, failed, ?_⟩
  · obtain ⟨y, member, same⟩ := waits
    have called : ⟨t, .acquire none none (some 50000000)⟩ ∈
        State.small.history [.acquireDefault] ++ [⟨t, .acquire none none (some 50000000)⟩] :=
      List.mem_append_right _ List.mem_cons_self
    have law := deadlineKept begun called rfl rfl
    exact ⟨y, member, (law.1 y member same).2.ends⟩
  · have called : ⟨t, .acquire none none (some 50000000)⟩ ∈
        State.small.history belated ++ [⟨s, .wake 1⟩] :=
      List.mem_append_left _ (List.mem_cons_of_mem _ List.mem_cons_self)
    have law := deadlineKept run called (State.failedIff.mp failed).1 number
    exact (law.2.2.1 facts.2).1

def unanswered : Event Scenario.Plan :=
  .meanwhile 1 ⟨[(⟨none, .connect⟩, ⟨.timeout "no answer", none⟩)], [], 0⟩

/- An acquire passes on the timeout of the driver long before its deadline, while there is room. -/
theorem timeoutOfDriver : ∃ history s x, Run State.small history s ∧
    (Moment.mk s (.acquire none none (some 50000000))).failed? = some (x, .timeout "no answer") ∧
    s.world.clock < 50000000 ∧ ¬s.pool.Saturated := by
  have run : Run State.small [⟨State.small, unanswered⟩] (State.small.step unanswered) :=
    Run.none.more unanswered (State.meanwhilePossible _ _ _)
  let m := Moment.mk (State.small.step unanswered) (.acquire none none (some 50000000))
  obtain ⟨⟨x, error⟩, failed⟩ := Option.isSome_iff_exists.mp (by decide +kernel : m.failed?.isSome)
  have reason : ∀ r ∈ m.failed?, r.2 = .timeout "no answer" := by decide +kernel
  cases reason _ failed
  exact ⟨_, _, x, run, failed, by decide +kernel, by decide +kernel⟩

end Traffic
end ConnectionPool
