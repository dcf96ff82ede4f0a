import ConnectionPool.Proofs.Failures

/-! That an acquire ends. While others act on the pool nothing can be said, as they may take whatever is
given back; but once they do no more, each wait that runs out brings the acquire closer to its deadline
or to the moment at which the oldest checkout is overdue. A wait without a time limit is one for a signal
only, which may never come. -/
namespace ConnectionPool

theorem Config.waitZero {c : Config} : c.wait.nanos = 0 ↔ c.waitMillis = 0 := by
  rw [← UInt64.toNat_inj]
  change c.waitMillis.toNat * 1000000 = 0 ↔ c.waitMillis.toNat = 0
  omega

namespace Pool

variable {σ : Type} {wait now : Nat} {deadline limit : Option Nat}

/-- The last moment at which an acquire can begin to wait: before its deadline, or up to which the oldest
checkout is not overdue. -/
def horizon (p : Pool) (a : Attempt) : Nat :=
  match a.deadline, p.active with
  | some moment, _ => moment
  | none, [] => 0
  | none, oldest :: _ => oldest.checkoutAt + p.config.maxCheckout.nanos

theorem waitLimited (lasts : waitLimit wait deadline now = .ok limit)
    (ends : deadline ≠ none ∨ 0 < wait) : ∃ l, limit = some l ∧ 0 < l := by
  unfold waitLimit at lasts
  split at lasts
  · have waits : 0 < wait := ends.resolve_left (absurd rfl)
    rw [if_neg (Nat.ne_of_gt waits)] at lasts
    cases lasts
    exact ⟨wait, rfl, waits⟩
  · split at lasts
    · cases lasts
    · cases lasts
      refine ⟨_, rfl, ?_⟩
      split <;> omega

theorem waitUnlimited (lasts : waitLimit wait deadline now = .ok none) : deadline = none ∧ wait = 0 := by
  by_contra ends
  have ends : deadline ≠ none ∨ 0 < wait := by
    rw [not_and_or] at ends
    exact ends.imp_right Nat.pos_of_ne_zero
  obtain ⟨l, some, _⟩ := waitLimited lasts ends
  cases some

theorem Waits.withinHorizon {a b : Attempt} {p q : Pool} {w later : World σ} {since : Nat}
    (h : Waits a p w b since limit q later) (one : 1 ≤ p.config.maxActive.toNat) :
    since ≤ p.horizon a := by
  have lasts := h.lasts
  rw [h.since]
  cases deadline : a.deadline with
  | some moment =>
    simp only [horizon, deadline]
    rw [deadline, waitLimit] at lasts
    split at lasts
    · cases lasts
    · omega
  | none =>
    have full := h.saturated.2
    have young := h.young
    cases active : p.active with
    | nil =>
      rw [active, List.length_nil] at full
      omega
    | cons oldest rest =>
      simp only [horizon, deadline, active]
      rw [active] at young
      have young := young oldest rfl
      unfold Entry.checkoutTime at young
      omega

end Pool

namespace Traffic

variable {σ : Type} [Conditions σ]

def Moment.Settles (m : Moment σ) (x : Pursuit) : Prop :=
  (∃ k, m.granted? = some (x, k)) ∨ ∃ error, m.failed? = some (x, error)

namespace State

variable {s t : State σ} {e : Event σ} {x : Pursuit} {y : Waiter} {n : Nat} {history : List (Moment σ)}
  {source : Source} {config : Config} {world : World σ}

theorem pursuitSettles (run : Run (.start source config world) history s)
    (found : s.pursuit? e = some x) : (Moment.mk s e).Settles x ∨
      ∃ y, (s.step e).waiter? x.number = some y ∧ y.heard = (s.step e).pool.signals ∧
        Pool.Waits x.attempt x.pool s.world y.attempt y.since y.limit (s.step e).pool
          (s.step e).world := by
  cases result : x.pool.resume x.attempt s.world with
  | mk o rest =>
    obtain ⟨q, later⟩ := rest
    cases o with
    | granted k => exact .inl (.inl ⟨k, grantedIff.mpr ⟨found, congrArg Prod.fst result⟩⟩)
    | failed error => exact .inl (.inr ⟨error, failedIff.mpr ⟨found, congrArg Prod.fst result⟩⟩)
    | waiting b since limit =>
      have absent : (s.enter e).waiters.find? (·.number == x.number) = none :=
        List.find?_eq_none.mpr fun z member => by simpa using enterWithout run found member
      rw [stepPursuit found, result]
      refine .inr ⟨⟨x.number, b, since, limit, q.signals⟩, ?_, rfl,
        Pool.pursueWaits result (pursuitFits run found)⟩
      change ((s.enter e).waiters ++ [_]).find? _ = _
      rw [List.find?_append, absent]
      simp

omit [Conditions σ] in
theorem wakeFound (waits : s.waiter? n = some y) : ∃ time,
    s.pursuit? (.wake n) = some ⟨n, y.attempt, { s.pool with tally.waitTime := time }⟩ := by
  rw [pursuit?, waits]
  exact ⟨_, rfl⟩

theorem waiterStays (possible : s.Possible e) (waits : s.waiter? n = some y) (other : e ≠ .wake n) :
    (s.step e).waiter? n = some y := by
  cases found : s.pursuit? e with
  | none => rw [waiter?, quietWaiters possible found]; exact waits
  | some x =>
    have entered : (s.enter e).waiter? n = some y := by
      cases e with
      | wake m =>
        have apart : n ≠ m := fun same => other (same ▸ rfl)
        rw [← waits]
        simp only [enter, withoutWaiter, waiter?, List.find?_filter]
        congr 1
        funext z
        by_cases same : z.number = n <;> simp [same, apart]
      | _ => exact waits
    rw [stepPursuit found]
    cases result : x.pool.resume x.attempt s.world with
    | mk o rest =>
      cases o with
      | granted => exact entered
      | failed => exact entered
      | waiting =>
        change ((s.enter e).waiters ++ [_]).find? _ = _
        rw [List.find?_append, show (s.enter e).waiters.find? (·.number == n) = some y from entered]
        rfl

theorem waitStays (run : Run (.start source config world) history s) (possible : s.Possible e)
    (silent : (s.step e).pool.signals = s.pool.signals) :
    (s.step e).pool.config.wait = s.pool.config.wait := by
  have course := s.course e possible
  generalize next : s.step e = t at course silent
  cases course with
  | pursued x found =>
    rw [← next, (pursuitBounded (boundedRun run).1 found).config]
  | called => rfl
  | returned found =>
    dsimp only [Handle.giveBack]
    split
    · rfl
    · exact congrArg Config.wait (s.pool.releaseTarget _ s.world).1
  | emptied change _ _ keeps =>
    obtain ⟨_, _, _, _, signals⟩ := keeps s.pool
    obtain ⟨_, pool⟩ := s.pool.reconfigurePool change s.world
    have more : (s.pool.reconfigure change s.world).1.signals = s.pool.signals := silent
    rw [pool, ← signals] at more
    exact absurd more (Nat.succ_ne_self _)
  | tolerated => rfl
  | outside => rfl

theorem unlimited (run : Run (.start source config world) history s) (member : y ∈ s.waiters)
    (forever : y.limit = none) : y.attempt.deadline = none ∧
      (y.heard = s.pool.signals → s.pool.config.wait.nanos = 0) := by
  induction run generalizing y with
  | none => cases member
  | @more history s before e possible ih =>
    have old (there : y ∈ s.waiters) : y.attempt.deadline = none ∧
        (y.heard = (s.step e).pool.signals → (s.step e).pool.config.wait.nanos = 0) := by
      obtain ⟨timeless, zero⟩ := ih there forever
      refine ⟨timeless, fun silent => ?_⟩
      have since := Nat.le_antisymm (unheard before there).1
        (silent ▸ signalsGrow (State.kept before) possible)
      rw [waitStays before possible (silent.symm.trans since)]
      exact zero since
    cases found : s.pursuit? e with
    | none => exact old (quietWaiters possible found ▸ member)
    | some x =>
      rcases pursuitWaiters found member with there | ⟨_, _, result⟩
      · exact old (enterWaiters there)
      · have waits := Pool.pursueWaits result (pursuitFits before found)
        have lasts := waits.lasts
        rw [forever] at lasts
        obtain ⟨timeless, zero⟩ := Pool.waitUnlimited lasts
        rw [waits.attempt, (pursuitBounded (boundedRun before).1 found).config]
        obtain ⟨time, pool⟩ := pursuitPool found
        rw [pool] at zero
        exact ⟨timeless, fun _ => zero⟩

end State

structure Endless (first : State σ) where
  event : Nat → Event σ
  state : Nat → State σ
  begins : state 0 = first
  goes : ∀ i, state (i + 1) = (state i).step (event i)
  possible : ∀ i, (state i).Possible (event i)

namespace Endless

variable {first : State σ} (r : Endless first)

def moment (i : Nat) : Moment σ := ⟨r.state i, r.event i⟩

theorem run (i : Nat) : ∃ history, Run first history (r.state i) := by
  induction i with
  | zero =>
    rw [r.begins]
    exact ⟨[], .none⟩
  | succ i ih =>
    obtain ⟨history, before⟩ := ih
    rw [r.goes i]
    exact ⟨_, before.more (r.event i) (r.possible i)⟩

structure Timely (n k : Nat) : Prop where
  early : ∀ i y, k ≤ i → (r.state i).waiter? n = some y → r.event i = .wake n →
    y.heard ≠ (r.state i).pool.signals ∨
      ∃ l, y.limit = some l ∧ y.since + l ≤ (r.state i).world.clock
  late : ∀ i y, k ≤ i → (r.state i).waiter? n = some y →
    y.heard ≠ (r.state i).pool.signals ∨ y.limit ≠ none → ∃ j, i ≤ j ∧ r.event j = .wake n

def Alone (n k : Nat) : Prop := ∀ i, k ≤ i → (r.state i).waiter? n ≠ none →
  r.event i = .wake n ∨ ∃ change, r.event i = .outside change

def Settles (n i : Nat) : Prop := ∃ x, x.number = n ∧ (r.moment i).Settles x

variable {source : Source} {config : Config} {world : World σ}
  {r : Endless (State.start source config world)} {n k i j : Nat} {y : Waiter}

theorem nextWake (alone : r.Alone n k) (after : k ≤ i) (waits : (r.state i).waiter? n = some y)
    (from_ : i ≤ j) (woken : r.event j = .wake n) :
    ∃ j, i ≤ j ∧ r.event j = .wake n ∧ (r.state j).waiter? n = some y ∧
      (r.state j).pool = (r.state i).pool ∧ (r.state i).world.clock ≤ (r.state j).world.clock := by
  obtain ⟨d, gap⟩ := Nat.exists_eq_add_of_le from_
  induction d generalizing i with
  | zero => exact ⟨j, from_, woken, gap ▸ waits, gap ▸ rfl, gap ▸ Nat.le_refl _⟩
  | succ d ih =>
    rcases alone i after (by simp [waits]) with now | ⟨change, quiet⟩
    · exact ⟨i, Nat.le_refl _, now, waits, rfl, Nat.le_refl _⟩
    · have passes := r.possible i
      have next := r.goes i
      rw [quiet] at passes next
      have still : (r.state (i + 1)).waiter? n = some y := by
        rw [next]
        exact waits
      obtain ⟨l, since, now, there, pool, clock⟩ :=
        ih (Nat.le_succ_of_le after) still (by omega) (by omega)
      rw [next] at pool clock
      exact ⟨l, Nat.le_of_succ_le since, now, there, pool, Nat.le_trans passes.clock clock⟩

structure Again (r : Endless (State.start source config world)) (n i : Nat) (y z : Waiter) : Prop where
  there : (r.state (i + 1)).waiter? n = some z
  heard : z.heard = (r.state (i + 1)).pool.signals
  deadline : z.attempt.deadline = y.attempt.deadline
  since : z.since = (r.state i).world.clock
  within : z.since ≤ (r.state i).pool.horizon y.attempt
  lasts : Pool.waitLimit (r.state i).pool.config.wait.nanos y.attempt.deadline z.since = .ok z.limit
  active : (r.state (i + 1)).pool.active = (r.state i).pool.active
  config : (r.state (i + 1)).pool.config = (r.state i).pool.config

theorem wokenSettles (woken : r.event i = .wake n) (waits : (r.state i).waiter? n = some y) :
    r.Settles n i ∨ ∃ z, Again r n i y z := by
  obtain ⟨history, run⟩ := r.run i
  obtain ⟨time, found⟩ := State.wakeFound waits
  rw [← woken] at found
  rcases State.pursuitSettles run found with settles | ⟨z, there, heard, again⟩
  · exact .inl ⟨_, rfl, settles⟩
  · rw [← r.goes i] at there heard again
    obtain ⟨count, pool⟩ := Pool.countWaitPool { (r.state i).pool with tally.waitTime := time } y.attempt
    have same := again.pool.trans pool
    have lasts := again.lasts
    rw [← again.since] at lasts
    exact .inr ⟨z, there, heard, by rw [again.attempt], again.since,
      again.withinHorizon (State.boundedRun run).2, lasts, same ▸ rfl, same ▸ rfl⟩

theorem Again.horizon {z : Waiter} (h : Again r n i y z) :
    (r.state (i + 1)).pool.horizon z.attempt = (r.state i).pool.horizon y.attempt := by
  unfold Pool.horizon
  rw [h.deadline, h.active, h.config]

def Limited (r : Endless (State.start source config world)) (i : Nat) (y : Waiter) : Prop :=
  y.attempt.deadline ≠ none ∨ (r.state i).pool.config.waitMillis ≠ 0

theorem Again.limited {z : Waiter} (h : Again r n i y z) (limited : r.Limited i y) :
    r.Limited (i + 1) z ∧ ∃ l, z.limit = some l ∧ 0 < l := by
  refine ⟨?_, Pool.waitLimited h.lasts ?_⟩
  · rw [Limited, h.deadline, h.config]
    exact limited
  · exact limited.imp_right fun some => Nat.pos_of_ne_zero (mt Config.waitZero.mp some)

/- Nobody signals an acquire that is alone, so that each wait ends at its limit, and the next one begins later.
How far it can get is known. -/
theorem countdown (timely : r.Timely n k) (alone : r.Alone n k) (after : k ≤ i)
    (waits : (r.state i).waiter? n = some y) (heard : y.heard = (r.state i).pool.signals) {l : Nat}
    (limit : y.limit = some l) (lasts : 0 < l) (limited : r.Limited i y) :
    ∃ j, i ≤ j ∧ r.Settles n j := by
  -- the horizon stays where it is, so that less is left of it after each wait
  generalize left : (r.state i).pool.horizon y.attempt - y.since = m
  induction m using Nat.strong_induction_on generalizing i y l with
  | _ m ih =>
    obtain ⟨j, later, woken⟩ := timely.late i y after waits (.inr (by simp [limit]))
    obtain ⟨j, later, woken, there, pool, _⟩ := nextWake alone after waits later woken
    rcases wokenSettles woken there with settles | ⟨z, again⟩
    · exact ⟨j, later, settles⟩
    · have ranOut : y.since + l ≤ (r.state j).world.clock := by
        rcases timely.early j y (Nat.le_trans after later) there woken with signalled | ⟨l', same, reached⟩
        · exact absurd (pool ▸ heard) signalled
        · cases limit.symm.trans same
          exact reached
      have horizon := again.horizon
      have since := again.since
      have within := again.within
      rw [pool] at horizon within
      rw [Limited, ← pool] at limited
      obtain ⟨limited, l', limit', lasts'⟩ := again.limited limited
      have less : (r.state (j + 1)).pool.horizon z.attempt - z.since < m := by omega
      obtain ⟨j', later', settles⟩ := ih _ less (Nat.le_succ_of_le (Nat.le_trans after later))
        again.there again.heard limit' lasts' limited rfl
      exact ⟨j', by omega, settles⟩

theorem settlesAlone (timely : r.Timely n k) (alone : r.Alone n k) (after : k ≤ i)
    (waits : (r.state i).waiter? n = some y) (limited : r.Limited i y) :
    ∃ j, i ≤ j ∧ r.Settles n j := by
  obtain ⟨history, run⟩ := r.run i
  -- it may wait without a limit from before the time to wait was set, but then it was signalled since
  have due : y.heard ≠ (r.state i).pool.signals ∨ y.limit ≠ none := by
    by_contra never
    rw [not_or, not_not, not_not] at never
    obtain ⟨timeless, zero⟩ := State.unlimited run (List.mem_of_find?_eq_some waits) never.2
    exact limited.elim (absurd timeless) (absurd (Config.waitZero.mp (zero never.1)))
  obtain ⟨j, later, woken⟩ := timely.late i y after waits due
  obtain ⟨j, later, woken, there, pool, _⟩ := nextWake alone after waits later woken
  rcases wokenSettles woken there with settles | ⟨z, again⟩
  · exact ⟨j, later, settles⟩
  · rw [Limited, ← pool] at limited
    obtain ⟨limited, l, limit, lasts⟩ := again.limited limited
    obtain ⟨j', later', settles⟩ := countdown timely alone
      (Nat.le_succ_of_le (Nat.le_trans after later)) again.there again.heard limit lasts limited
    exact ⟨j', by omega, settles⟩

theorem waitsOn {x : Pursuit} (found : (r.state i).pursuit? (r.event i) = some x) (d : Nat) :
    (∃ j, i ≤ j ∧ r.Settles x.number j) ∨
      ∃ y, (r.state (i + 1 + d)).waiter? x.number = some y ∧
        y.attempt.deadline = x.attempt.deadline := by
  induction d with
  | zero =>
    obtain ⟨history, run⟩ := r.run i
    rcases State.pursuitSettles run found with settles | ⟨y, there, _, waits⟩
    · exact .inl ⟨i, Nat.le_refl _, x, rfl, settles⟩
    · rw [← r.goes i] at there
      exact .inr ⟨y, there, by rw [waits.attempt]⟩
  | succ d ih =>
    rcases ih with settles | ⟨y, there, deadline⟩
    · exact .inl settles
    · by_cases woken : r.event (i + 1 + d) = .wake x.number
      · rcases wokenSettles woken there with settles | ⟨z, again⟩
        · exact .inl ⟨_, by omega, settles⟩
        · exact .inr ⟨z, again.there, again.deadline.trans deadline⟩
      · refine .inr ⟨y, ?_, deadline⟩
        have still := State.waiterStays (r.possible _) there woken
        rw [← r.goes] at still
        exact still

end Endless

namespace State

variable {s : State σ} {e : Event σ} {x : Pursuit} {history : List (Moment σ)} {source : Source}
  {config : Config} {world : World σ}

theorem settlesTakingOver (run : Run (.start source config world) history s)
    (found : s.pursuit? e = some x) (settles : (Moment.mk s e).Settles x)
    (timeless : x.attempt.deadline = none) (saturated : s.pool.Saturated)
    (going : s.pool.shutDown = false) :
    ∃ oldest rest, s.pool.active = oldest :: rest ∧
      s.pool.config.maxCheckout.nanos < oldest.checkoutTime s.world.clock ∧
      oldest ∉ (s.step e).pool.active ∧
      (s.step e).pool.tally.overdueClaims = s.pool.tally.overdueClaims + 1 := by
  obtain ⟨time, pool⟩ := pursuitPool found
  obtain ⟨met, bad, kept, held, r, took, _, _, ends⟩ := pursuitTook run found
  rw [pool] at took
  -- if it met nothing at all, it ended for a shutdown, for want of a connection or at its deadline
  have several : met ≠ [] := by
    rcases ends with ⟨without, last, _⟩ | ⟨_, _, several, _⟩
    · intro none
      have last := last none
      obtain ⟨error, failed⟩ := settles.resolve_left fun ⟨k, granted⟩ => without k granted
      rw [(failedIff.mp failed).2, pool] at last
      generalize (s.step e).pool = q, (s.step e).world = later at last
      cases last with
      | closed stopped => rw [going] at stopped; cases stopped
      | unopened _ _ room => exact absurd room (Nat.not_lt.mpr saturated.2)
      | late _ _ deadline => rw [timeless] at deadline; cases deadline
    · exact several
  obtain ⟨oldest, rfl⟩ := took.claimed saturated several
  have active : s.pool.active = oldest :: r.active := took.active
  have unique := (State.kept run).ledger.activeSerials.of_map
  rw [active] at unique
  have gone : oldest ∉ r.active := (List.nodup_cons.mp unique).1
  refine ⟨oldest, r.active, active, took.overdue oldest List.mem_cons_self, ?_⟩
  rcases ends with ⟨_, _, _, left, waits, tally⟩ | ⟨k, _, _, granted, left, tally⟩
  · rw [left, tally, took.tally]
    exact ⟨gone, rfl⟩
  · rw [left, tally, took.tally]
    refine ⟨fun member => ?_, rfl⟩
    rcases List.mem_append.mp member with there | new
    · exact gone there
    · refine (grantedNew run granted).2 ?_
      rw [← List.mem_singleton.mp new, active]
      exact List.mem_cons_self

theorem badCounted (run : Run (.start source config world) history s)
    (found : s.pursuit? e = some x) : (s.step e).pool.tally.badConnections ≤
      s.pool.tally.badConnections + s.pool.config.maxIdle.toNat + s.pool.config.badTolerance.toNat + 1 := by
  obtain ⟨time, pool⟩ := pursuitPool found
  obtain ⟨met, bad, kept, held, q, took, few, _, ends⟩ := pursuitTook run found
  have limit : s.pool.config.badLimit ≤
      s.pool.config.maxIdle.toNat + s.pool.config.badTolerance.toNat := Nat.min_le_left _ _
  have counted : (s.step e).pool.tally.badConnections = q.tally.badConnections := by
    rcases ends with ⟨_, _, _, _, _, tally⟩ | ⟨_, _, _, _, _, tally⟩
    · rw [tally]
    · rw [tally]
  rw [pool] at took
  rw [counted, took.tally]
  dsimp only
  omega

end State

/- An acquire for which others do finitely much, and which is woken for no reason finitely often, ends
with a connection or an error unless it has no deadline and the time to wait is zero in the end. -/
theorem acquireEnds {source : Source} {config : Config} {world : World σ}
    {r : Endless (State.start source config world)} {begun k : Nat} {x : Pursuit}
    (found : (r.state begun).pursuit? (r.event begun) = some x) (timely : r.Timely x.number k)
    (alone : r.Alone x.number k) :
    (x.attempt.deadline ≠ none ∨ (∀ i, begun < i → (r.state i).waiter? x.number ≠ none →
        (r.state i).pool.config.waitMillis ≠ 0) →
      ∃ j, begun ≤ j ∧ r.Settles x.number j) ∧
    ((∀ j, begun ≤ j → ¬r.Settles x.number j) → x.attempt.deadline = none ∧
      ∀ i, begun < i → k ≤ i → (r.state i).pool.config.waitMillis = 0) ∧
    (∀ j y, (r.moment j).Settles y → y.attempt.deadline = none → (r.state j).pool.Saturated →
      (r.state j).pool.shutDown = false → ∃ oldest rest, (r.state j).pool.active = oldest :: rest ∧
        (r.state j).pool.config.maxCheckout.nanos < oldest.checkoutTime (r.state j).world.clock ∧
        oldest ∉ (r.state (j + 1)).pool.active ∧
        (r.state (j + 1)).pool.tally.overdueClaims = (r.state j).pool.tally.overdueClaims + 1) ∧
    ∀ j y, (r.state j).pursuit? (r.event j) = some y →
      (r.state (j + 1)).pool.tally.badConnections ≤ (r.state j).pool.tally.badConnections +
        (r.state j).pool.config.maxIdle.toNat + (r.state j).pool.config.badTolerance.toNat + 1 := by
  -- an acquire that never ends waits for ever, and there is no end to its waits
  have stuck (i : Nat) (after : begun < i) (quiet : k ≤ i)
      (never : ∀ j, begun ≤ j → ¬r.Settles x.number j) :
      ∃ y, (r.state i).waiter? x.number = some y ∧ y.attempt.deadline = x.attempt.deadline ∧
        ¬r.Limited i y := by
    obtain ⟨d, rfl⟩ := Nat.exists_eq_add_of_le (Nat.succ_le_of_lt after)
    rcases Endless.waitsOn found d with ⟨j, later, settles⟩ | ⟨y, there, deadline⟩
    · exact absurd settles (never j later)
    · refine ⟨y, there, deadline, fun limited => ?_⟩
      obtain ⟨j, later, settles⟩ := Endless.settlesAlone timely alone quiet there limited
      exact never j (by omega) settles
  refine ⟨fun limited => ?_, fun never => ?_, fun j y settles timeless saturated going => ?_,
    fun j y pursued => ?_⟩
  · by_contra ends
    have never (j : Nat) (later : begun ≤ j) : ¬r.Settles x.number j := fun settles =>
      ends ⟨j, later, settles⟩
    obtain ⟨y, there, deadline, unlimited⟩ := stuck (begun + k + 1) (by omega) (by omega) never
    rw [Endless.Limited, deadline] at unlimited
    exact unlimited (limited.imp_right fun some => some _ (by omega) (by simp [there]))
  · refine ⟨?_, fun i after quiet => ?_⟩
    · obtain ⟨y, _, deadline, unlimited⟩ := stuck (begun + k + 1) (by omega) (by omega) never
      rw [← deadline]
      by_contra some
      exact unlimited (.inl some)
    · obtain ⟨y, _, _, unlimited⟩ := stuck i after quiet never
      by_contra some
      exact unlimited (.inr some)
  · obtain ⟨history, run⟩ := r.run j
    have pursued : (r.state j).pursuit? (r.event j) = some y :=
      settles.elim (fun ⟨_, granted⟩ => (State.grantedIff.mp granted).1)
        fun ⟨_, failed⟩ => (State.failedIff.mp failed).1
    rw [r.goes j]
    exact State.settlesTakingOver run pursued settles timeless saturated going
  · obtain ⟨history, run⟩ := r.run j
    rw [r.goes j]
    exact State.badCounted run pursued

def State.resting (s : State σ) (events : List (Event σ))
    (possible : ∀ e ∈ events, ∀ t : State σ, t.Possible e) : Endless s where
  event i := events[i]?.getD (.outside id)
  state i := s.after (events.take i)
  begins := rfl
  goes i := by
    clear possible
    induction events generalizing s i with
    | nil =>
      rw [List.take_nil, List.take_nil]
      rfl
    | cons e rest ih =>
      cases i with
      | zero => rfl
      | succ i => exact ih (s.step e) i
  possible i := by
    cases found : events[i]? with
    | none => exact (s.after (events.take i)).world.growsRefl
    | some e => exact possible e (List.mem_of_getElem? found) _

def State.hurried : State Scenario.Plan :=
  .start State.small.pool.source
    { Config.new 1 1 with maxCheckoutMillis := 100, waitMillis := 50 } State.small.world

def overtaking : List (Event Scenario.Plan) :=
  [.acquireDefault, .acquireDefault, .meanwhile 50000000 .undisturbed, .wake 1,
    .meanwhile 60000000 .undisturbed, .wake 1]

theorem overtakingPossible : ∀ e ∈ overtaking, ∀ t : State Scenario.Plan, t.Possible e :=
  List.forall_mem_cons.mpr ⟨fun _ => trivial, List.forall_mem_cons.mpr ⟨fun _ => trivial,
    List.forall_mem_cons.mpr ⟨fun t => t.meanwhilePossible _ _, List.forall_mem_cons.mpr
      ⟨fun _ => trivial, List.forall_mem_cons.mpr ⟨fun t => t.meanwhilePossible _ _,
        by simp [State.Possible]⟩⟩⟩⟩⟩

theorem acquireEndsOvertaking :
    let r := State.hurried.resting overtaking overtakingPossible
    r.Timely 1 2 ∧ r.Alone 1 2 ∧ ∃ j, 1 ≤ j ∧ r.Settles 1 j := by
  intro r
  have rests (i : Nat) (after : 6 ≤ i) : r.state i = State.hurried.after overtaking := by
    change State.hurried.after (overtaking.take i) = _
    rw [List.take_of_length_le after]
  have gone : (State.hurried.after overtaking).waiter? 1 = none := by decide +kernel
  have before (i : Nat) (waits : (r.state i).waiter? 1 ≠ none) : i < 6 := by
    by_contra after
    rw [rests i (Nat.not_lt.mp after)] at waits
    exact waits gone
  have ranOut : ∀ i ∈ [3, 5], ∀ y ∈ (State.hurried.after (overtaking.take i)).waiter? 1,
      y.limit = some 50000000 ∧
        y.since + 50000000 ≤ (State.hurried.after (overtaking.take i)).world.clock := by decide +kernel
  have timely : r.Timely 1 2 := by
    refine ⟨fun i y _ waits woken => .inr ⟨50000000, ranOut i ?_ y waits⟩, fun i y _ waits _ => ?_⟩
    · have early := before i (by simp [waits])
      rcases i with _ | _ | _ | _ | _ | _ | i
      · cases woken
      · cases woken
      · cases woken
      · decide
      · cases woken
      · decide
      · omega
    · have early := before i (by simp [waits])
      exact ⟨5, by omega, rfl⟩
  have alone : r.Alone 1 2 := by
    intro i after waits
    have early := before i waits
    rcases i with _ | _ | _ | _ | _ | _ | i
    · omega
    · omega
    · exact .inr ⟨_, rfl⟩
    · exact .inl rfl
    · exact .inr ⟨_, rfl⟩
    · exact .inl rfl
    · omega
  have limited : ∀ i < 6, (State.hurried.after (overtaking.take i)).pool.config.waitMillis ≠ 0 := by
    decide +kernel
  obtain ⟨x, found⟩ := Option.isSome_iff_exists.mp (by decide +kernel :
    ((State.hurried.after (overtaking.take 1)).pursuit? .acquireDefault).isSome)
  have number : x.number = 1 := by
    have first : ∀ y ∈ (State.hurried.after (overtaking.take 1)).pursuit? .acquireDefault,
        y.number = 1 := by decide +kernel
    exact first x found
  have found : (r.state 1).pursuit? (r.event 1) = some x := found
  have ends := (acquireEnds found (number ▸ timely) (number ▸ alone)).1
    (.inr fun i _ waits => limited i (before i (number ▸ waits)))
  rw [number] at ends
  exact ⟨timely, alone, ends⟩

end Traffic
end ConnectionPool
