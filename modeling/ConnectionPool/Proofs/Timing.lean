import Mathlib.Data.Finset.Card
import ConnectionPool.Proofs.Checkouts
import ConnectionPool.Proofs.Deadlines

/-! What a pool counts and measures of its acquires. A request lasts from the call to the hand-out, and a
wait from when an acquire lets go of the pool until it goes on, whatever becomes of it then. Acquires that
overlap add to the same counters, each in its own sections. -/
namespace ConnectionPool

namespace Outcome

def grants : Outcome → Nat
  | granted _ => 1
  | _ => 0

@[simp]
theorem grantsGranted (e : Entry) : (granted e).grants = 1 := rfl

@[simp]
theorem grantsFailed (e : Error) : (failed e).grants = 0 := rfl

@[simp]
theorem grantsWaiting (a : Attempt) (since : Nat) (limit : Option Nat) :
    (waiting a since limit).grants = 0 := rfl

end Outcome

namespace Pool

def Stalled (p : Pool) (now : Nat) : Prop :=
  p.shutDown = false ∧ p.Saturated ∧
    ∀ f ∈ p.active.head?, f.checkoutTime now ≤ p.config.maxCheckout.nanos

instance (p : Pool) (now : Nat) : Decidable (p.Stalled now) := by unfold Stalled; infer_instance

structure Counts {σ : Type} (a : Attempt) (p : Pool) (w : World σ) (o : Outcome) (q : Pool)
    (later : World σ) : Prop where
  requests : q.tally.requests = p.tally.requests + o.grants
  requestTime : q.tally.requestTime = p.tally.requestTime + o.grants * (later.clock - a.started)
  waits : q.tally.waits = p.tally.waits + if p.Stalled w.clock ∧ a.waited = false then 1 else 0
  waitTime : q.tally.waitTime = p.tally.waitTime

variable {σ : Type} [Conditions σ] {p q r : Pool} {w now later : World σ} {a : Attempt} {e : Entry}
  {o : Outcome} {patience : Nat}

structure Alike (p q : Pool) : Prop where
  requests : q.tally.requests = p.tally.requests
  requestTime : q.tally.requestTime = p.tally.requestTime
  waits : q.tally.waits = p.tally.waits
  waitTime : q.tally.waitTime = p.tally.waitTime

omit [Conditions σ] in
theorem Took.alike {now n : Nat} {met kept held : List Entry} (h : Took p now met n kept held q) :
    p.Alike q := by
  have tally := h.tally
  constructor <;> rw [tally]

omit [Conditions σ] in
theorem Alike.counts (h : p.Alike q) (none : o.grants = 0)
    (uncounted : ¬(p.Stalled w.clock ∧ a.waited = false)) : Counts a p w o q later where
  requests := by rw [none, h.requests, Nat.add_zero]
  requestTime := by rw [none, h.requestTime, Nat.zero_mul, Nat.add_zero]
  waits := by rw [h.waits, if_neg uncounted, Nat.add_zero]
  waitTime := h.waitTime

omit [Conditions σ] in
theorem countWaitCounts (stalled : p.Stalled w.clock) (none : o.grants = 0) :
    Counts a p w o (p.countWait a) later := by
  unfold countWait
  cases waited : a.waited with
  | true => exact Alike.counts ⟨rfl, rfl, rfl, rfl⟩ none (by simp [waited])
  | false =>
    rw [if_neg Bool.false_ne_true]
    refine ⟨?_, ?_, ?_, rfl⟩
    · rw [none]
      rfl
    · rw [none, Nat.zero_mul]
      rfl
    · rw [if_pos ⟨stalled, waited⟩]

theorem countsStalled (stalled : p.Stalled w.clock) (h : p.pursue patience a w = (o, q, later)) :
    Counts a p w o q later := by
  have nothing : p.candidate a.username a.password w = (.ok none, p, w) :=
    (Sought.nothing stalled.2.1 stalled.2.2).candidate
  rw [pursue.eq_def, stalled.1, if_neg Bool.false_ne_true, nothing] at h
  dsimp only at h
  split at h <;> cases h <;> exact countWaitCounts stalled rfl

theorem movingRound (h : p.pursue patience a w = (o, q, later))
    (fits : p.idle.length + p.active.length ≤ p.config.maxActive.toNat) (moving : ¬p.Stalled w.clock) :
    Counts a p w o q later ∨ ∃ r after n, p.Alike r ∧
      r.idle.length + r.active.length < r.config.maxActive.toNat ∧ patience = n + 1 ∧
      r.pursue n { a with bad := a.bad + 1 } after = (o, q, later) := by
  have uncounted : ¬(p.Stalled w.clock ∧ a.waited = false) := fun both => moving both.1
  cases stopped : p.shutDown with
  | true =>
    rw [pursue.eq_def, if_pos stopped] at h
    cases h
    exact .inl (Alike.counts ⟨rfl, rfl, rfl, rfl⟩ rfl uncounted)
  | false =>
    cases found : p.candidate a.username a.password w with
    | mk c rest =>
      obtain ⟨r, now⟩ := rest
      have sought := candidateSought found
      rcases c with x | none | e
      · rw [pursue.eq_def, stopped, if_neg Bool.false_ne_true, found] at h
        cases h
        cases sought with
        | unopened _ _ failed =>
          obtain ⟨rfl, _⟩ := openEntryError failed
          exact .inl (Alike.counts ⟨rfl, rfl, rfl, rfl⟩ rfl uncounted)
      · cases sought with
        | nothing saturated young => exact absurd ⟨stopped, saturated, young⟩ moving
      · obtain ⟨kept, held, took⟩ := sought.took fits
        cases examined : r.examine e now with
        | mk good after =>
          cases good with
          | true =>
            rw [pursueGood stopped found examined] at h
            cases h
            have alike := took.alike
            refine .inl ⟨?_, ?_, ?_, alike.waitTime⟩
            · exact congrArg (· + 1) alike.requests
            · rw [Outcome.grantsGranted, Nat.one_mul]
              exact congrArg (· + _) alike.requestTime
            · rw [if_neg uncounted, Nat.add_zero]
              exact alike.waits
          | false =>
            have met := took.countBad e
            rw [pursueBad stopped found examined] at h
            cases patience with
            | zero =>
              cases h
              exact .inl (met.alike.counts rfl uncounted)
            | succ n =>
              exact .inr ⟨(r.discard e after).1.countBad, (r.discard e after).2, n, met.alike,
                met.room (List.cons_ne_nil _ _), rfl, h⟩

theorem countsMoving (h : p.pursue patience a w = (o, q, later))
    (fits : p.idle.length + p.active.length ≤ p.config.maxActive.toNat) (moving : ¬p.Stalled w.clock) :
    Counts a p w o q later := by
  induction patience generalizing a p w with
  | zero =>
    rcases movingRound h fits moving with counts | ⟨_, _, _, _, _, more, _⟩
    · exact counts
    · cases more
  | succ patience ih =>
    rcases movingRound h fits moving with counts | ⟨r, after, n, alike, room, more, h⟩
    · exact counts
    · cases more
      -- after a bad entry there is room for a connection, so that the acquire does not come to wait
      have roomy : ¬r.Stalled after.clock := fun stalled =>
        absurd (Nat.lt_of_le_of_lt (Nat.le_add_left _ _) room) (Nat.not_lt.mpr stalled.2.1.2)
      have counts := ih h (Nat.le_of_lt room) roomy
      refine ⟨alike.requests ▸ counts.requests, alike.requestTime ▸ counts.requestTime, ?_,
        counts.waitTime.trans alike.waitTime⟩
      rw [counts.waits, alike.waits, if_neg fun both => roomy both.1, if_neg fun both => moving both.1]

theorem pursueCounts (h : p.pursue patience a w = (o, q, later))
    (fits : p.idle.length + p.active.length ≤ p.config.maxActive.toNat) : Counts a p w o q later := by
  by_cases stalled : p.Stalled w.clock
  · exact countsStalled stalled h
  · exact countsMoving h fits stalled

end Pool

namespace Traffic

structure Period where
  number : Nat
  first : Nat
  last : Nat
  deriving DecidableEq, Repr

namespace Period

def time (x : Period) : Nat := x.last - x.first

def total (l : List Period) : Nat := (l.map (·.time)).sum

theorem totalAppend (l m : List Period) : total (l ++ m) = total l + total m := by
  rw [total, List.map_append, List.sum_append]
  rfl

end Period

variable {σ : Type}

def periods (tells : List (Moment σ) → Moment σ → Option Period) :
    List (Moment σ) → List (Moment σ) → List Period
  | _, [] => []
  | past, m :: rest => (tells past m).toList ++ periods tells (past ++ [m]) rest

theorem periodsNext (tells : List (Moment σ) → Moment σ → Option Period) (past history : List (Moment σ))
    (m : Moment σ) : periods tells past (history ++ [m]) =
      periods tells past history ++ (tells (past ++ history) m).toList := by
  induction history generalizing past with
  | nil => simp [periods]
  | cons first rest ih =>
    rw [List.cons_append, periods, ih, periods, List.append_assoc, List.append_assoc]
    rfl

variable [Conditions σ]

namespace Moment

def called? (m : Moment σ) : Option Nat :=
  match m.event with
  | .acquire .. | .acquireDefault => some m.state.acquires
  | _ => none

def ended? (m : Moment σ) : Option Waiter :=
  match m.event with
  | .wake n => m.state.waiter? n
  | _ => none

def woken? (m : Moment σ) : Option Nat := m.ended?.map (·.number)

def served? (m : Moment σ) : Option Nat := m.granted?.map (·.1.number)

def calledAt? (n : Nat) (m : Moment σ) : Option Nat :=
  if m.called? = some n then some m.state.world.clock else none

def leftAt? (n : Nat) (m : Moment σ) : Option Nat :=
  if (m.state.pursuit? m.event).map (·.number) = some n then some m.next.world.clock else none

def request? (past : List (Moment σ)) (m : Moment σ) : Option Period := do
  let n ← m.served?
  let first ← latest? (calledAt? n) (past ++ [m])
  return ⟨n, first, m.next.world.clock⟩

def wait? (past : List (Moment σ)) (m : Moment σ) : Option Period := do
  let n ← m.woken?
  let first ← latest? (leftAt? n) past
  return ⟨n, first, m.state.world.clock⟩

def Stalls (m : Moment σ) (n : Nat) : Prop :=
  ∃ x p w, m.state.pursuit? m.event = some x ∧ x.number = n ∧ m.Looks x p w ∧ p.Exhausted w.clock

end Moment

def requestPeriods (history : List (Moment σ)) : List Period := periods Moment.request? [] history

def waitPeriods (history : List (Moment σ)) : List Period := periods Moment.wait? [] history

structure State.Timed (history : List (Moment σ)) (s : State σ) : Prop where
  requests : s.pool.tally.requests = (requestPeriods history).length
  served : (requestPeriods history).map (·.number) = history.filterMap Moment.served?
  once : (history.filterMap Moment.served?).Nodup
  requestTime : s.pool.tally.requestTime = Period.total (requestPeriods history)
  waits : ∃ stalled : Finset Nat, (∀ n, n ∈ stalled ↔ ∃ m ∈ history, m.Stalls n) ∧
    s.pool.tally.waits = stalled.card
  woken : (waitPeriods history).map (·.number) = history.filterMap Moment.woken?
  waitTime : s.pool.tally.waitTime = Period.total (waitPeriods history)
  forward : ∀ x ∈ requestPeriods history ++ waitPeriods history, x.first ≤ x.last

structure Waiter.Noted (history : List (Moment σ)) (now : Nat) (y : Waiter) : Prop where
  called : latest? (Moment.calledAt? y.number) history = some y.attempt.started
  left : latest? (Moment.leftAt? y.number) history = some y.since
  waited : y.attempt.waited = true
  stalled : ∃ m ∈ history, m.Stalls y.number
  started : y.attempt.started ≤ now
  since : y.since ≤ now

theorem Waiter.Noted.next {history : List (Moment σ)} {now later : Nat} {y : Waiter} {m : Moment σ}
    (h : y.Noted history now) (calls : m.calledAt? y.number = none) (leaves : m.leftAt? y.number = none)
    (passed : now ≤ later) : y.Noted (history ++ [m]) later := by
  obtain ⟨n, member, stalled⟩ := h.stalled
  refine ⟨?_, ?_, h.waited, ⟨n, List.mem_append_left _ member, stalled⟩, Nat.le_trans h.started passed,
    Nat.le_trans h.since passed⟩
  · rw [latestNext, calls, Option.none_or]
    exact h.called
  · rw [latestNext, leaves, Option.none_or]
    exact h.left

namespace State

variable {s : State σ} {e : Event σ} {x : Pursuit} {y : Waiter} {n : Nat} {history : List (Moment σ)}
  {m : Moment σ} {source : Source} {config : Config} {world : World σ}

/- It is when it looks for the first time in a section that an acquire finds nothing to try. -/
theorem stallsIff (run : Run (.start source config world) history s) : (Moment.mk s e).Stalls n ↔
    ∃ x, s.pursuit? e = some x ∧ x.number = n ∧ x.pool.Stalled s.world.clock := by
  constructor
  · rintro ⟨x, p, w, found, number, ⟨going, bad, rounds, _⟩, exhausted⟩
    obtain ⟨kept, held, took⟩ := rounds.took (pursuitFits run found)
    have none : bad = [] := by
      by_contra met
      have room := took.room met
      rw [exhausted.full] at room
      exact absurd (Nat.lt_of_le_of_lt (Nat.le_add_left _ _) room) (Nat.lt_irrefl _)
    subst none
    cases rounds
    exact ⟨x, found, number, going, ⟨exhausted.idle, Nat.le_of_eq exhausted.full.symm⟩,
      fun f first => exhausted.young f (List.mem_of_mem_head? first)⟩
  · rintro ⟨x, found, number, going, saturated, young⟩
    obtain ⟨time, pool⟩ := pursuitPool found
    have sorted := ordered run
    have begun : x.pool.InOrder s.world.clock := pool ▸ ⟨sorted.order, sorted.past⟩
    exact ⟨x, x.pool, s.world, found, number, ⟨going, [], .none, Nat.zero_le _⟩,
      begun.exhausted saturated (pursuitFits run found) young⟩

omit [Conditions σ] in
theorem pursuitAnew (found : s.pursuit? e = some x) :
    (Moment.mk s e).called? = some x.number ∧ x.attempt.started = s.world.clock ∧
        x.attempt.waited = false ∨
      ∃ y ∈ s.waiters, y.number = x.number ∧ y.attempt = x.attempt := by
  cases e <;> simp only [pursuit?, Option.some.injEq, Option.map_eq_some_iff, reduceCtorEq] at found
  case acquire => subst found; exact .inl ⟨rfl, rfl, rfl⟩
  case acquireDefault => subst found; exact .inl ⟨rfl, rfl, rfl⟩
  case wake number =>
    obtain ⟨y, waits, rfl⟩ := found
    have number := List.find?_some waits
    exact .inr ⟨y, List.mem_of_find?_eq_some waits, beq_iff_eq.mp number, rfl⟩

omit [Conditions σ] in
theorem uncalled (begun : n < s.acquires) : (Moment.mk s e).calledAt? n = none := by
  have other : s.acquires ≠ n := Nat.ne_of_gt begun
  cases e <;> simp [Moment.calledAt?, Moment.called?, other]

theorem pursuitCalled (run : Run (.start source config world) history s)
    (noted : ∀ y ∈ s.waiters, y.Noted history s.world.clock) (found : s.pursuit? e = some x) :
    latest? (Moment.calledAt? x.number) (history ++ [⟨s, e⟩]) = some x.attempt.started ∧
      x.attempt.started ≤ s.world.clock := by
  rw [latestNext]
  rcases pursuitAnew found with ⟨called, started, _⟩ | ⟨y, waits, number, attempt⟩
  · rw [Moment.calledAt?, if_pos called, started]
    exact ⟨rfl, Nat.le_refl _⟩
  · have note := noted y waits
    rw [← number, ← attempt, uncalled (numbersBelow run waits), Option.none_or]
    exact ⟨note.called, note.started⟩

theorem noted (run : Run (.start source config world) history s) :
    ∀ y ∈ s.waiters, y.Noted history s.world.clock := by
  induction run with
  | none => exact fun _ member => nomatch member
  | @more history s before e possible ih =>
    intro y member
    have passed := (stepGrows (kept before) possible).clock
    have still (old : y ∈ s.waiters) (leaves : (Moment.mk s e).leftAt? y.number = none) :
        y.Noted (history ++ [⟨s, e⟩]) (s.step e).world.clock :=
      (ih y old).next (uncalled (numbersBelow before old)) leaves passed
    cases found : s.pursuit? e with
    | none => exact still (quietWaiters possible found ▸ member) (by simp [Moment.leftAt?, found])
    | some x =>
      rcases pursuitWaiters found member with old | ⟨number, _, result⟩
      · have other := (enterWithout before found old).symm
        exact still (enterWaiters old) (by simp [Moment.leftAt?, found, other])
      · have waits := Pool.pursueWaits result (pursuitFits before found)
        obtain ⟨called, started⟩ := pursuitCalled before ih found
        have began : y.attempt.started = x.attempt.started := by rw [waits.attempt]
        have left : (Moment.mk s e).leftAt? y.number = some y.since := by
          simp [Moment.leftAt?, found, number, Moment.next, waits.world, waits.since]
        refine ⟨?_, ?_, by rw [waits.attempt], ⟨_, List.mem_append_right _ List.mem_cons_self, ?_⟩, ?_, ?_⟩
        · rw [number, began]
          exact called
        · rw [latestNext, left, Option.some_or]
        · exact (stallsIff before).mpr
            ⟨x, found, number.symm, waits.going, waits.saturated, waits.young⟩
        · rw [began]
          exact Nat.le_trans started passed
        · rw [waits.since]
          exact passed

theorem requestIn (run : Run (.start source config world) history s) :
    (Moment.mk s e).request? history = (Moment.mk s e).granted?.map fun r =>
      ⟨r.1.number, r.1.attempt.started, (s.step e).world.clock⟩ := by
  cases granted : (Moment.mk s e).granted? with
  | none => simp [Moment.request?, Moment.served?, granted]
  | some r =>
    have called := (pursuitCalled run (noted run) (grantedIff.mp granted).1).1
    simp [Moment.request?, Moment.served?, granted, called, Moment.next]

omit [Conditions σ] in
theorem endedWaits (done : (Moment.mk s e).ended? = some y) : y ∈ s.waiters := by
  cases e <;> first | exact List.mem_of_find?_eq_some done | cases done

theorem waitIn (run : Run (.start source config world) history s) :
    (Moment.mk s e).wait? history = (Moment.mk s e).ended?.map fun y =>
      ⟨y.number, y.since, s.world.clock⟩ := by
  cases done : (Moment.mk s e).ended? with
  | none => simp [Moment.wait?, Moment.woken?, done]
  | some y =>
    have left := (noted run y (endedWaits done)).left
    simp [Moment.wait?, Moment.woken?, done, left]

omit [Conditions σ] in
theorem alike {p q : Pool} (same : q.tally = p.tally) : p.Alike q := by
  constructor <;> rw [same]

theorem returnAlike (number : Nat) : s.pool.Alike (s.step (.giveBack number)).pool := by
  cases found : s.handles[number]? with
  | none => exact alike (by simp only [step, found])
  | some h =>
    have pool : (s.step (.giveBack number)).pool = (h.giveBack s.pool s.world).2.1 := by
      simp only [step, found]
    rw [pool]
    cases out : h.released with
    | true =>
      rw [(Handle.giveBackAgain out).1]
      exact alike rfl
    | false =>
      rw [Handle.giveBack, out, if_neg Bool.false_ne_true]
      cases good : s.pool.valid h.entry with
      | false =>
        dsimp only
        rw [Pool.releaseInvalid good]
        exact ⟨rfl, rfl, rfl, rfl⟩
      | true =>
        obtain ⟨bad, tally⟩ := Pool.releaseTally (w := s.world) good
        constructor <;> dsimp only <;> rw [tally]

theorem quietAlike (quiet : s.pursuit? e = none) : s.pool.Alike (s.step e).pool := by
  cases e with
  | acquire => cases quiet
  | acquireDefault => cases quiet
  | wake number =>
    have absent : s.waiter? number = none := Option.map_eq_none_iff.mp quiet
    exact alike (by simp only [step, absent])
  | giveBack number => exact returnAlike number
  | validate | use | ping => exact alike (by simp only [step]; split <;> rfl)
  | set setting =>
    cases setting with
    | badTolerance => exact alike rfl
    | _ => exact alike (emptiedTally rfl)
  | forceCloseAll | shutdown => exact alike (emptiedTally rfl)
  | outside => exact alike rfl

theorem pursuitCounts (run : Run (.start source config world) history s)
    (found : s.pursuit? e = some x) :
    Pool.Counts x.attempt x.pool s.world (x.pool.resume x.attempt s.world).1 (s.step e).pool
      (s.step e).world := by
  obtain ⟨pool, later⟩ := settlePool (s.enter e) x.number (x.pool.resume x.attempt s.world)
  rw [stepPursuit found, pool, later]
  exact Pool.pursueCounts rfl (pursuitFits run found)

omit [Conditions σ] in
theorem pursuitWaited (found : s.pursuit? e = some x) : x.pool.tally.waitTime = s.pool.tally.waitTime +
    Period.total ((Moment.mk s e).ended?.map fun y => ⟨y.number, y.since, s.world.clock⟩).toList := by
  cases e <;> simp only [pursuit?, Option.some.injEq, Option.map_eq_some_iff, reduceCtorEq] at found
  case acquire => subst found; rfl
  case acquireDefault => subst found; rfl
  case wake number =>
    obtain ⟨y, waits, rfl⟩ := found
    simp [Moment.ended?, waits, Period.total, Period.time]

theorem requestsAdded (run : Run (.start source config world) history s) :
    (s.step e).pool.tally.requests =
        s.pool.tally.requests + ((Moment.mk s e).request? history).toList.length ∧
      (s.step e).pool.tally.requestTime =
        s.pool.tally.requestTime + Period.total ((Moment.mk s e).request? history).toList := by
  rw [requestIn run]
  cases found : s.pursuit? e with
  | none =>
    rw [quietGrants found]
    exact ⟨(quietAlike found).requests, (quietAlike found).requestTime⟩
  | some x =>
    obtain ⟨time, pool⟩ := pursuitPool found
    have counts := pursuitCounts run found
    have requests := counts.requests
    have requestTime := counts.requestTime
    have before : x.pool.tally.requests = s.pool.tally.requests ∧
        x.pool.tally.requestTime = s.pool.tally.requestTime := by
      rw [pool]
      exact ⟨rfl, rfl⟩
    rw [before.1] at requests
    rw [before.2] at requestTime
    cases result : (x.pool.resume x.attempt s.world).1 with
    | granted k =>
      simp only [result, Outcome.grantsGranted, Nat.one_mul] at requests requestTime
      rw [grantedIff.mpr ⟨found, result⟩, requests, requestTime]
      exact ⟨rfl, rfl⟩
    | failed | waiting =>
      have none : (Moment.mk s e).granted? = none := by simp [Moment.granted?, found, result]
      simp only [result, Outcome.grantsFailed, Outcome.grantsWaiting, Nat.zero_mul] at requests requestTime
      rw [none, requests, requestTime]
      exact ⟨rfl, rfl⟩

theorem waitsAdded (run : Run (.start source config world) history s) :
    (s.step e).pool.tally.waitTime =
      s.pool.tally.waitTime + Period.total ((Moment.mk s e).wait? history).toList := by
  rw [waitIn run]
  cases found : s.pursuit? e with
  | none =>
    have none : (Moment.mk s e).ended? = none := by
      cases e <;> first | rfl | exact Option.map_eq_none_iff.mp found
    rw [none]
    exact (quietAlike found).waitTime
  | some x => exact (pursuitCounts run found).waitTime.trans (pursuitWaited found)

theorem stalledBefore (run : Run (.start source config world) history s) (found : s.pursuit? e = some x) :
    x.attempt.waited = true ↔ ∃ m ∈ history, m.Stalls x.number := by
  constructor
  · intro waited
    rcases pursuitAnew found with ⟨_, _, fresh⟩ | ⟨y, waits, number, _⟩
    · rw [waited] at fresh
      cases fresh
    · exact number ▸ (noted run y waits).stalled
  · rintro ⟨m, member, y, p, w, pursued, number, _⟩
    have begun := (deadlineStays run member pursued).1
    rcases pursuitNumber found with ⟨new, _⟩ | ⟨z, waits, _, attempt⟩
    · exact absurd (number.trans new) (Nat.ne_of_lt begun)
    · exact attempt ▸ (noted run z waits).waited

theorem stallsAdded (run : Run (.start source config world) history s)
    (h : ∃ stalled : Finset Nat, (∀ n, n ∈ stalled ↔ ∃ m ∈ history, m.Stalls n) ∧
      s.pool.tally.waits = stalled.card) :
    ∃ stalled : Finset Nat, (∀ n, n ∈ stalled ↔ ∃ m ∈ history ++ [⟨s, e⟩], m.Stalls n) ∧
      (s.step e).pool.tally.waits = stalled.card := by
  obtain ⟨stalled, all, count⟩ := h
  have next (n : Nat) : (∃ m ∈ history ++ [⟨s, e⟩], m.Stalls n) ↔
      n ∈ stalled ∨ (Moment.mk s e).Stalls n := by
    simp [all, or_and_right, exists_or]
  cases found : s.pursuit? e with
  | none =>
    have never (n : Nat) : ¬(Moment.mk s e).Stalls n := by
      rintro ⟨x, _, _, pursued, _⟩
      rw [found] at pursued
      cases pursued
    refine ⟨stalled, fun n => ?_, (quietAlike found).waits.trans count⟩
    rw [next, or_iff_left (never n)]
  | some x =>
    obtain ⟨time, pool⟩ := pursuitPool found
    have waits := (pursuitCounts run found).waits
    have before : x.pool.tally.waits = stalled.card := by
      rw [← count, pool]
    rw [before] at waits
    have now (n : Nat) : (Moment.mk s e).Stalls n ↔ x.number = n ∧ x.pool.Stalled s.world.clock := by
      rw [stallsIff run]
      simp [found]
    have known : x.attempt.waited = true ↔ x.number ∈ stalled :=
      (stalledBefore run found).trans (all x.number).symm
    by_cases first : x.pool.Stalled s.world.clock ∧ x.attempt.waited = false
    · have new : x.number ∉ stalled := fun old => by
        rw [known.mpr old] at first
        cases first.2
      refine ⟨insert x.number stalled, fun n => ?_, ?_⟩
      · rw [next, now, Finset.mem_insert, or_comm, and_iff_left first.1, eq_comm]
      · rw [waits, if_pos first, Finset.card_insert_of_notMem new]
    · refine ⟨stalled, fun n => ?_, ?_⟩
      · rw [next, now]
        refine ⟨.inl, fun either => either.elim id ?_⟩
        rintro ⟨rfl, stalls⟩
        exact known.mp (Bool.eq_false_or_eq_true _ |>.resolve_right fun fresh => first ⟨stalls, fresh⟩)
      · rw [waits, if_neg first, Nat.add_zero]

theorem servedOnce (run : Run (.start source config world) history s)
    (once : (history.filterMap Moment.served?).Nodup) (e : Event σ) :
    (history.filterMap Moment.served? ++ (Moment.mk s e).served?.toList).Nodup := by
  refine List.nodup_append.mpr ⟨once, by cases (Moment.mk s e).served? <;> simp, ?_⟩
  rintro n old _ new rfl
  obtain ⟨m, member, earlier⟩ := List.mem_filterMap.mp old
  obtain ⟨⟨y, f⟩, before, same⟩ := Option.map_eq_some_iff.mp earlier
  obtain ⟨⟨x, k⟩, granted, number⟩ := Option.map_eq_some_iff.mp (Option.mem_toList.mp new)
  exact neverGranted run (grantedIff.mp granted).1 member (same.trans number.symm) f before

theorem forwardStep (run : Run (.start source config world) history s) (possible : s.Possible e) :
    ∀ x ∈ ((Moment.mk s e).request? history).toList ++ ((Moment.mk s e).wait? history).toList,
      x.first ≤ x.last := by
  rw [requestIn run, waitIn run]
  refine List.forall_mem_append.mpr ⟨?_, ?_⟩
  · simp only [Option.mem_toList, Option.map_eq_some_iff]
    rintro _ ⟨⟨x, k⟩, granted, rfl⟩
    have called := pursuitCalled run (noted run) (grantedIff.mp granted).1
    exact Nat.le_trans called.2 (stepGrows (kept run) possible).clock
  · simp only [Option.mem_toList, Option.map_eq_some_iff]
    rintro _ ⟨y, done, rfl⟩
    exact (noted run y (endedWaits done)).since

end State

theorem requestPeriodsNext (history : List (Moment σ)) (m : Moment σ) :
    requestPeriods (history ++ [m]) = requestPeriods history ++ (m.request? history).toList :=
  periodsNext Moment.request? [] history m

theorem waitPeriodsNext (history : List (Moment σ)) (m : Moment σ) :
    waitPeriods (history ++ [m]) = waitPeriods history ++ (m.wait? history).toList :=
  periodsNext Moment.wait? [] history m

theorem tellsNext {α β : Type} (tells : α → Option β) (history : List α) (m : α) :
    (history ++ [m]).filterMap tells = history.filterMap tells ++ (tells m).toList := by
  rw [List.filterMap_append, List.filterMap_cons, List.filterMap_nil]
  cases tells m <;> rfl

theorem acquiresTimed {source : Source} {config : Config} {world : World σ}
    {history : List (Moment σ)} {s : State σ} (run : Run (.start source config world) history s) :
    s.Timed history := by
  induction run with
  | none =>
    exact ⟨rfl, rfl, List.nodup_nil, rfl, ⟨∅, by simp, rfl⟩, rfl, rfl,
      by simp [requestPeriods, waitPeriods, periods]⟩
  | @more history s before e possible ih =>
    obtain ⟨requests, requestTime⟩ := State.requestsAdded (e := e) before
    have forward := List.forall_mem_append.mp (State.forwardStep before possible)
    have past := List.forall_mem_append.mp ih.forward
    constructor
    · rw [requests, requestPeriodsNext, List.length_append, ih.requests]
    · rw [requestPeriodsNext, tellsNext, List.map_append, ih.served, State.requestIn before,
        Moment.served?]
      cases (Moment.mk s e).granted? <;> rfl
    · rw [tellsNext]
      exact State.servedOnce before ih.once e
    · rw [requestTime, requestPeriodsNext, Period.totalAppend, ih.requestTime]
    · exact State.stallsAdded before ih.waits
    · rw [waitPeriodsNext, tellsNext, List.map_append, ih.woken, State.waitIn before,
        Moment.woken?]
      cases (Moment.mk s e).ended? <;> rfl
    · rw [State.waitsAdded before, waitPeriodsNext, Period.totalAppend, ih.waitTime]
    · rw [requestPeriodsNext, waitPeriodsNext]
      exact List.forall_mem_append.mpr ⟨List.forall_mem_append.mpr ⟨past.1, forward.1⟩,
        List.forall_mem_append.mpr ⟨past.2, forward.2⟩⟩

def overlapping : List (Event Scenario.Plan) :=
  [.acquireDefault, .acquire none none none, .meanwhile 30000000 .undisturbed, .wake 1, .acquireDefault,
    .meanwhile 20000000 .undisturbed, .giveBack 0, .wake 1, .shutdown, .wake 2]

theorem overlappingPossible : ∀ e ∈ overlapping, ∀ t : State Scenario.Plan, t.Possible e := by
  have later (t : State Scenario.Plan) := t.meanwhilePossible
  simp only [overlapping, List.forall_mem_cons, List.not_mem_nil, false_imp_iff, implies_true, and_true]
  exact ⟨fun _ => trivial, fun _ => trivial, fun t => later t _ _, fun _ => trivial, fun _ => trivial,
    fun t => later t _ _, fun _ => trivial, fun _ => trivial, fun _ => trivial, fun _ => trivial⟩

theorem acquiresTimedOverlapping :
    let history := State.small.history overlapping
    let s := State.small.after overlapping
    s.Timed history ∧ s.pool.tally.waits = 2 ∧
      requestPeriods history = [⟨0, 0, 0⟩, ⟨1, 0, 50000000⟩] ∧
      waitPeriods history = [⟨1, 0, 30000000⟩, ⟨1, 30000000, 50000000⟩, ⟨2, 30000000, 50000000⟩] :=
  ⟨acquiresTimed (State.small.run overlappingPossible), by decide +kernel, by decide +kernel,
    by decide +kernel⟩

end Traffic
end ConnectionPool
