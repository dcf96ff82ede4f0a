import ConnectionPool.Proofs.Rounds
import ConnectionPool.Proofs.Signals

/-! What a failed acquire leaves behind. On its way it may have discarded bad connections, and it may have
taken over a checkout that was overdue; apart from that the pool is as it was. An error of opening a
connection is what its caller gets to see. -/
namespace ConnectionPool

inductive Source.Fails {σ : Type} [Conditions σ] (s : Source) (username password : Option String)
    (w : World σ) : Error → Prop where
  | refused {x later}
      (h : Database.connect s.driver s.url (s.propertiesFor username password) w = (.error x, later)) :
      Fails s username password w x
  | unset {c opened x later}
      (connected : Database.connect s.driver s.url (s.propertiesFor username password) w =
        (.ok c, opened))
      (h : s.configure c opened = (.error x, later)) : Fails s username password w x

section Opening

variable {σ : Type} [Conditions σ] {w : World σ} {username password : Option String} {x : Error}

theorem Source.openAsFails {s : Source} :
    (∃ later, s.openAs username password w = (.error x, later)) ↔ s.Fails username password w x := by
  have attempted {c : Nat} {v settled : World σ} {r : Except Error Unit}
      (h : s.configure c v = (r, settled)) : (s.configure c).attempt v = (.ok r, settled) := by
    rw [Action.attempt, h]
  constructor
  · rintro ⟨later, failed⟩
    cases connected : Database.connect s.driver s.url (s.propertiesFor username password) w with
    | mk r opened =>
      cases r with
      | error y =>
        rw [openAs, Action.bindError connected] at failed
        cases failed
        exact .refused connected
      | ok c =>
        rw [openAs, Action.bindOk connected] at failed
        cases configured : s.configure c opened with
        | mk r settled =>
          rw [Action.bindOk (attempted configured)] at failed
          cases r with
          | ok u => cases failed
          | error y =>
            cases failed
            exact .unset connected configured
  · intro fails
    cases fails with
    | refused h => exact ⟨_, Action.bindError h⟩
    | unset connected h =>
      rw [openAs, Action.bindOk connected, Action.bindOk (attempted h)]
      exact ⟨_, rfl⟩

theorem Pool.openEntryFails {p : Pool} :
    (∃ q later, p.openEntry username password w = (.error x, q, later)) ↔
      p.source.Fails username password w x := by
  rw [← Source.openAsFails, openEntry]
  cases p.source.openAs username password w with
  | mk r later => cases r <;> simp

end Opening

namespace Traffic

variable {σ : Type} [Conditions σ]

def Moment.failed? (m : Moment σ) : Option (Pursuit × Error) :=
  match m.state.pursuit? m.event with
  | none => none
  | some x =>
    match (x.pool.resume x.attempt m.state.world).1 with
    | .failed error => some (x, error)
    | _ => none

structure Moment.Harmless (m : Moment σ) (x : Pursuit) (kept held : List Entry) : Prop where
  idle : m.state.pool.idle = kept ++ m.next.pool.idle
  active : m.state.pool.active = held ++ m.next.pool.active
  rejected : ∀ f ∈ kept ++ held, m.Rejects x f.connection
  overdue : ∀ f ∈ held,
    m.state.pool.config.maxCheckout.nanos < f.checkoutTime m.state.world.clock
  holders : ∀ h ∈ m.state.handles, h.valid m.state.pool = true →
    h.valid m.next.pool = true ∨ h.entry ∈ held
  requests : m.next.pool.tally.requests = m.state.pool.tally.requests
  requestTime : m.next.pool.tally.requestTime = m.state.pool.tally.requestTime

namespace State

variable {s : State σ} {e : Event σ} {x y : Pursuit} {history : List (Moment σ)} {m : Moment σ}
  {error : Error} {n : Nat} {source : Source} {config : Config} {world : World σ}

theorem failedIff : (Moment.mk s e).failed? = some (x, error) ↔
    s.pursuit? e = some x ∧ (x.pool.resume x.attempt s.world).1 = .failed error := by
  unfold Moment.failed?
  cases found : s.pursuit? e with
  | none => simp
  | some y =>
    dsimp only
    split
    · rename_i failed
      simp only [Option.some.injEq, Prod.mk.injEq]
      constructor
      · rintro ⟨rfl, rfl⟩
        exact ⟨rfl, failed⟩
      · rintro ⟨rfl, other⟩
        rw [failed] at other
        cases other
        exact ⟨rfl, rfl⟩
    · rename_i none
      simp only [Option.some.injEq, reduceCtorEq, false_iff]
      rintro ⟨rfl, failed⟩
      exact none _ failed

theorem pursuitBegun (run : Run (.start source config world) history s)
    (found : s.pursuit? e = some x) : x.number < (s.step e).acquires := by
  rcases pursuitNumber found with ⟨same, more⟩ | ⟨z, waits, same, _⟩
  · rw [same, more]
    exact Nat.lt_succ_self _
  · rw [← same]
    exact Nat.lt_of_lt_of_le (numbersBelow run waits) (acquiresGrow (insidePossible (pursuitInside found)))

theorem endedStays (run : Run (.start source config world) history s) (member : m ∈ history)
    (found : m.state.pursuit? m.event = some y) (ended : ∀ z ∈ m.next.waiters, z.number ≠ y.number) :
    y.number < s.acquires ∧ ∀ z ∈ s.waiters, z.number ≠ y.number := by
  induction run with
  | none => cases member
  | @more history s before e possible ih =>
    rcases List.mem_append.mp member with earlier | latest
    · obtain ⟨below, absent⟩ := ih earlier
      refine ⟨Nat.lt_of_lt_of_le below (acquiresGrow possible), fun z waits => ?_⟩
      rcases waitersStep (s.course e possible) waits with old | ⟨_, _, x, pursued, number, _⟩
      · exact absent z old
      · rw [number]
        rcases pursuitNumber pursued with ⟨new, _⟩ | ⟨w, old, same, _⟩
        · exact new ▸ Nat.ne_of_gt below
        · exact same ▸ absent w old
    · cases List.mem_singleton.mp latest
      exact ⟨pursuitBegun before found, ended⟩

theorem grantedEnds (run : Run (.start source config world) history s) {k : Entry}
    (granted : (Moment.mk s e).granted? = some (x, k)) :
    ∀ z ∈ (s.step e).waiters, z.number ≠ x.number := by
  obtain ⟨found, q, later, result⟩ := grantedResume granted
  intro z member
  rcases pursuitWaiters found member with old | ⟨_, _, waits⟩
  · exact enterWithout run found old
  · rw [result] at waits
    cases waits

theorem neverGranted (run : Run (.start source config world) history s) (found : s.pursuit? e = some x)
    (member : m ∈ history) (same : y.number = x.number) (k : Entry) : m.granted? ≠ some (y, k) := by
  intro granted
  obtain ⟨past, before⟩ := run.earlier member
  obtain ⟨below, absent⟩ := endedStays run member (grantedResume granted).1 (grantedEnds before granted)
  rcases pursuitNumber found with ⟨new, _⟩ | ⟨z, waits, number, _⟩
  · exact absurd (same.trans new) (Nat.ne_of_lt below)
  · exact absent z waits (number.trans same.symm)

theorem ungrantedHarmless (run : Run (.start source config world) history s)
    (found : s.pursuit? e = some x) (without : ∀ k, (Moment.mk s e).granted? ≠ some (x, k)) :
    ∃ kept held, (Moment.mk s e).Harmless x kept held := by
  obtain ⟨met, bad, kept, held, r, took, _, idle, ends⟩ := pursuitTook run found
  rcases ends with ⟨_, _, rejects, active, waits, tally⟩ | ⟨k, _, _, granted, _⟩
  · obtain ⟨time, pool⟩ := pursuitPool found
    rw [pool] at took
    have left : s.pool.active = held ++ (s.step e).pool.active := active ▸ took.active
    refine ⟨kept, held, idle ▸ took.idle, left, fun f member => ?_, took.overdue,
      fun h member good => ?_, ?_, ?_⟩
    · obtain ⟨g, there, same⟩ := took.origin f member
      exact same ▸ rejects g there
    · have checkedOut := ((State.kept run).handleValid member).mp good
      rw [left, List.mem_append] at checkedOut
      exact checkedOut.symm.imp_left (pursuitHolder run found member)
    · change (s.step e).pool.tally.requests = _
      rw [tally, took.tally]
    · change (s.step e).pool.tally.requestTime = _
      rw [tally, took.tally]
  · exact absurd granted (without k)

theorem failedCause (run : Run (.start source config world) history s)
    (failed : (Moment.mk s e).failed? = some (x, error)) :
    ∃ bad q v, Pool.Rounds x.attempt.username x.attempt.password x.pool s.world bad q v ∧
      (error = .poolClosed ∧ s.pool.shutDown = true ∨
        error = .deadlinePassed ∧ (∃ moment, x.attempt.deadline = some moment ∧ moment ≤ v.clock) ∨
        error = .noGoodConnection ∧ bad.length = s.pool.config.badLimit + 1 ∨
        s.pool.source.Fails x.attempt.username x.attempt.password v error) := by
  obtain ⟨found, failed⟩ := failedIff.mp failed
  obtain ⟨time, pool⟩ := pursuitPool found
  cases result : x.pool.resume x.attempt s.world with
  | mk o rest =>
    obtain ⟨q, later⟩ := rest
    rw [result] at failed
    cases failed
    obtain ⟨bad, r, v, rounds, ends⟩ := Pool.pursueEnds result
    obtain ⟨_, _, took⟩ := rounds.took (pursuitFits run found)
    refine ⟨bad, r, v, rounds, ?_⟩
    rw [pool] at took
    rcases ends with ⟨many, failed, _⟩ | ⟨_, last⟩
    · cases failed
      rw [pursuitPatience run found] at many
      exact .inr (.inr (.inl ⟨rfl, many⟩))
    · cases last with
      | closed stopped => exact .inl ⟨rfl, took.shutDown ▸ stopped⟩
      | unopened _ _ _ failed =>
        exact .inr (.inr (.inr (took.source ▸ Pool.openEntryFails.mp ⟨_, _, failed⟩)))
      | late _ _ deadline reached => exact .inr (.inl ⟨rfl, _, deadline, reached⟩)

theorem unopenedFails (run : Run (.start source config world) history s)
    (found : s.pursuit? e = some x) {bad : List Entry} {q : Pool} {v : World σ}
    (rounds : Pool.Rounds x.attempt.username x.attempt.password x.pool s.world bad q v)
    (few : bad.length ≤ s.pool.config.badLimit) (going : s.pool.shutDown = false) (idle : q.idle = [])
    (room : q.active.length < s.pool.config.maxActive.toNat)
    (fails : s.pool.source.Fails x.attempt.username x.attempt.password v error) :
    (Moment.mk s e).failed? = some (x, error) := by
  obtain ⟨time, pool⟩ := pursuitPool found
  obtain ⟨_, _, took⟩ := rounds.took (pursuitFits run found)
  have patient : bad.length ≤ x.pool.config.badLimit - x.attempt.bad := by
    rw [pursuitPatience run found]
    exact few
  rw [pool] at took
  obtain ⟨r, later, failed⟩ := Pool.openEntryFails.mpr (took.source ▸ fails)
  have ends (n : Nat) : q.pursue n { x.attempt with bad := x.attempt.bad + bad.length } v =
      (.failed error, r, later) :=
    Pool.pursueUnopened (took.shutDown.trans going) idle (took.config ▸ room) failed
  refine failedIff.mpr ⟨found, ?_⟩
  rw [Pool.resume, rounds.pursue patient rfl rfl, ends]

end State

theorem failureHarmless {source : Source} {config : Config} {world : World σ}
    {history : List (Moment σ)} {s : State σ} (run : Run (.start source config world) history s)
    {e : Event σ} {x : Pursuit} (found : s.pursuit? e = some x) :
    (∀ error, (Moment.mk s e).failed? = some (x, error) →
      (∀ m ∈ history ++ [⟨s, e⟩], ∀ y, m.state.pursuit? m.event = some y → y.number = x.number →
        ∃ kept held, m.Harmless y kept held) ∧
      ∃ bad q v, Pool.Rounds x.attempt.username x.attempt.password x.pool s.world bad q v ∧
        (error = .poolClosed ∧ s.pool.shutDown = true ∨
          error = .deadlinePassed ∧ (∃ moment, x.attempt.deadline = some moment ∧ moment ≤ v.clock) ∨
          error = .noGoodConnection ∧ bad.length = s.pool.config.badLimit + 1 ∨
          s.pool.source.Fails x.attempt.username x.attempt.password v error)) ∧
    ∀ bad q v error, Pool.Rounds x.attempt.username x.attempt.password x.pool s.world bad q v →
      bad.length ≤ s.pool.config.badLimit → s.pool.shutDown = false → q.idle = [] →
      q.active.length < s.pool.config.maxActive.toNat →
      s.pool.source.Fails x.attempt.username x.attempt.password v error →
      (Moment.mk s e).failed? = some (x, error) := by
  refine ⟨fun error failed => ⟨fun m member y pursued same => ?_, State.failedCause run failed⟩,
    fun bad q v error rounds few going idle room fails =>
      State.unopenedFails run found rounds few going idle room fails⟩
  rcases List.mem_append.mp member with earlier | latest
  · -- the acquire had to wait there, as it would not go on now if it had been granted anything
    obtain ⟨past, before⟩ := run.earlier earlier
    exact State.ungrantedHarmless before pursued (State.neverGranted run found earlier same)
  · cases List.mem_singleton.mp latest
    refine State.ungrantedHarmless run pursued fun k granted => ?_
    obtain ⟨_, q, later, result⟩ := State.grantedResume granted
    cases Option.some.inj (found.symm.trans pursued)
    have ended := (State.failedIff.mp failed).2
    rw [result] at ended
    cases ended

def refused : List (Event Scenario.Plan) := [.acquireDefault, .giveBack 0, breakdown]

theorem failureHarmlessRefused :
    let s := State.small.after refused
    let m : Moment Scenario.Plan := ⟨s, .acquireDefault⟩
    ∃ x, m.failed? = some (x, .connection "refused") ∧ (∀ f ∈ s.pool.idle, m.Rejects x f.connection) ∧
      s.pool.idle.length = 1 ∧ m.next.pool.idle = [] ∧
      m.next.pool.tally.requests = s.pool.tally.requests := by
  intro s m
  have run : Run State.small (State.small.history refused) s :=
    State.small.run (List.forall_mem_cons.mpr ⟨fun _ => trivial, List.forall_mem_cons.mpr
      ⟨fun _ => trivial, List.forall_mem_cons.mpr ⟨fun t => t.meanwhilePossible _ _, by simp⟩⟩⟩)
  obtain ⟨⟨x, error⟩, failed⟩ := Option.isSome_iff_exists.mp (by decide +kernel : m.failed?.isSome)
  have facts : (∀ r ∈ m.failed?, r.2 = .connection "refused") ∧ s.pool.idle.length = 1 ∧
      m.next.pool.idle = [] := by decide +kernel
  obtain ⟨reason, one, empty⟩ := facts
  have reason : error = .connection "refused" := reason _ failed
  subst reason
  have found := (State.failedIff.mp failed).1
  obtain ⟨harmless, _⟩ := (failureHarmless run found).1 _ failed
  obtain ⟨kept, held, left⟩ := harmless m (List.mem_append_right _ List.mem_cons_self) x found rfl
  refine ⟨x, failed, fun f idle => left.rejected f (List.mem_append_left _ ?_), one, empty,
    left.requests⟩
  have idle : f ∈ m.state.pool.idle := idle
  rw [left.idle, empty, List.append_nil] at idle
  exact idle

end Traffic
end ConnectionPool
