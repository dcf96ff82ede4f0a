import ConnectionPool.Proofs.Rounds
import ConnectionPool.Proofs.Staleness

/-! The conservation of checkouts. Each acquire that is granted a connection begins a checkout, and each
checkout is either still there or has ended once: its holder has returned it, another acquire has
reclaimed it, or it was closed by force along with all the others. The counters of a pool, to which
acquires and returns add each on their own, agree with the lists of what has begun and ended. -/
namespace ConnectionPool

namespace Pool

variable {σ : Type} [Conditions σ] {p : Pool} {e : Entry} {w : World σ}

theorem keepTally (p : Pool) (e : Entry) (w : World σ) :
    ∃ bad, (p.keep e w).1.tally = { p.tally with badConnections := bad } := by
  unfold keep
  split
  · exact ⟨_, rfl⟩
  · exact ⟨_, rfl⟩

theorem releaseTally (good : p.valid e = true) : ∃ bad, (p.release e w).1.tally = { p.tally with
    checkoutTime := p.tally.checkoutTime + e.checkoutTime w.clock, badConnections := bad } := by
  have back := releaseBack p e w
  generalize p.release e w = r at back
  cases back with
  | invalid bad => rw [bad] at good; cases good
  | closed => exact ⟨_, rfl⟩
  | kept _ _ _ result =>
    obtain ⟨bad, tally⟩ := keepTally (p.without e w.clock) e w
    rw [result] at tally
    exact ⟨bad, tally⟩
  | surplus => exact ⟨_, rfl⟩

end Pool

def Handle.ComesBack (h : Handle) (p : Pool) : Prop :=
  ∀ (st : Scenario.Stage) (number place : Nat), st.handle? number = some (place, p, h) →
    ∀ step : Scenario.HandleStep, step.givesBack = true →
      (st.handleStep number step).2.pools = st.pools.set place (h.giveBack p st.world).2.1 ∧
      (st.handleStep number step).2.world = (h.giveBack p st.world).2.2

theorem Handle.comesBack (h : Handle) (p : Pool) : h.ComesBack p :=
  fun _ _ _ found _ gives => Scenario.Stage.givenBack found gives

namespace Traffic

inductive Way where
  | returned
  | reclaimed
  | forceClosed
  deriving DecidableEq, Repr

structure Ending where
  entry : Entry
  way : Way
  time : Nat
  deriving DecidableEq, Repr

def total (endings : List Ending) : Nat := (endings.map (·.time)).sum

theorem totalAppend (l m : List Ending) : total (l ++ m) = total l + total m := by
  rw [total, List.map_append, List.sum_append]
  rfl

def Event.way {σ : Type} : Event σ → Way
  | giveBack _ => .returned
  | acquire .. | acquireDefault | wake _ => .reclaimed
  | _ => .forceClosed

variable {σ : Type} [Conditions σ]

namespace Moment

def started (m : Moment σ) : List Entry := (m.granted?.map (·.2)).toList

def ending (m : Moment σ) (f : Entry) : Ending :=
  ⟨f, m.event.way, f.checkoutTime m.state.world.clock⟩

def endings (m : Moment σ) : List Ending :=
  (m.state.pool.active.filter (· ∉ m.next.pool.active)).map m.ending

def Justifies (m : Moment σ) (x : Ending) : Prop :=
  match x.way with
  | .returned => ∃ number h, m.event = .giveBack number ∧ m.state.handles[number]? = some h ∧
      h.valid m.state.pool = true ∧ h.entry = x.entry
  | .reclaimed => (∃ y, m.state.pursuit? m.event = some y) ∧
      m.state.pool.config.maxCheckout.nanos < x.time
  | .forceClosed => m.event.empties = true

end Moment

def started (history : List (Moment σ)) : List Entry := history.flatMap (·.started)

def endings (history : List (Moment σ)) : List Ending := history.flatMap (·.endings)

def ended (way : Way) (history : List (Moment σ)) : List Ending :=
  (endings history).filter (·.way = way)

theorem endedNext (way : Way) (history : List (Moment σ)) (m : Moment σ) :
    ended way (history ++ [m]) = ended way history ++ ended way [m] := by
  rw [ended, endings, List.flatMap_append, List.filter_append]
  rfl

theorem endedNow (way : Way) (m : Moment σ) :
    ended way [m] = if m.event.way = way then m.endings else [] := by
  have all (x : Ending) (member : x ∈ m.endings) : x.way = m.event.way := by
    obtain ⟨f, _, rfl⟩ := List.mem_map.mp member
    rfl
  rw [ended, endings, List.flatMap_singleton]
  split
  · rename_i same
    exact List.filter_eq_self.mpr fun x member => decide_eq_true ((all x member).trans same)
  · rename_i other
    refine List.filter_eq_nil_iff.mpr fun x member same => other ?_
    exact (all x member).symm.trans (of_decide_eq_true same)

theorem endingsWays (history : List (Moment σ)) : (endings history).length =
    (ended .returned history).length + (ended .reclaimed history).length +
      (ended .forceClosed history).length := by
  unfold ended
  induction endings history with
  | nil => rfl
  | cons x l ih =>
    obtain ⟨f, way, time⟩ := x
    cases way <;> simp [ih] <;> omega

structure Moment.Balanced (m : Moment σ) (gone : List Entry) : Prop where
  entries : (m.state.pool.active ++ m.started).Perm (m.next.pool.active ++ gone)
  arrived : ∀ f ∈ m.started, f ∈ m.next.pool.active ∧ f ∉ m.state.pool.active
  requests : m.next.pool.tally.requests = m.state.pool.tally.requests + m.started.length
  overdueClaims : m.next.pool.tally.overdueClaims = m.state.pool.tally.overdueClaims +
    if m.event.way = .reclaimed then gone.length else 0
  overdueTime : m.next.pool.tally.overdueTime = m.state.pool.tally.overdueTime +
    if m.event.way = .reclaimed then total (gone.map m.ending) else 0
  checkoutTime : m.next.pool.tally.checkoutTime = m.state.pool.tally.checkoutTime +
    if m.event.way = .forceClosed then 0 else total (gone.map m.ending)
  justified : ∀ f ∈ gone, m.Justifies (m.ending f)

theorem Moment.Balanced.endings {m : Moment σ} {gone : List Entry} (h : m.Balanced gone)
    (unique : m.state.pool.active.Nodup) : m.endings.Perm (gone.map m.ending) := by
  have alone : m.started.Nodup := by
    unfold Moment.started
    cases m.granted? <;> simp
  have apart : (m.state.pool.active ++ m.started).Nodup :=
    List.nodup_append.mpr ⟨unique, alone, fun f old g new same => (h.arrived g new).2 (same ▸ old)⟩
  have none : m.started.filter (· ∉ m.next.pool.active) = [] :=
    List.filter_eq_nil_iff.mpr fun f new => by simpa using (h.arrived f new).1
  have still : m.next.pool.active.filter (· ∉ m.next.pool.active) = [] :=
    List.filter_eq_nil_iff.mpr fun f member => by simpa using member
  have all : gone.filter (· ∉ m.next.pool.active) = gone := by
    refine List.filter_eq_self.mpr fun f member => decide_eq_true fun kept => ?_
    exact (List.nodup_append.mp (h.entries.nodup apart)).2.2 f kept f member rfl
  have out := h.entries.filter (· ∉ m.next.pool.active)
  rw [List.filter_append, List.filter_append, none, still, all, List.append_nil, List.nil_append] at out
  exact out.map m.ending

theorem Moment.Balanced.endedTotal {m : Moment σ} {gone : List Entry} (h : m.Balanced gone)
    (unique : m.state.pool.active.Nodup) (way : Way) :
    total (ended way [m]) = if m.event.way = way then total (gone.map m.ending) else 0 := by
  rw [endedNow]
  split
  · exact ((h.endings unique).map (·.time)).sum_nat
  · rfl

namespace State

variable {s : State σ} {e : Event σ} {x : Pursuit} {number : Nat} {h : Handle}
  {history : List (Moment σ)} {source : Source} {config : Config} {world : World σ}

theorem startedNone (without : (Moment.mk s e).granted? = none) : (Moment.mk s e).started = [] := by
  simp only [Moment.started, without, Option.map_none, Option.toList_none]

theorem quietGrants (quiet : s.pursuit? e = none) : (Moment.mk s e).granted? = none := by
  simp only [Moment.granted?, quiet]

theorem startedOne {k : Entry} (granted : (Moment.mk s e).granted? = some (x, k)) :
    (Moment.mk s e).started = [k] := by
  simp only [Moment.started, granted, Option.map_some, Option.toList_some]

theorem balancedQuiet {gone : List Entry} (quiet : s.pursuit? e = none)
    (unclaimed : e.way = .reclaimed → gone = [])
    (entries : s.pool.active.Perm ((s.step e).pool.active ++ gone))
    (tally : ∃ bad, (s.step e).pool.tally = { s.pool.tally with
      checkoutTime := s.pool.tally.checkoutTime +
        if e.way = .forceClosed then 0 else total (gone.map (Moment.mk s e).ending)
      badConnections := bad })
    (justified : ∀ f ∈ gone, (Moment.mk s e).Justifies ((Moment.mk s e).ending f)) :
    (Moment.mk s e).Balanced gone := by
  obtain ⟨bad, tally⟩ := tally
  have none : (Moment.mk s e).started = [] := startedNone (quietGrants quiet)
  refine ⟨?_, fun f begun => ?_, ?_, ?_, ?_, ?_, justified⟩
  · rw [none, List.append_nil]
    exact entries
  · rw [none] at begun
    cases begun
  · simp only [Moment.next, tally, none, List.length_nil, Nat.add_zero]
  · simp only [Moment.next, tally]
    split
    · rename_i claims
      rw [unclaimed claims, List.length_nil, Nat.add_zero]
    · rfl
  · simp only [Moment.next, tally]
    split
    · rename_i claims
      rw [unclaimed claims]
      rfl
    · rfl
  · simp only [Moment.next, tally]

theorem balancedStill (quiet : s.pursuit? e = none)
    (active : (s.step e).pool.active = s.pool.active)
    (tally : ∃ bad, (s.step e).pool.tally = { s.pool.tally with badConnections := bad }) :
    (Moment.mk s e).Balanced [] := by
  obtain ⟨bad, tally⟩ := tally
  refine balancedQuiet quiet (fun _ => rfl) ?_ ⟨bad, ?_⟩ fun _ member => absurd member List.not_mem_nil
  · rw [active, List.append_nil]
  · have nothing : (if e.way = .forceClosed then 0 else total []) = 0 := ite_self 0
    rw [List.map_nil, nothing]
    exact tally

theorem balancedReturn (kept : s.Kept history) (found : s.handles[number]? = some h) :
    ∃ gone, (Moment.mk s (.giveBack number)).Balanced gone := by
  have pool : (s.step (.giveBack number)).pool = (h.giveBack s.pool s.world).2.1 := by
    simp only [step, found]
  cases out : h.released with
  | true =>
    rw [(Handle.giveBackAgain out).1] at pool
    exact ⟨[], balancedStill rfl (congrArg Pool.active pool) ⟨_, congrArg Pool.tally pool⟩⟩
  | false =>
    have pool : (s.step (.giveBack number)).pool = (s.pool.release h.entry s.world).1 := by
      rw [pool, Handle.giveBack, out, if_neg Bool.false_ne_true]
    cases good : s.pool.valid h.entry with
    | false =>
      rw [Pool.releaseInvalid good, kept.ledger.absent good] at pool
      have active : (s.step (.giveBack number)).pool.active = s.pool.active := congrArg (·.active) pool
      exact ⟨[], balancedStill rfl active ⟨_, congrArg (·.tally) pool⟩⟩
    | true =>
      obtain ⟨bad, tally⟩ := Pool.releaseTally (w := s.world) good
      obtain ⟨before, after, split, erased⟩ :=
        Pool.eraseSplit (returning kept found good) kept.ledger.activeSerials
      have valid : h.valid s.pool = true := by rw [Handle.valid, out, good]; rfl
      refine ⟨[h.entry], balancedQuiet rfl (fun claims => ?_) ?_ ⟨bad, ?_⟩ fun f member => ?_⟩
      · cases claims
      · rw [pool, (s.pool.releaseAccount h.entry s.world).2.1, erased, split]
        exact List.perm_middle.trans (List.perm_append_singleton _ _).symm
      · exact (congrArg Pool.tally pool).trans tally
      · rw [List.mem_singleton.mp member]
        exact ⟨number, h, rfl, found, valid, rfl⟩

omit [Conditions σ] in
theorem emptiesForced (empties : e.empties = true) : s.pursuit? e = none ∧ e.way = .forceClosed := by
  cases e <;> first | exact ⟨rfl, rfl⟩ | cases empties

theorem emptiedTally (empties : e.empties = true) : (s.step e).pool.tally = s.pool.tally := by
  obtain ⟨change, same, pool⟩ := s.emptiedBy empties
  obtain ⟨_, emptied⟩ := s.pool.reconfigurePool change s.world
  rw [pool, emptied]
  exact same s.pool

theorem balancedEmptied (empties : e.empties = true) : (Moment.mk s e).Balanced s.pool.active := by
  obtain ⟨quiet, way⟩ := emptiesForced (s := s) empties
  have tally := emptiedTally (s := s) empties
  refine balancedQuiet quiet (fun claims => ?_) ?_ ⟨s.pool.tally.badConnections, ?_⟩ fun f _ => ?_
  · rw [way] at claims
    cases claims
  · rw [(s.emptiedStep empties).2.1, List.nil_append]
  · rw [if_pos way]
    exact tally
  · simp only [Moment.Justifies, Moment.ending, way]
    exact empties

omit [Conditions σ] in
theorem pursuitWay (found : s.pursuit? e = some x) : e.way = .reclaimed := by
  cases e <;> first | rfl | cases found

theorem pursuitBegins (run : Run (.start source config world) history s)
    (found : s.pursuit? e = some x) :
    ∃ met bad kept held r, Pool.Took x.pool s.world.clock met bad kept held r ∧
      (s.step e).pool.active = r.active ++ (Moment.mk s e).started ∧
      (∀ f ∈ (Moment.mk s e).started, f ∉ s.pool.active) ∧
      ∃ time waits, (s.step e).pool.tally = { r.tally with
        requests := r.tally.requests + (Moment.mk s e).started.length
        requestTime := time
        waits := waits } := by
  obtain ⟨met, bad, kept, held, r, took, _, _, ends⟩ := pursuitTook run found
  refine ⟨met, bad, kept, held, r, took, ?_⟩
  rcases ends with ⟨without, _, _, active, waits, tally⟩ | ⟨k, time, _, granted, active, tally⟩
  · have none : (Moment.mk s e).started = [] := by
      refine startedNone (Option.eq_none_iff_forall_ne_some.mpr fun (y, k) granted => ?_)
      cases Option.some.inj (found.symm.trans (grantedIff.mp granted).1)
      exact without k granted
    rw [none, List.append_nil]
    exact ⟨active, fun f member => absurd member List.not_mem_nil, _, _, tally⟩
  · rw [startedOne granted]
    refine ⟨active, fun f member => ?_, _, _, tally⟩
    rw [List.mem_singleton.mp member]
    exact (grantedNew run granted).2

theorem balancedPursuit (run : Run (.start source config world) history s)
    (found : s.pursuit? e = some x) : ∃ gone, (Moment.mk s e).Balanced gone := by
  obtain ⟨met, bad, idle, gone, r, took, active, new, time, waits, tally⟩ := pursuitBegins run found
  obtain ⟨waited, pool⟩ := pursuitPool found
  have way := pursuitWay found
  rw [pool] at took
  have before : s.pool.active = gone ++ r.active := took.active
  -- both counters of times are added to at the same moment, the one at which the section begins
  have reclaims : (gone.map (·.checkoutTime s.world.clock)).sum =
      total (gone.map (Moment.mk s e).ending) := by
    rw [total, List.map_map]
    rfl
  refine ⟨gone, ?_, fun f begun => ⟨?_, new f begun⟩, ?_, ?_, ?_, ?_, fun f member => ?_⟩
  · simp only [Moment.next, before, active]
    rw [List.append_assoc]
    exact List.perm_append_comm
  · simp only [Moment.next, active]
    exact List.mem_append_right _ begun
  · simp only [Moment.next, tally, took.tally]
  · simp only [Moment.next, tally, took.tally, way, if_true]
  · simp only [Moment.next, tally, took.tally, way, if_true, reclaims]
  · simp only [Moment.next, tally, took.tally, way, reduceCtorEq, if_false, reclaims]
  · simp only [Moment.Justifies, Moment.ending, way]
    exact ⟨⟨x, found⟩, took.overdue f member⟩

theorem balancedStep (run : Run (.start source config world) history s) (possible : s.Possible e) :
    ∃ gone, (Moment.mk s e).Balanced gone := by
  have unchanged {e : Event σ} (quiet : s.pursuit? e = none) (same : (s.step e).pool = s.pool) :
      ∃ gone, (Moment.mk s e).Balanced gone :=
    ⟨[], balancedStill quiet (congrArg (·.active) same) ⟨_, congrArg (·.tally) same⟩⟩
  cases found : s.pursuit? e with
  | some x => exact balancedPursuit run found
  | none =>
    cases e with
    | acquire => cases found
    | acquireDefault => cases found
    | wake number =>
      have absent : s.waiter? number = none := Option.map_eq_none_iff.mp found
      exact unchanged found (by simp only [step, absent])
    | giveBack number =>
      cases there : s.handles[number]? with
      | none => exact unchanged found (by simp only [step, there])
      | some h => exact balancedReturn (kept run) there
    | validate | use | ping => exact unchanged found (by simp only [step]; split <;> rfl)
    | set setting =>
      cases setting with
      | badTolerance => exact ⟨[], balancedStill found rfl ⟨_, rfl⟩⟩
      | _ => exact ⟨_, balancedEmptied rfl⟩
    | forceCloseAll | shutdown => exact ⟨_, balancedEmptied rfl⟩
    | outside => exact unchanged found rfl

theorem entriesStep (run : Run (.start source config world) history s) (possible : s.Possible e) :
    (s.step e).handles.map (·.entry) = s.handles.map (·.entry) ++ (Moment.mk s e).started := by
  cases granted : (Moment.mk s e).granted? with
  | some r =>
    rw [(grantedNew run granted).1, startedOne granted, List.map_append]
    rfl
  | none =>
    rw [startedNone granted, List.append_nil]
    have course := s.course e possible
    generalize next : s.step e = t at course
    cases course with
    | pursued x found =>
      cases result : x.pool.resume x.attempt s.world with
      | mk o r =>
        cases o with
        | granted k =>
          rw [grantedIff.mpr ⟨found, congrArg Prod.fst result⟩] at granted
          cases granted
        | failed | waiting => cases e <;> rfl
    | called => rfl
    | @returned number h found =>
      obtain ⟨bound, rfl⟩ := List.getElem?_eq_some_iff.mp found
      have mapped : number < (s.handles.map (·.entry)).length := by simpa using bound
      have same : s.handles[number].entry = (s.handles.map (·.entry))[number] :=
        (List.getElem_map _).symm
      rw [List.map_set, (Handle.giveBackFades _ _ _).1, same, List.set_getElem_self]
    | emptied => rfl
    | tolerated => rfl
    | outside => rfl

theorem startedEntries (run : Run (.start source config world) history s) :
    started history = s.handles.map (·.entry) := by
  induction run with
  | none => rfl
  | more before e possible ih =>
    rw [entriesStep before possible, ← ih, started, List.flatMap_append, List.flatMap_singleton]
    rfl

/-- Each checkout is still there or has ended once, and the counters say so. Those that were closed by
force have their times in no counter. -/
structure Conserved (history : List (Moment σ)) (s : State σ) : Prop where
  checkouts : (started history).Perm (s.pool.active ++ (endings history).map (·.entry))
  justified : ∀ m ∈ history, ∀ x ∈ m.endings, m.Justifies x
  requests : s.pool.tally.requests = (started history).length
  overdueClaims : s.pool.tally.overdueClaims = (ended .reclaimed history).length
  overdueTime : s.pool.tally.overdueTime = total (ended .reclaimed history)
  checkoutTime : s.pool.tally.checkoutTime =
    total (ended .returned history) + total (ended .reclaimed history)

theorem conservedStep {gone : List Entry} (h : s.Conserved history)
    (balanced : (Moment.mk s e).Balanced gone) (unique : s.pool.active.Nodup) :
    (s.step e).Conserved (history ++ [⟨s, e⟩]) := by
  have out := balanced.endings unique
  refine ⟨?_, fun m member x ends => ?_, ?_, ?_, ?_, ?_⟩
  · have entries : ((Moment.mk s e).endings.map (·.entry)).Perm gone := by
      have entries := out.map (·.entry)
      rw [List.map_map] at entries
      exact entries.trans (.of_eq (List.map_id gone))
    rw [started, endings, List.flatMap_append, List.flatMap_append, List.flatMap_singleton,
      List.flatMap_singleton, List.map_append]
    have before : (started history ++ (Moment.mk s e).started).Perm
        (s.pool.active ++ (Moment.mk s e).started ++ (Traffic.endings history).map (·.entry)) := by
      refine (h.checkouts.append_right _).trans ?_
      rw [List.append_assoc, List.append_assoc]
      exact List.perm_append_comm.append_left _
    refine before.trans ((balanced.entries.append_right _).trans ?_)
    rw [List.append_assoc]
    exact (List.perm_append_comm.trans (entries.symm.append_left _)).append_left _
  · rcases List.mem_append.mp member with old | new
    · exact h.justified m old x ends
    · cases List.mem_singleton.mp new
      obtain ⟨f, member, rfl⟩ := List.mem_map.mp (out.subset ends)
      exact balanced.justified f member
  · rw [started, List.flatMap_append, List.length_append, List.flatMap_singleton]
    exact balanced.requests.trans (congrArg (· + _) h.requests)
  · rw [endedNext, List.length_append, endedNow, ← h.overdueClaims]
    refine balanced.overdueClaims.trans (congrArg (_ + ·) ?_)
    split
    · rw [out.length_eq, List.length_map]
    · rfl
  · rw [endedNext, totalAppend, balanced.endedTotal unique, ← h.overdueTime]
    exact balanced.overdueTime
  · rw [endedNext, endedNext, totalAppend, totalAppend, balanced.endedTotal unique,
      balanced.endedTotal unique, Nat.add_add_add_comm, ← h.checkoutTime]
    refine balanced.checkoutTime.trans (congrArg (_ + ·) ?_)
    cases e.way <;> simp

theorem conserved (run : Run (.start source config world) history s) : s.Conserved history := by
  induction run with
  | none => exact ⟨.refl _, fun _ member => (nomatch member), rfl, rfl, rfl, rfl⟩
  | more before e possible ih =>
    obtain ⟨gone, balanced⟩ := balancedStep before possible
    exact conservedStep ih balanced (kept before).ledger.activeSerials.of_map

end State

theorem checkoutsConserved {source : Source} {config : Config} {world : World σ}
    {history : List (Moment σ)} {s : State σ} (run : Run (.start source config world) history s) :
    s.Conserved history ∧
    ((started history).map Entry.serial).Nodup ∧
    s.pool.tally.requests = s.pool.active.length + (ended .returned history).length +
      (ended .reclaimed history).length + (ended .forceClosed history).length ∧
    ∀ (number : Nat) (h : Handle), s.handles[number]? = some h →
      (s.step (.giveBack number)).pool = (h.giveBack s.pool s.world).2.1 ∧ h.ComesBack s.pool := by
  have conserved := State.conserved run
  refine ⟨conserved, ?_, ?_, fun number h found => ⟨?_, h.comesBack s.pool⟩⟩
  · rw [State.startedEntries run, List.map_map]
    exact (State.kept run).issued.serials
  · rw [conserved.requests, conserved.checkouts.length_eq, List.length_append, List.length_map,
      endingsWays]
    simp only [Nat.add_assoc]
  · simp only [State.step, found]

def endedThrice : List (Event Scenario.Plan) :=
  takenOver ++ [.giveBack 1, .acquire none none none, .forceCloseAll, .giveBack 2]

theorem endedThricePossible : ∀ e ∈ endedThrice, ∀ t : State Scenario.Plan, t.Possible e :=
  List.forall_mem_append.mpr ⟨takenOverPossible, by simp [State.Possible]⟩

theorem checkoutsConservedThrice :
    (State.small.after endedThrice).Conserved (State.small.history endedThrice) ∧
    (State.small.after endedThrice).pool.tally.requests = 3 ∧
    (endings (State.small.history endedThrice)).map (·.way) = [.reclaimed, .returned, .forceClosed] :=
  ⟨(checkoutsConserved (State.small.run endedThricePossible)).1, by decide +kernel, by decide +kernel⟩

end Traffic
end ConnectionPool
