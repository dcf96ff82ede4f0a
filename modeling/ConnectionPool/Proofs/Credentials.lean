import ConnectionPool.Proofs.Origins

/-! Whose credentials a connection carries. An acquire that opens a connection does so with its own
credentials, but one that reuses a connection or takes one over gets it as somebody else opened it. An
acquire with the configured credentials keeps to those that were configured when it began. -/
namespace ConnectionPool.Traffic

variable {σ : Type} [Conditions σ]

def Moment.granted? (m : Moment σ) : Option (Pursuit × Entry) :=
  match m.state.pursuit? m.event with
  | none => none
  | some x =>
    match (x.pool.resume x.attempt m.state.world).1 with
    | .granted k => some (x, k)
    | _ => none

namespace State

variable {s : State σ} {e : Event σ} {x : Pursuit} {k : Entry} {history : List (Moment σ)}

theorem grantedResume (granted : (Moment.mk s e).granted? = some (x, k)) :
    s.pursuit? e = some x ∧
      ∃ q later, x.pool.resume x.attempt s.world = (.granted k, q, later) := by
  unfold Moment.granted? at granted
  cases found : s.pursuit? e with
  | none => rw [found] at granted; cases granted
  | some y =>
    simp only [found] at granted
    cases result : y.pool.resume y.attempt s.world with
    | mk o r =>
      rw [result] at granted
      cases o with
      | granted => cases granted; exact ⟨rfl, _, _, result⟩
      | failed => cases granted
      | waiting => cases granted

theorem grantedEntry (granted : (Moment.mk s e).granted? = some (x, k)) :
    s.pursuit? e = some x ∧ k ∈ (s.step e).pool.active ∧ k.typeCode =
      typeCode (s.step e).pool.source.url x.attempt.username x.attempt.password := by
  obtain ⟨found, q, later, result⟩ := grantedResume granted
  have ends := (Pool.searching x.attempt.username x.attempt.password).resume trivial result
  cases ends with
  | granted =>
    rw [stepPursuit found, result]
    exact ⟨found, List.mem_append_right _ List.mem_cons_self, rfl⟩

theorem grantedOrigin (sourced : s.Sourced history) (granted : (Moment.mk s e).granted? = some (x, k)) :
    (s.step e).pool.source = s.pool.source ∧ (s.step e).pool.expectedCode = s.pool.expectedCode ∧
    ∃ m ∈ history ++ [⟨s, e⟩], ∃ y, m.OpensFor y s.pool.source k.connection ∧
      (s.step e).world.OpenedAs k.connection s.pool.source y.attempt.username y.attempt.password ∧
      (m = ⟨s, e⟩ ∧ y = x ∨
        m ∈ history ∧ ∃ f ∈ s.pool.idle ++ s.pool.active, f.connection = k.connection) := by
  obtain ⟨found, active, _⟩ := grantedEntry granted
  have origins := pursuitOrigins sourced.code found
  refine ⟨origins.source, origins.code.trans sourced.code.symm, ?_⟩
  rcases origins.live k (List.mem_append_right _ active) with ⟨f, old, connection⟩ | ⟨since, known⟩
  · obtain ⟨m, earlier, y, opens, stands⟩ := sourced.live f old
    rw [connection] at opens stands
    exact ⟨m, List.mem_append_left _ earlier, y, opens, stands.later origins.grows,
      .inr ⟨earlier, f, old, connection⟩⟩
  · obtain ⟨opens, stands⟩ := pursuitOpens sourced.code found since known
    exact ⟨_, List.mem_append_right _ List.mem_cons_self, x, opens, stands, .inl ⟨rfl, rfl⟩⟩

end State

/- A connection that is granted was opened for the target that the pool has, with the credentials of the
acquire that opened it: this one, or an earlier one whose connection is reused or taken over. So a caller
gets a connection of its own credentials just when the driver was told the same for both. -/
theorem grantedFor {source : Source} {config : Config} {world : World σ} {history : List (Moment σ)}
    {s : State σ} (run : Run (.start source config world) history s) {e : Event σ} {x : Pursuit}
    {k : Entry} (granted : (Moment.mk s e).granted? = some (x, k)) :
    ∃ m ∈ history ++ [⟨s, e⟩], ∃ y, m.OpensFor y s.pool.source k.connection ∧
      (s.step e).world.OpenedAs k.connection s.pool.source y.attempt.username y.attempt.password ∧
      (m = ⟨s, e⟩ ∧ y = x ∨
        m ∈ history ∧ ∃ f ∈ s.pool.idle ++ s.pool.active, f.connection = k.connection) ∧
      ((s.step e).world.OpenedAs k.connection s.pool.source x.attempt.username x.attempt.password ↔
        s.pool.source.propertiesFor y.attempt.username y.attempt.password =
          s.pool.source.propertiesFor x.attempt.username x.attempt.password) := by
  obtain ⟨_, _, m, member, y, opens, stands, origin⟩ := State.grantedOrigin (State.sourced run) granted
  exact ⟨m, member, y, opens, stands, origin, stands.same⟩

def overdue : List (Event Scenario.Plan) :=
  [.acquire (some "alice") (some "a") none, .meanwhile 200000000 .undisturbed]

theorem overdueRun : Run State.small (State.small.history overdue) (State.small.after overdue) :=
  State.small.run (List.forall_mem_cons.mpr ⟨fun _ => trivial, List.forall_mem_cons.mpr
    ⟨fun t => t.meanwhilePossible _ _, nofun⟩⟩)

theorem grantedForTakenOver : ∃ x k, ∃ m ∈ State.small.history overdue ++
      [⟨State.small.after overdue, .acquire (some "bob") (some "b") none⟩], ∃ y,
    (Moment.mk (State.small.after overdue) (.acquire (some "bob") (some "b") none)).granted? = some (x, k) ∧
      m.OpensFor y (State.small.after overdue).pool.source k.connection := by
  obtain ⟨⟨x, k⟩, granted⟩ := Option.isSome_iff_exists.mp (by decide +kernel :
    (Moment.mk (State.small.after overdue) (.acquire (some "bob") (some "b") none)).granted?.isSome)
  obtain ⟨m, member, y, opens, _⟩ := grantedFor overdueRun granted
  exact ⟨x, k, m, member, y, granted, opens⟩

theorem strangersConnection : ∃ history s, Run State.small history s ∧
    ∃ r ∈ (Moment.mk s (.acquire (some "bob") (some "b") none)).granted?,
      (s.step (.acquire (some "bob") (some "b") none)).world.OpenedAs r.2.connection s.pool.source
        (some "alice") (some "a") ∧
      ¬(s.step (.acquire (some "bob") (some "b") none)).world.OpenedAs r.2.connection s.pool.source
        (some "bob") (some "b") :=
  ⟨_, _, overdueRun, by decide +kernel⟩

namespace State

variable {s : State σ} {e : Event σ} {x : Pursuit} {history : List (Moment σ)}

omit [Conditions σ] in
theorem settleAcquires (s : State σ) (number : Nat) (r : Outcome × Pool × World σ) :
    (s.settle number r).acquires = s.acquires := by
  obtain ⟨o, p, w⟩ := r
  cases o <;> rfl

theorem pursuitNumber (found : s.pursuit? e = some x) :
    x.number = s.acquires ∧ (s.step e).acquires = s.acquires + 1 ∨
      ∃ y ∈ s.waiters, y.number = x.number ∧ y.attempt = x.attempt := by
  cases e <;> try cases found
  case acquire => exact .inl ⟨rfl, settleAcquires _ _ _⟩
  case acquireDefault => exact .inl ⟨rfl, settleAcquires _ _ _⟩
  case wake number =>
    obtain ⟨y, waits, rfl⟩ := Option.map_eq_some_iff.mp found
    have number := List.find?_some waits
    exact .inr ⟨y, List.mem_of_find?_eq_some waits, beq_iff_eq.mp number, rfl⟩

theorem acquiresGrow (possible : s.Possible e) : s.acquires ≤ (s.step e).acquires := by
  have course := s.course e possible
  generalize s.step e = t at course
  cases course with
  | pursued x =>
    rw [settleAcquires]
    cases e <;> first | exact Nat.le_refl _ | exact Nat.le_succ _
  | called => exact Nat.le_refl _
  | returned => exact Nat.le_refl _
  | emptied => exact Nat.le_refl _
  | tolerated => exact Nat.le_refl _
  | outside => exact Nat.le_refl _

theorem numbersBelow {source : Source} {config : Config} {world : World σ}
    (run : Run (.start source config world) history s) {y : Waiter} (member : y ∈ s.waiters) :
    y.number < s.acquires := by
  induction run generalizing y with
  | none => cases member
  | @more history s before e possible ih =>
    rcases waitersStep (s.course e possible) member with old | ⟨_, _, x, found, number, _⟩
    · exact Nat.lt_of_lt_of_le (ih old) (acquiresGrow possible)
    · rw [number]
      rcases pursuitNumber found with ⟨same, more⟩ | ⟨z, old, same, _⟩
      · rw [same, more]
        exact Nat.lt_succ_self _
      · rw [← same]
        exact Nat.lt_of_lt_of_le (ih old) (acquiresGrow possible)

theorem defaultAsked {source : Source} {config : Config} {world : World σ} {t : State σ}
    (run : Run (.start source config world) history s) (began : ⟨t, .acquireDefault⟩ ∈ history) :
    t.acquires < s.acquires ∧ ∀ y ∈ s.waiters, y.number = t.acquires →
      y.attempt.username = t.pool.source.username ∧ y.attempt.password = t.pool.source.password := by
  induction run with
  | none => cases began
  | @more history s before e possible ih =>
    rcases List.mem_append.mp began with earlier | now
    · obtain ⟨below, asked⟩ := ih earlier
      refine ⟨Nat.lt_of_lt_of_le below (acquiresGrow possible), fun y member same => ?_⟩
      rcases waitersStep (s.course e possible) member with old | ⟨_, _, x, found, number, user, word⟩
      · exact asked y old same
      · rw [user, word]
        rcases pursuitNumber found with ⟨new, _⟩ | ⟨z, old, before, attempt⟩
        · exact absurd (same.symm.trans (number.trans new)) (Nat.ne_of_lt below)
        · rw [← attempt]
          exact asked z old (before.trans (number.symm.trans same))
    · cases List.mem_singleton.mp now
      refine ⟨?_, fun y member same => ?_⟩
      · change t.acquires < (settle _ _ _).acquires
        rw [settleAcquires]
        exact Nat.lt_succ_self _
      · rcases waitersStep (t.course _ possible) member with old | ⟨_, _, x, found, _, user, word⟩
        · exact absurd same (Nat.ne_of_lt (numbersBelow before old))
        · cases found
          exact ⟨user, word⟩

theorem defaultPursued {source : Source} {config : Config} {world : World σ} {t : State σ}
    (run : Run (.start source config world) history s) (began : ⟨t, .acquireDefault⟩ ∈ history)
    (found : s.pursuit? e = some x) (same : x.number = t.acquires) :
    x.attempt.username = t.pool.source.username ∧ x.attempt.password = t.pool.source.password := by
  obtain ⟨below, asked⟩ := defaultAsked run began
  rcases pursuitNumber found with ⟨new, _⟩ | ⟨y, waits, number, attempt⟩
  · exact absurd (same.symm.trans new) (Nat.ne_of_lt below)
  · rw [← attempt]
    exact asked y waits (number.trans same)

end State

theorem grantedAfterWait {source : Source} {config : Config} {world : World σ}
    {history : List (Moment σ)} {s t : State σ} (run : Run (.start source config world) history s)
    (began : ⟨t, .acquireDefault⟩ ∈ history) {e : Event σ} {x : Pursuit} {k : Entry}
    (granted : (Moment.mk s e).granted? = some (x, k)) (same : x.number = t.acquires) :
    k.typeCode = typeCode s.pool.source.url t.pool.source.username t.pool.source.password ∧
    (s.step e).pool.expectedCode =
      typeCode s.pool.source.url s.pool.source.username s.pool.source.password ∧
    (∀ c, (Moment.mk s e).Opens c → (s.step e).world.OpenedAs c s.pool.source
      t.pool.source.username t.pool.source.password) ∧
    (∃ m ∈ history ++ [⟨s, e⟩], ∃ y, m.OpensFor y s.pool.source k.connection ∧
      (s.step e).world.OpenedAs k.connection s.pool.source y.attempt.username y.attempt.password) ∧
    (t.pool.source.username = s.pool.source.username →
      t.pool.source.password = s.pool.source.password →
      k.typeCode = (s.step e).pool.expectedCode ∧ ∀ c, (Moment.mk s e).Opens c →
        (s.step e).world.OpenedAs c s.pool.source s.pool.source.username s.pool.source.password) := by
  have sourced := State.sourced run
  obtain ⟨found, _, bears⟩ := State.grantedEntry granted
  obtain ⟨user, word⟩ := State.defaultPursued run began found same
  obtain ⟨target, expected, m, member, y, opens, stands, _⟩ := State.grantedOrigin sourced granted
  have code : (s.step e).pool.expectedCode =
      typeCode s.pool.source.url s.pool.source.username s.pool.source.password :=
    expected.trans sourced.code
  have opened (c : Nat) (now : (Moment.mk s e).Opens c) : (s.step e).world.OpenedAs c s.pool.source
      t.pool.source.username t.pool.source.password := by
    have stands := (State.pursuitOpens sourced.code found now.2.1 now.2.2).2
    rw [user, word] at stands
    exact stands
  rw [target, user, word] at bears
  refine ⟨bears, code, opened, ⟨m, member, y, opens, stands⟩, fun user word => ?_⟩
  rw [← user, ← word] at code ⊢
  exact ⟨bears.trans code.symm, opened⟩

def defaults : List (Event Scenario.Plan) := [.acquireDefault, .acquireDefault]

theorem defaultsRun : Run State.small (State.small.history defaults) (State.small.after defaults) :=
  State.small.run (by simp [defaults, State.Possible])

theorem grantedAfterEmptying : ∃ r ∈ (Moment.mk (State.small.after (defaults ++ [.forceCloseAll]))
    (.wake 1)).granted?, r.2.typeCode =
      ((State.small.after (defaults ++ [.forceCloseAll])).step (.wake 1)).pool.expectedCode := by
  have number : ∀ r ∈ (Moment.mk (State.small.after (defaults ++ [.forceCloseAll])) (.wake 1)).granted?,
      r.1.number = 1 := by decide +kernel
  obtain ⟨⟨x, k⟩, granted⟩ := Option.isSome_iff_exists.mp (by decide +kernel :
    (Moment.mk (State.small.after (defaults ++ [.forceCloseAll])) (.wake 1)).granted?.isSome)
  have began : ⟨State.small.step .acquireDefault, .acquireDefault⟩ ∈ State.small.history defaults ++
      [⟨State.small.after defaults, .forceCloseAll⟩] :=
    List.mem_append_left _ (List.mem_cons_of_mem _ List.mem_cons_self)
  have law := grantedAfterWait (defaultsRun.more .forceCloseAll trivial) began granted (number _ granted)
  exact ⟨(x, k), granted, (law.2.2.2.2 (by decide +kernel) (by decide +kernel)).1⟩

theorem staleCredentials : ∃ history s t, Run State.small history s ∧ ⟨t, .acquireDefault⟩ ∈ history ∧
    t.acquires = 1 ∧ ∃ r ∈ (Moment.mk s (.wake 1)).granted?, r.1.number = 1 ∧
      r.2.typeCode ≠ (s.step (.wake 1)).pool.expectedCode ∧
      s.world.connections.length ≤ r.2.connection ∧
      ¬(s.step (.wake 1)).world.OpenedAs r.2.connection s.pool.source s.pool.source.username
        s.pool.source.password := by
  have run := defaultsRun.more (.set (.username (some "ops"))) trivial
  refine ⟨_, _, State.small.step .acquireDefault, run, ?_, by decide +kernel, by decide +kernel⟩
  exact List.mem_append_left _ (List.mem_cons_of_mem _ List.mem_cons_self)

end ConnectionPool.Traffic
