import ConnectionPool.Proofs.Answers
import ConnectionPool.Proofs.Sessions
import ConnectionPool.Proofs.Statements

/-! Which of several failures is told. A statement that is made for one execution is closed even if that
fails, so that both can fail. A test of a connection tells why its query failed then, and a query or an
update why the statement could not be closed. -/
namespace ConnectionPool

namespace Execution

theorem callKind (x : Execution) (c : Nat) :
    (x.call c).kind ≠ .createStatement ∧ (x.call c).kind ≠ .closeStatement := by
  cases x <;> exact ⟨by simp [call, Call.kind], by simp [call, Call.kind]⟩

def failing (x : Execution) (c : Nat) (e : Error) (closing : Option Error) : List Answered :=
  [⟨.createStatement c, none⟩, ⟨x.call c, some e⟩, ⟨.closeStatement c, closing⟩]

inductive Ran (x : Execution) (c : Nat) (rest : List Call) (told : Error → Option Error → Error) :
    List Answered → Option Error → Prop where
  | uncreated (e : Error) : Ran x c rest told [⟨.createStatement c, some e⟩] (some e)
  | broken (e : Error) (closing : Option Error) :
      Ran x c rest told (x.failing c e closing) (some (told e closing))
  | went {l : List Answered} {failure : Option Error}
      (follow : Answered.Follow (.closeStatement c :: rest) l failure) :
      Ran x c rest told (⟨.createStatement c, none⟩ :: ⟨x.call c, none⟩ :: l) failure

def calls (x : Execution) (c : Nat) (rest : List Call) : List Call :=
  .createStatement c :: x.call c :: .closeStatement c :: rest

namespace Ran

variable {x : Execution} {c : Nat} {rest : List Call} {told : Error → Option Error → Error}
  {l : List Answered} {failure : Option Error}

theorem order (h : x.Ran c rest told l failure) : l.map (·.call) <+: x.calls c rest := by
  cases h with
  | uncreated e => exact ⟨_, rfl⟩
  | broken e closing => exact ⟨_, rfl⟩
  | went follow =>
    exact (List.prefix_cons_inj _).mpr ((List.prefix_cons_inj _).mpr follow.calls)

theorem uncreatedOnly (h : x.Ran c rest told l failure) (missing : ⟨.createStatement c, none⟩ ∉ l) :
    ∃ e, l = [⟨.createStatement c, some e⟩] := by
  cases h with
  | uncreated e => exact ⟨e, rfl⟩
  | broken => exact absurd List.mem_cons_self missing
  | went => exact absurd List.mem_cons_self missing

theorem closedOnce (h : x.Ran c rest told l failure) (others : ∀ call ∈ rest, call.kind ≠ .closeStatement)
    (created : ⟨.createStatement c, none⟩ ∈ l) :
    (Answered.ofKind .closeStatement l).map (·.call) = [.closeStatement c] := by
  have skips (failure : Option Error) (l : List Answered) :
      Answered.ofKind .closeStatement (⟨.createStatement c, none⟩ :: ⟨x.call c, failure⟩ :: l) =
        Answered.ofKind .closeStatement l := by
    rw [Answered.ofKind, List.filter_cons_of_neg (by simp [Call.kind]),
      List.filter_cons_of_neg (by simp [(x.callKind c).2])]
    rfl
  cases h with
  | uncreated e => simp at created
  | broken e closing =>
    rw [failing, skips]
    rfl
  | went follow =>
    rw [skips]
    cases follow with
    | failed => rfl
    | next _ more =>
      have none := more.none others
      simpa [Answered.ofKind, Call.kind] using none

theorem allDone (h : x.Ran c rest told l failure) :
    failure = none ↔ l = (x.calls c rest).map (⟨·, none⟩) := by
  cases h with
  | uncreated e => simp [calls]
  | broken e closing => simp [calls, failing]
  | went follow =>
    simp only [calls, List.map_cons, List.cons.injEq, true_and]
    exact follow.allDone

theorem ends (h : x.Ran c rest told l failure) (others : ∀ call ∈ rest, call.kind ≠ (x.call c).kind) :
    (∃ e closing, l = x.failing c e closing ∧ failure = some (told e closing)) ∨
    (∀ e, ⟨x.call c, some e⟩ ∉ l) ∧ failure = Answered.firstFailure l := by
  have creates : Call.createStatement c ≠ x.call c := fun same => (x.callKind c).1 (same ▸ rfl)
  cases h with
  | uncreated e => exact .inr ⟨fun e member => creates (by simp_all), rfl⟩
  | broken e closing => exact .inl ⟨e, closing, rfl, rfl⟩
  | went follow =>
    refine .inr ⟨fun e member => ?_, follow.firstFailure.symm⟩
    simp only [List.mem_cons, Answered.mk.injEq, reduceCtorEq, and_false, false_or] at member
    have later := follow.calls.subset (List.mem_map_of_mem member)
    rcases List.mem_cons.mp later with same | more
    · exact (x.callKind c).2 (congrArg Call.kind same)
    · exact others _ more rfl

end Ran

theorem executedOnce (x : Execution) {c : Nat} {d e : Error} {closing : Option Error}
    (h : ⟨x.call c, some d⟩ ∈ x.failing c e closing) : d = e := by
  cases x <;> simpa [failing, call] using h

theorem closingOnce (x : Execution) {c : Nat} {e : Error} {y closing : Option Error}
    (h : ⟨.closeStatement c, y⟩ ∈ x.failing c e closing) : y = closing := by
  cases x <;> simpa [failing, call] using h

def closingFirst (e : Error) (closing : Option Error) : Error := closing.getD e

def executionFirst (e : Error) (_ : Option Error) : Error := e

end Execution

theorem World.openKnown {σ : Type} {c : Nat} {w : World σ} (reachable : w.isClosed c = false) :
    c < w.connections.length := by
  by_contra missing
  have absent : w.connections[c]? = none := List.getElem?_eq_none (Nat.not_lt.mp missing)
  simp [World.isClosed, World.connection?, absent] at reachable

namespace Action

variable {σ α β : Type} {m : Action σ α}

theorem bindAttempt (f : Except Error α → Action σ β) (w : World σ) :
    (m.attempt >>= f) w = f (m w).1 (m w).2 := rfl

theorem bindLift (m : Action σ α) (f : α → Action σ β) :
    m >>= f = (m.attempt >>= fun r => lift r >>= f) := by
  funext w
  rw [bindAttempt]
  cases done : m w with
  | mk r later =>
    cases r with
    | error e => rw [bindError done]; rfl
    | ok a => rw [bindOk done]; rfl

end Action

namespace Database

open Execution

variable {σ α β : Type} [Conditions σ]

theorem ownStatement (x : Execution) {c : Nat} {m : Action σ α} {w : World σ}
    {rest : List Call} {told : Error → Option Error → Error} (once : m.IsCall (x.call c))
    (keeps : m.Keeps (World.SameSession c))
    (finish : Except Error α → Except Error Unit → Action σ β)
    (failed : ∀ e y v, finish (.error e) y v = (.error (told e (Error.of? y)), v))
    (unclosed : ∀ a y v, finish (.ok a) (.error y) v = (.error y, v))
    (done : ∀ a v, w.SameSession c v → (finish (.ok a) (.ok ())).Follows v rest) :
    ∃ l, w.Answers l ((createStatement c >>= fun _ => m.attempt >>= fun r =>
        (closeStatement c).attempt >>= fun y => finish r y) w).2 ∧
      x.Ran c rest told l (Error.of? ((createStatement c >>= fun _ => m.attempt >>= fun r =>
        (closeStatement c).attempt >>= fun y => finish r y) w).1) := by
  have law : World.ClosingLaw (World.SameSession (σ := σ) c) := World.sessionLaw c
  have creates := createStatementIsCall c w
  have begun : (createStatement c).Keeps (World.SameSession c) := law.perform (.createStatement c)
  cases made : createStatement c w with
  | mk r between =>
    rw [made] at creates
    cases r with
    | error e =>
      rw [Action.bindError made]
      exact ⟨_, creates, .uncreated e⟩
    | ok u =>
      have executes := once between
      have closes := closeStatementIsCall c (m between).2
      have answers := (creates.trans executes).trans closes
      rw [Action.bindOk made, Action.bindAttempt, Action.bindAttempt]
      cases outcome : (m between).1 with
      | error e =>
        rw [failed]
        rw [outcome] at answers
        exact ⟨_, answers, .broken e _⟩
      | ok a =>
        rw [outcome] at answers
        cases closing : (closeStatement c (m between).2).1 with
        | error y =>
          rw [unclosed]
          rw [closing] at answers
          exact ⟨_, answers, .went (.failed _ rest y)⟩
        | ok u =>
          rw [closing] at answers
          have same := law.trans (law.trans (begun.of made) (keeps between))
            (law.perform (.closeStatement c) (m between).2)
          obtain ⟨l, ended, follow⟩ := done a _ same
          exact ⟨_, answers.trans ended, .went (.next _ follow)⟩

theorem withStatementRan (x : Execution) {c : Nat} {m : Action σ α} (once : m.IsCall (x.call c))
    (keeps : m.Keeps (World.SameSession c)) (w : World σ) :
    ∃ l, w.Answers l (withStatement c m w).2 ∧
      x.Ran c [] closingFirst l (Error.of? (withStatement c m w).1) := by
  have closing (r : Except Error α) := Action.bindLift (closeStatement c) fun _ => Action.lift (σ := σ) r
  unfold withStatement
  simp only [closing]
  refine ownStatement x once keeps (fun r y => Action.lift y >>= fun _ => Action.lift r) ?_ ?_ ?_
  · rintro e (_ | _) v <;> rfl
  · exact fun _ _ _ => rfl
  · exact fun a v _ => .pure a v

def restore (c : Nat) (commits : Bool) : List Call :=
  .autoCommit c :: if commits then [] else [.rollback c]

theorem probeRan (sql : String) {c : Nat} {w : World σ} (known : c < w.connections.length) :
    ∃ l, w.Answers l (probe c sql w).2 ∧
      (Execution.query sql []).Ran c (restore c (w.session c).autoCommit) executionFirst l
        (Error.of? (probe c sql w).1) := by
  refine ownStatement (.query sql []) (queryIsCall c sql []) ((World.sessionLaw c).executeQuery c sql [])
    _ ?_ ?_ ?_
  · exact fun _ _ _ => rfl
  · exact fun _ _ _ => rfl
  · intro rows v same
    refine ((autoCommitIsCall c).follows v).bind fun commits read reading => ?_
    have still := World.SameSession.session
      ((World.sessionLaw c).trans same (((World.sessionLaw c).autoCommit c).of reading)) known
    rw [autoCommitOk reading, still]
    cases (w.session c).autoCommit with
    | true => exact .pure () read
    | false => exact (rollbackIsCall c).follows read

theorem rollsBack {sql : String} {c : Nat} {commits : Bool} {l : List Answered} {failure : Option Error}
    (h : (Execution.query sql []).Ran c (restore c commits) executionFirst l failure) :
    (∃ z, ⟨.rollback c, z⟩ ∈ l) ↔ commits = false ∧ ⟨.executeQuery c sql [], none⟩ ∈ l ∧
      ⟨.closeStatement c, none⟩ ∈ l ∧ ⟨.autoCommit c, none⟩ ∈ l := by
  cases h with
  | uncreated e => simp
  | broken e closing => simp [failing, Execution.call]
  | went follow =>
    rcases follow with _ | _ | ⟨_, _ | _ | ⟨_, more⟩⟩
    · simp [Execution.call]
    · simp [Execution.call]
    · cases commits with
      | true =>
        cases more
        simp [Execution.call]
      | false => rcases more with _ | _ | ⟨_, _ | _⟩ <;> simp [Execution.call]

def verdict (time : Nat) : Option Error → Except PingError Nat
  | none => .ok time
  | some e => .error (.queryFailed e.message)

structure Pings (c : Nat) (sql : String) (w : World σ) (l : List Answered) (r : Except PingError Nat)
    (later : World σ) : Prop where
  answers : w.Answers l later
  trace : later.trace = w.trace ++ l.map Answered.record
  order : l.map (·.call) <+: (Execution.query sql []).calls c (restore c (w.session c).autoCommit)
  uncreated : ⟨.createStatement c, none⟩ ∉ l → ∃ e, l = [⟨.createStatement c, some e⟩]
  closed : ⟨.createStatement c, none⟩ ∈ l →
    (Answered.ofKind .closeStatement l).map (·.call) = [.closeStatement c]
  told : r = verdict (later.clock - w.clock) (Answered.firstFailure l)
  done : (∃ time, r = .ok time) ↔
    l = ((Execution.query sql []).calls c (restore c (w.session c).autoCommit)).map (⟨·, none⟩)
  restored : (∃ z, ⟨.rollback c, z⟩ ∈ l) ↔ (w.session c).autoCommit = false ∧
    ⟨.executeQuery c sql [], none⟩ ∈ l ∧ ⟨.closeStatement c, none⟩ ∈ l ∧ ⟨.autoCommit c, none⟩ ∈ l

theorem restoreOthers (sql : String) (c : Nat) (commits : Bool) : ∀ call ∈ restore c commits,
    call.kind ≠ .closeStatement ∧ call.kind ≠ ((Execution.query sql []).call c).kind := by
  cases commits <;> simp [restore, Execution.call, Call.kind]

theorem probeTold {sql : String} {c : Nat} {commits : Bool} {l : List Answered} {failure : Option Error}
    (h : (Execution.query sql []).Ran c (restore c commits) executionFirst l failure) :
    failure = Answered.firstFailure l := by
  rcases h.ends fun call member => (restoreOthers sql c commits call member).2 with
    ⟨e, closing, rfl, told⟩ | ⟨_, told⟩
  · exact told
  · exact told

theorem pingEnds {c : Nat} {sql : String} {w : World σ} (reachable : w.isClosed c = false) :
    ping c sql w = (verdict ((probe c sql w).2.clock - w.clock) (Error.of? (probe c sql w).1),
      (probe c sql w).2) := by
  rw [ping, if_neg (Bool.eq_false_iff.mp reachable)]
  rcases probe c sql w with ⟨_ | _, later⟩ <;> rfl

theorem pingSettles (c : Nat) (sql : String) (w : World σ) :
    (w.isClosed c = true → ping c sql w = (.error .connectionClosed, w)) ∧
    (w.isClosed c = false → ∃ l, Pings c sql w l (ping c sql w).1 (ping c sql w).2) := by
  refine ⟨fun shut => by rw [ping, if_pos shut], fun reachable => ?_⟩
  obtain ⟨l, answers, ran⟩ := probeRan sql (World.openKnown reachable)
  have told := probeTold ran
  rw [pingEnds reachable]
  refine ⟨l, {
    answers
    trace := answers.trace
    order := ran.order
    uncreated := ran.uncreatedOnly
    closed := ran.closedOnce fun call member => (restoreOthers sql c _ call member).1
    told := by rw [← told]
    done := ?_
    restored := rollsBack ran }⟩
  rw [← ran.allDone]
  cases Error.of? (probe c sql w).1 <;> simp [verdict]

def failingQueries (more : List (Scenario.Target × Scenario.Fault)) : World Scenario.Plan :=
  ⟨0, 0, [⟨⟨0, "mock"⟩, "mock://primary", .empty, ⟨false, none⟩, false⟩], [], ⟨false, none⟩,
    ⟨(⟨none, .executeQuery⟩, ⟨.query "boom", none⟩) :: more, [], 0⟩⟩

theorem leftPending : ∃ l, (failingQueries []).isClosed 0 = false ∧
    ((failingQueries []).session 0).autoCommit = false ∧
    (failingQueries []).Answers l (ping 0 "SELECT 1" (failingQueries [])).2 ∧
    ⟨.executeQuery 0 "SELECT 1" [], some (.query "boom")⟩ ∈ l ∧ ∀ x ∈ l, x.call.kind ≠ .rollback := by
  refine ⟨(Execution.query "SELECT 1" []).failing 0 (.query "boom") none, rfl, rfl, ?_, ?_, ?_⟩
  · exact .done _ rfl (.failed rfl (.done _ rfl .none))
  · simp [failing, Execution.call]
  · simp [failing, Execution.call, Call.kind]

structure Runs (x : Execution) (c : Nat) (w : World σ) (l : List Answered) (r : Except Error α)
    (later : World σ) : Prop where
  answers : w.Answers l later
  trace : later.trace = w.trace ++ l.map Answered.record
  order : l.map (·.call) <+: x.calls c []
  uncreated : ⟨.createStatement c, none⟩ ∉ l → ∃ e, l = [⟨.createStatement c, some e⟩]
  closed : ⟨.createStatement c, none⟩ ∈ l →
    (Answered.ofKind .closeStatement l).map (·.call) = [.closeStatement c]
  done : (∃ a, r = .ok a) ↔ l = (x.calls c []).map (⟨·, none⟩)
  told : (∀ e y, ⟨x.call c, some e⟩ ∈ l → ⟨.closeStatement c, some y⟩ ∉ l) →
    Error.of? r = Answered.firstFailure l
  masked : ∀ e y, ⟨x.call c, some e⟩ ∈ l → ⟨.closeStatement c, some y⟩ ∈ l → r = .error y

theorem failedWith {r : Except Error α} {e : Error} (h : Error.of? r = some e) : r = .error e := by
  cases r with
  | ok => cases h
  | error x => exact congrArg _ (Option.some.inj h)

theorem withStatementRuns (x : Execution) {c : Nat} {m : Action σ α} (once : m.IsCall (x.call c))
    (keeps : m.Keeps (World.SameSession c)) (w : World σ) :
    ∃ l, Runs x c w l (withStatement c m w).1 (withStatement c m w).2 := by
  obtain ⟨l, answers, ran⟩ := withStatementRan x once keeps w
  have ends := ran.ends (by simp)
  refine ⟨l, {
    answers
    trace := answers.trace
    order := ran.order
    uncreated := ran.uncreatedOnly
    closed := ran.closedOnce (by simp)
    done := ?_
    told := ?_
    masked := ?_ }⟩
  · rw [← ran.allDone]
    cases (withStatement c m w).1 <;> simp [Error.of?]
  · intro single
    rcases ends with ⟨e, _ | y, rfl, told⟩ | ⟨_, told⟩
    · exact told
    · exact absurd (by simp [failing]) (single e y (by simp [failing]))
    · exact told
  · intro e y failed closing
    rcases ends with ⟨d, z, rfl, told⟩ | ⟨never, _⟩
    · cases x.closingOnce closing
      exact failedWith told
    · exact absurd failed (never e)

/- A query or an update tells the first failure, except that a failure to close the statement hides one to
execute it; a test of a connection hides nothing. -/
theorem executionsTold (c : Nat) (sql : String) (params : List Value) (w : World σ) :
    (∃ l, Runs (.query sql params) c w l (query c sql params w).1 (query c sql params w).2) ∧
    (∃ l, Runs (.update sql params) c w l (execute c sql params w).1 (execute c sql params w).2) ∧
    ∃ l, w.Answers l (ping c sql w).2 ∧ ∀ e, ⟨.executeQuery c sql [], some e⟩ ∈ l →
      (ping c sql w).1 = .error (.queryFailed e.message) := by
  have law : World.ClosingLaw (World.SameSession (σ := σ) c) := World.sessionLaw c
  refine ⟨withStatementRuns (.query sql params) (queryIsCall c sql params)
      (law.executeQuery c sql params) w,
    withStatementRuns (.update sql params) (updateIsCall c sql params)
      (law.executeUpdate c sql params) w, ?_⟩
  cases reachable : w.isClosed c with
  | true =>
    rw [ping, if_pos reachable]
    exact ⟨[], .none, by simp⟩
  | false =>
    obtain ⟨l, answers, ran⟩ := probeRan sql (World.openKnown reachable)
    rw [pingEnds reachable]
    refine ⟨l, answers, fun e failed => ?_⟩
    rcases ran.ends fun call member => (restoreOthers sql c _ call member).2 with
      ⟨d, closing, rfl, told⟩ | ⟨never, _⟩
    · cases executedOnce (.query sql []) failed
      rw [told]
      rfl
    · exact absurd failed (never e)

theorem closingMasks :
    let w := failingQueries [(⟨none, .closeStatement⟩, ⟨.connection "lost", none⟩)]
    ∃ l, w.Answers l (query 0 "SELECT 1" [] w).2 ∧
      ⟨.executeQuery 0 "SELECT 1" [], some (.query "boom")⟩ ∈ l ∧
      (query 0 "SELECT 1" [] w).1 = .error (.connection "lost") := by
  refine ⟨(Execution.query "SELECT 1" []).failing 0 (.query "boom") (some (.connection "lost")), ?_, ?_, rfl⟩
  · exact .done _ rfl (.failed rfl (.failed rfl .none))
  · simp [failing, Execution.call]

end Database
end ConnectionPool
