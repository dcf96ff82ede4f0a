import ConnectionPool.Proofs.Growth

/-! What a driver answers. The trace of a world tells which calls failed but not why. Here each call stands
with its answer, so that what an operation does next, and what it reports in the end, can be told from the
answers to the calls that it has made. -/
namespace ConnectionPool

def Error.of? {α : Type} : Except Error α → Option Error
  | .ok _ => none
  | .error e => some e

structure Answered where
  call : Call
  failure : Option Error

namespace Answered

def record (x : Answered) : CallRecord := ⟨x.call, x.failure.isSome⟩

def firstFailure (l : List Answered) : Option Error := l.findSome? (·.failure)

def ofKind (kind : CallKind) (l : List Answered) : List Answered := l.filter (·.call.kind = kind)

theorem notFailed {l : List Answered} : firstFailure l = none ↔ ∀ x ∈ l, x.failure = none :=
  List.findSome?_eq_none_iff

theorem ofKindAppend (kind : CallKind) (l m : List Answered) :
    ofKind kind (l ++ m) = ofKind kind l ++ ofKind kind m :=
  List.filter_append ..

theorem ofKindNone {kind : CallKind} {l : List Answered} :
    ofKind kind l = [] ↔ ∀ x ∈ l, x.call.kind ≠ kind := by
  simp [ofKind, List.filter_eq_nil_iff]

inductive Follow : List Call → List Answered → Option Error → Prop where
  | all : Follow [] [] none
  | failed (call : Call) (rest : List Call) (e : Error) :
      Follow (call :: rest) [⟨call, some e⟩] (some e)
  | next (call : Call) {rest : List Call} {l : List Answered} {failure : Option Error}
      (more : Follow rest l failure) : Follow (call :: rest) (⟨call, none⟩ :: l) failure

variable {a b : List Call} {l m : List Answered} {failure : Option Error} {e : Error}

theorem Follow.calls (h : Follow a l failure) : l.map (·.call) <+: a := by
  induction h with
  | all => exact List.prefix_rfl
  | failed call rest e => exact ⟨rest, rfl⟩
  | next call _ ih => exact List.prefix_cons_inj call |>.mpr ih

theorem Follow.firstFailure (h : Follow a l failure) : Answered.firstFailure l = failure := by
  induction h with
  | all => rfl
  | failed => rfl
  | next _ _ ih => exact ih

theorem Follow.allDone (h : Follow a l failure) : failure = .none ↔ l = a.map (⟨·, .none⟩) := by
  induction h with
  | all => simp
  | failed => simp
  | next _ _ ih => simpa using ih

theorem Follow.stopped (h : Follow a l (some e)) (b : List Call) : Follow (a ++ b) l (some e) := by
  generalize stopped : some e = failure at h
  induction h with
  | all => cases stopped
  | failed call rest e => exact .failed call (rest ++ b) e
  | next call _ ih => exact .next call (ih stopped)

theorem Follow.append (first : Follow a l none) (last : Follow b m failure) :
    Follow (a ++ b) (l ++ m) failure := by
  generalize went : (none : Option Error) = done at first
  induction first with
  | all => exact last
  | failed => cases went
  | next call _ ih => exact .next call (ih went)

theorem Follow.ofKind (h : Follow a l failure) (kind : CallKind) :
    (Answered.ofKind kind l).map (·.call) <+: a.filter (·.kind = kind) := by
  have calls : (Answered.ofKind kind l).map (·.call) = (l.map (·.call)).filter (·.kind = kind) := by
    rw [List.filter_map]
    rfl
  rw [calls]
  exact h.calls.filter _

theorem Follow.none (h : Follow a l failure) {kind : CallKind} (other : ∀ call ∈ a, call.kind ≠ kind) :
    Answered.ofKind kind l = [] :=
  ofKindNone.mpr fun _ member => other _ (h.calls.subset (List.mem_map_of_mem member))

end Answered

variable {σ α β : Type} [Conditions σ]

inductive World.Answers : World σ → List Answered → World σ → Prop where
  | none {w : World σ} : Answers w [] w
  | failed {w between later : World σ} {call : Call} {e : Error} {l : List Answered}
      (made : Database.perform call w = (.error e, between)) (rest : Answers between l later) :
      Answers w (⟨call, some e⟩ :: l) later
  | done {w between later : World σ} {call : Call} {l : List Answered} (connections : List Connection)
      (made : Database.perform call w = (.ok (), between))
      (rest : Answers { between with connections := connections } l later) :
      Answers w (⟨call, Option.none⟩ :: l) later

theorem World.Answers.trans {a b c : World σ} {l m : List Answered} (first : a.Answers l b)
    (last : b.Answers m c) : a.Answers (l ++ m) c := by
  induction first with
  | none => exact last
  | failed made _ ih => exact .failed made (ih last)
  | done connections made _ ih => exact .done connections made (ih last)

theorem World.Answers.trace {w later : World σ} {l : List Answered} (h : w.Answers l later) :
    later.trace = w.trace ++ l.map Answered.record := by
  induction h with
  | none => exact (List.append_nil _).symm
  | failed made _ ih =>
    rw [ih, Database.performError made, List.append_assoc]
    rfl
  | done connections made _ ih =>
    rw [ih, Database.performOk made, List.append_assoc]
    rfl

namespace Action

def IsCall (m : Action σ α) (call : Call) : Prop :=
  ∀ w : World σ, w.Answers [⟨call, Error.of? (m w).1⟩] (m w).2

def Follows (m : Action σ α) (w : World σ) (calls : List Call) : Prop :=
  ∃ l, w.Answers l (m w).2 ∧ Answered.Follow calls l (Error.of? (m w).1)

theorem IsCall.follows {m : Action σ α} {call : Call} (h : m.IsCall call) (w : World σ) :
    m.Follows w [call] := by
  refine ⟨_, h w, ?_⟩
  cases (m w).1 with
  | ok => exact .next call .all
  | error e => exact .failed call [] e

theorem Follows.pure (a : α) (w : World σ) : (Pure.pure a : Action σ α).Follows w [] :=
  ⟨[], .none, .all⟩

theorem Follows.bind {m : Action σ α} {f : α → Action σ β} {w : World σ} {a b : List Call}
    (first : m.Follows w a) (rest : ∀ x v, m w = (.ok x, v) → (f x).Follows v b) :
    (m >>= f).Follows w (a ++ b) := by
  obtain ⟨l, answers, follow⟩ := first
  cases h : m w with
  | mk r v =>
    rw [h] at answers follow
    cases r with
    | error e =>
      rw [Follows, bindError h]
      exact ⟨l, answers, follow.stopped b⟩
    | ok x =>
      obtain ⟨l', answers', follow'⟩ := rest x v h
      rw [Follows, bindOk h]
      exact ⟨l ++ l', answers.trans answers', follow.append follow'⟩

end Action

namespace Database

theorem isCall (call : Call) : (perform call : Action σ Unit).IsCall call := by
  intro w
  cases h : perform call w with
  | mk r later =>
    cases r with
    | error e => exact .failed h .none
    | ok u => exact .done later.connections h .none

theorem isCallThen (call : Call) {rest : Action σ α}
    (still : ∀ w : World σ, ∃ a connections, rest w = (.ok a, { w with connections := connections })) :
    (perform call >>= fun _ => rest).IsCall call := by
  intro w
  cases h : perform call w with
  | mk r later =>
    cases r with
    | error e =>
      rw [Action.bindError h]
      exact .failed h .none
    | ok u =>
      obtain ⟨a, connections, same⟩ := still later
      rw [Action.bindOk h, same]
      exact .done connections h .none

theorem connectIsCall (driver : Driver) (url : String) (properties : Properties) :
    (connect driver url properties : Action σ Nat).IsCall (.connect driver url properties) :=
  isCallThen _ fun _ => ⟨_, _, rfl⟩

theorem createStatementIsCall (c : Nat) : (createStatement c : Action σ Unit).IsCall (.createStatement c) :=
  isCall _

theorem closeStatementIsCall (c : Nat) : (closeStatement c : Action σ Unit).IsCall (.closeStatement c) :=
  isCall _

theorem rollbackIsCall (c : Nat) : (rollback c : Action σ Unit).IsCall (.rollback c) := isCall _

theorem queryIsCall (c : Nat) (sql : String) (params : List Value) :
    (executeQuery c sql params : Action σ Rows).IsCall (.executeQuery c sql params) :=
  isCallThen _ fun w => ⟨_, w.connections, rfl⟩

theorem updateIsCall (c : Nat) (sql : String) (params : List Value) :
    (executeUpdate c sql params : Action σ Nat).IsCall (.executeUpdate c sql params) :=
  isCallThen _ fun w => ⟨_, w.connections, rfl⟩

theorem autoCommitIsCall (c : Nat) : (autoCommit c : Action σ Bool).IsCall (.autoCommit c) :=
  isCallThen _ fun w => ⟨_, w.connections, rfl⟩

theorem setAutoCommitIsCall (c : Nat) (value : Bool) :
    (setAutoCommit c value : Action σ Unit).IsCall (.setAutoCommit c value) :=
  isCallThen _ fun _ => ⟨_, _, rfl⟩

theorem isolationIsCall (c : Nat) :
    (isolation c : Action σ (Option Isolation)).IsCall (.isolation c) :=
  isCallThen _ fun w => ⟨_, w.connections, rfl⟩

theorem setIsolationIsCall (c : Nat) (level : Isolation) :
    (setIsolation c level : Action σ Unit).IsCall (.setIsolation c level) :=
  isCallThen _ fun _ => ⟨_, _, rfl⟩

theorem closeIsCall (c : Nat) : (close c : Action σ Unit).IsCall (.close c) :=
  isCallThen _ fun _ => ⟨_, _, rfl⟩

end Database
end ConnectionPool
