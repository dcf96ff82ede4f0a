import Mathlib.Data.List.DropRight
import ConnectionPool.Proofs.Credentials

/-! The epochs of a configuration. A change of the configuration begins a new one: it closes all
connections of the pool, and leaves those who wait to find that out for themselves. What is handed out
after it was opened after it, whoever had been waiting since when, and the handles of earlier epochs
stay invalid. -/
namespace ConnectionPool

namespace Pool

variable {σ : Type} [Conditions σ] {p : Pool} {f : Entry} {w : World σ}

theorem fading (first : Pool) (username password : Option String) :
    Search (σ := σ) username password (fun p _ => ∀ f, p.valid f = true → first.valid f = true)
      (fun _ p _ => ∀ f, p.valid f = true → first.valid f = true) where
  reuse h _ := h
  openOk h _ _ opened := by
    obtain ⟨_, _, rfl, _⟩ := openEntryOk opened
    exact h
  openError h _ _ failed := by
    obtain ⟨rfl, _⟩ := openEntryError failed
    exact h
  takeOver h _ _ _ taken := by
    cases taken
    intro f good
    rw [validIff] at good
    exact h f (validIff.mpr fun old => good (List.mem_cons_of_mem _ old))
  examine h := h
  discard h := by
    intro f good
    have good := validIff.mp good
    exact h f (validIff.mpr fun old => good (List.mem_cons_of_mem _ old))
  countWait h := by
    unfold countWait
    split
    · exact h
    · exact h

theorem reconfigureFades {change : Pool → Pool} (keeps : KeepsEntries change)
    (good : (p.reconfigure change w).1.valid f = true) : p.valid f = true := by
  obtain ⟨_, _, _, revoked, _⟩ := keeps p
  have pool := (change p).closeAllPool w
  have good : ((change p).closeAll w).1.valid f = true := good
  rw [pool, validIff] at good
  rw [validIff, ← revoked]
  exact fun old => good (List.mem_append_right _ old)

end Pool

theorem Handle.giveBackAgain {σ : Type} [Conditions σ] {h : Handle} {p : Pool} {w : World σ}
    (released : h.released = true) :
    h.giveBack p w = (h, p, w) ∧ h.close p w = (.error .alreadyClosed, h, p, w) :=
  ⟨if_pos released, if_pos released⟩

theorem Handle.giveBackFades {σ : Type} [Conditions σ] (h : Handle) (p : Pool) (w : World σ) :
    (h.giveBack p w).1.entry = h.entry ∧
      ((h.giveBack p w).1.released = false → h.released = false) ∧
      ∀ f, (h.giveBack p w).2.1.valid f = true → p.valid f = true := by
  unfold giveBack
  split
  · exact ⟨rfl, id, fun _ => id⟩
  · refine ⟨rfl, fun out => ?_, fun f good => ((p.releaseAccount h.entry w).1 f good).1⟩
    cases out

namespace Traffic

variable {σ : Type}

def Event.empties : Event σ → Bool
  | set (.badTolerance _) => false
  | set _ | forceCloseAll | shutdown => true
  | _ => false

def epoch (history : List (Moment σ)) : List (Moment σ) := history.rtakeWhile (!·.event.empties)

theorem epochNext (history : List (Moment σ)) (m : Moment σ) :
    epoch (history ++ [m]) = if m.event.empties then [] else epoch history ++ [m] := by
  rw [epoch, List.rtakeWhile_concat]
  cases m.event.empties with
  | true => rfl
  | false => rfl

variable [Conditions σ]

namespace State

variable {s : State σ} {e : Event σ} {number : Nat} {h : Handle} {history : List (Moment σ)}

theorem emptiedBy (s : State σ) (empties : e.empties = true) : ∃ change : Pool → Pool,
    (∀ p, (change p).tally = p.tally) ∧ (s.step e).pool = (s.pool.reconfigure change s.world).1 := by
  cases e with
  | set setting =>
    cases setting with
    | badTolerance => cases empties
    | _ => exact ⟨(Pool.Setting.apply · _), fun _ => rfl, rfl⟩
  | forceCloseAll => exact ⟨id, fun _ => rfl, rfl⟩
  | shutdown => exact ⟨fun p => { p with shutDown := true }, fun _ => rfl, rfl⟩
  | _ => cases empties

theorem emptiedStep (s : State σ) (empties : e.empties = true) :
    (s.step e).pool.idle = [] ∧ (s.step e).pool.active = [] ∧
      (s.step e).pool.expectedCode = Pool.codeOf (s.step e).pool.source := by
  obtain ⟨change, _, pool⟩ := s.emptiedBy empties
  rw [pool]
  exact s.pool.reconfigureEmpties change s.world

theorem epochStep {past : List (Moment σ)} (sourced : s.Sourced (epoch history)) (kept : s.Kept past)
    (possible : s.Possible e) : (s.step e).Sourced (epoch (history ++ [⟨s, e⟩])) := by
  rw [epochNext]
  cases empties : e.empties with
  | true =>
    obtain ⟨idle, active, code⟩ := s.emptiedStep empties
    refine ⟨code, fun f member => ?_⟩
    rw [idle, active] at member
    cases member
  | false => exact sourcedStep sourced kept possible

theorem sourcedEpoch {source : Source} {config : Config} {world : World σ}
    (run : Run (.start source config world) history s) : s.Sourced (epoch history) := by
  induction run with
  | none => exact ⟨rfl, fun _ member => nomatch member⟩
  | more before e possible ih => exact epochStep ih (kept before) possible

theorem pursuitFades {x : Pursuit} (found : s.pursuit? e = some x) {f : Entry}
    (good : (s.step e).pool.valid f = true) : s.pool.valid f = true := by
  have law := Pool.fading (σ := σ) s.pool x.attempt.username x.attempt.password
  exact pursuitKeeps law found (fun _ _ good => good) (fun held => held) f good

omit [Conditions σ] in
theorem settleHandles (s : State σ) (number : Nat) (r : Outcome × Pool × World σ)
    (found : s.handles[number]? = some h) (n : Nat) :
    (s.settle n r).handles[number]? = some h := by
  obtain ⟨o, p, w⟩ := r
  cases o with
  | granted => exact List.getElem?_append_left (List.getElem?_eq_some_iff.mp found).1 ▸ found
  | failed => exact found
  | waiting => exact found

theorem handleStays (possible : s.Possible e) (found : s.handles[number]? = some h) :
    ∃ k, (s.step e).handles[number]? = some k ∧ k.entry = h.entry ∧
      (k.valid (s.step e).pool = true → h.valid s.pool = true) := by
  have course := s.course e possible
  generalize next : s.step e = t at course
  cases course with
  | pursued x pursued =>
    refine ⟨h, settleHandles _ _ _ (by cases e <;> exact found) _, rfl, fun good => ?_⟩
    simp only [Handle.valid, Bool.and_eq_true] at good ⊢
    rw [← next] at good
    exact ⟨good.1, pursuitFades pursued good.2⟩
  | called => exact ⟨h, found, rfl, id⟩
  | @returned other x back =>
    obtain ⟨entry, released, fades⟩ := x.giveBackFades s.pool s.world
    by_cases same : other = number
    · subst same
      cases Option.some.inj (found.symm.trans back)
      refine ⟨_, List.getElem?_set_self (List.getElem?_eq_some_iff.mp found).1, entry, fun good => ?_⟩
      simp only [Handle.valid, Bool.and_eq_true, Bool.not_eq_true', entry] at good ⊢
      exact ⟨released good.1, fades _ good.2⟩
    · refine ⟨h, (List.getElem?_set_ne same).trans found, rfl, fun good => ?_⟩
      simp only [Handle.valid, Bool.and_eq_true] at good ⊢
      exact ⟨good.1, fades _ good.2⟩
  | emptied change _ _ keeps =>
    refine ⟨h, found, rfl, fun good => ?_⟩
    simp only [Handle.valid, Bool.and_eq_true] at good ⊢
    exact ⟨good.1, Pool.reconfigureFades keeps good.2⟩
  | tolerated => exact ⟨h, found, rfl, id⟩
  | outside => exact ⟨h, found, rfl, id⟩

theorem releasedStays (possible : s.Possible e) (found : s.handles[number]? = some h)
    (released : h.released = true) : (s.step e).handles[number]? = some h := by
  have course := s.course e possible
  generalize s.step e = t at course
  cases course with
  | pursued x => exact settleHandles _ _ _ (by cases e <;> exact found) _
  | called => exact found
  | @returned other x back =>
    by_cases same : other = number
    · subst same
      cases Option.some.inj (found.symm.trans back)
      rw [(Handle.giveBackAgain released).1]
      exact List.getElem?_set_self (List.getElem?_eq_some_iff.mp found).1
    · exact (List.getElem?_set_ne same).trans found
  | emptied => exact found
  | tolerated => exact found
  | outside => exact found

theorem handleLater {first : State σ} (run : Run first history s) {m : Moment σ} (member : m ∈ history)
    (found : m.next.handles[number]? = some h) :
    ∃ k, s.handles[number]? = some k ∧ k.entry = h.entry ∧
      (k.valid s.pool = true → h.valid m.next.pool = true) ∧
      (h.released = true → k.released = true) := by
  induction run with
  | none => cases member
  | more before e possible ih =>
    rcases List.mem_append.mp member with earlier | latest
    · obtain ⟨k, there, entry, fades, released⟩ := ih earlier
      obtain ⟨l, later, same, fading⟩ := handleStays possible there
      refine ⟨l, later, same.trans entry, fades ∘ fading, fun given => ?_⟩
      have kept := releasedStays possible there (released given)
      cases Option.some.inj (later.symm.trans kept)
      exact released given
    · cases List.mem_singleton.mp latest
      exact ⟨h, found, rfl, id, id⟩

omit [Conditions σ] in
theorem emptiesInside (empties : e.empties = true) : e.Inside := by
  cases e <;> first | exact trivial | cases empties

theorem handleOutdated {source : Source} {config : Config} {world : World σ}
    (run : Run (.start source config world) history s) {m : Moment σ} (member : m ∈ history)
    (empties : m.event.empties = true) (found : m.state.handles[number]? = some h) :
    ∃ k, s.handles[number]? = some k ∧ k.entry = h.entry ∧ k.valid s.pool = false := by
  obtain ⟨t, e⟩ := m
  have possible : t.Possible e := insidePossible (emptiesInside empties)
  obtain ⟨past, before⟩ := run.earlier member
  obtain ⟨j, there, entry, _⟩ := handleStays possible found
  obtain ⟨k, now, same, fades, _⟩ := handleLater run member there
  refine ⟨k, now, same.trans entry, Bool.eq_false_iff.mpr fun good => ?_⟩
  have custody := kept (before.more e possible)
  have active := (custody.handleValid (List.mem_of_getElem? there)).mp (fades good)
  rw [(t.emptiedStep empties).2.1] at active
  cases active

end State

theorem handedOutAnew {source : Source} {config : Config} {world : World σ}
    {history : List (Moment σ)} {s : State σ} (run : Run (.start source config world) history s) :
    (∀ e x k, (Moment.mk s e).granted? = some (x, k) →
      ∃ m ∈ epoch history ++ [⟨s, e⟩], ∃ y, m.OpensFor y (s.step e).pool.source k.connection ∧
        (s.step e).world.OpenedAs k.connection (s.step e).pool.source
          y.attempt.username y.attempt.password) ∧
    (∀ m ∈ history, m.event.empties = true → ∀ (number : Nat) (h : Handle),
      m.state.handles[number]? = some h → ∃ k : Handle, s.handles[number]? = some k ∧
        k.entry = h.entry ∧ k.valid s.pool = false) ∧
    (∀ e, e.empties = true → (s.step e).pool.idle = [] ∧ (s.step e).pool.active = []) ∧
    ∀ n, (s.step (.set (.badTolerance n))).pool.idle = s.pool.idle ∧
      (s.step (.set (.badTolerance n))).pool.active = s.pool.active ∧
      ∀ h : Handle, h.valid (s.step (.set (.badTolerance n))).pool = h.valid s.pool := by
  refine ⟨fun e x k granted => ?_, fun m member empties number h found => ?_, fun e empties => ?_,
    fun n => ⟨rfl, rfl, fun h => rfl⟩⟩
  · obtain ⟨target, _, m, member, y, opens, stands, _⟩ :=
      State.grantedOrigin (State.sourcedEpoch run) granted
    rw [target]
    exact ⟨m, member, y, opens, stands⟩
  · exact State.handleOutdated run member empties found
  · exact ⟨(s.emptiedStep empties).1, (s.emptiedStep empties).2.1⟩

def moved : List (Event Scenario.Plan) :=
  [.acquireDefault, .acquireDefault, .set (.url "mock://replica")]

theorem handedOutMoved : let s := State.small.after moved
    ∃ r ∈ (Moment.mk s (.wake 1)).granted?,
      (Moment.mk s (.wake 1)).OpensFor r.1 (s.step (.wake 1)).pool.source r.2.connection ∧
      (s.step (.wake 1)).pool.source.url = "mock://replica" ∧
      ∃ k : Handle, s.handles[0]? = some k ∧ k.valid s.pool = false := by
  have run : Run State.small (State.small.history moved) (State.small.after moved) :=
    State.small.run (by simp [moved, State.Possible])
  have law := handedOutAnew run
  obtain ⟨⟨x, k⟩, granted⟩ := Option.isSome_iff_exists.mp (by decide +kernel :
    (Moment.mk (State.small.after moved) (.wake 1)).granted?.isSome)
  obtain ⟨m, member, y, opens, _⟩ := law.1 _ x k granted
  have latest : epoch (State.small.history moved) = [] := by decide
  rw [latest] at member
  cases List.mem_singleton.mp member
  cases Option.some.inj (opens.found.symm.trans (State.grantedEntry granted).1)
  obtain ⟨h, first⟩ := Option.isSome_iff_exists.mp (by decide +kernel :
    (State.small.after [.acquireDefault, .acquireDefault]).handles[0]?.isSome)
  obtain ⟨k, there, _, invalid⟩ := law.2.1 _ (List.mem_cons_of_mem _ (List.mem_cons_of_mem _
    List.mem_cons_self)) (by decide) 0 h first
  exact ⟨_, granted, opens, by decide +kernel, k, there, invalid⟩

end Traffic
end ConnectionPool
