import ConnectionPool.Proofs.Traffic

/-! What an acquire does within one critical section, whichever candidates it meets. A law about it is
given by what holds between two candidates and what holds while one is in hand; the parts of the
search are looked at one by one, and the rule at the end puts them together. -/
namespace ConnectionPool

theorem World.ClosingLaw.examine {σ : Type} [Conditions σ] {R : World σ → World σ → Prop}
    (law : World.ClosingLaw R) (p : Pool) (e : Entry) (w : World σ) : R w (p.examine e w).2 := by
  have probed : R w (p.probe e p.config w).2 := by
    unfold Pool.probe
    split
    · exact law.probeEntry e p.config w
    · exact law.refl w
  have rolled := law.rollback e (p.probe e p.config w).2
  unfold Pool.examine
  split
  · rename_i h; rw [h] at probed; exact probed
  · rename_i later good
    rw [good] at probed rolled
    split
    · rename_i h; rw [h] at rolled; exact law.trans probed rolled
    · rename_i h; rw [h] at rolled; exact law.trans probed rolled

namespace Pool

variable {σ : Type} [Conditions σ]

theorem openEntryOk {p q : Pool} {username password : Option String} {w later : World σ} {e : Entry}
    (h : p.openEntry username password w = (.ok e, q, later)) :
    e.serial = p.serials ∧ e.connection = w.connections.length ∧
      q = { p with serials := p.serials + 1 } ∧ w.Opened later p.source.driver p.source.url
        (p.source.propertiesFor username password) := by
  unfold openEntry at h
  cases ho : p.source.openAs username password w with
  | mk r made =>
    rw [ho] at h
    rcases Source.openAsEnds ho with ⟨rfl, opening⟩ | ⟨⟨x, rfl⟩, _⟩
    · cases h
      have drawn : made.Called { made with identities := made.identities + 1 } :=
        ⟨⟨Nat.le_refl _, Nat.le_succ _, List.prefix_rfl, fun {c k} found =>
          ⟨k, found, k.growsRefl⟩⟩, rfl⟩
      exact ⟨rfl, rfl, rfl, opening.called drawn⟩
    · cases h

theorem openEntryError {p q : Pool} {username password : Option String} {w later : World σ} {x : Error}
    (h : p.openEntry username password w = (.error x, q, later)) :
    q = p ∧ (w.Called later ∨ w.Opened later p.source.driver p.source.url
      (p.source.propertiesFor username password) ∧ w.Tried later (.close w.connections.length)) := by
  unfold openEntry at h
  cases ho : p.source.openAs username password w with
  | mk r made =>
    rw [ho] at h
    rcases Source.openAsEnds ho with ⟨rfl, _⟩ | ⟨⟨y, rfl⟩, ends⟩
    · cases h
    · cases h
      exact ⟨rfl, ends⟩

theorem examineCalled (p : Pool) (e : Entry) (w : World σ) : w.Called (p.examine e w).2 :=
  World.calledLaw.examine p e w

def Saturated (p : Pool) : Prop := p.idle = [] ∧ p.config.maxActive.toNat ≤ p.active.length

instance (p : Pool) : Decidable p.Saturated := by unfold Saturated; infer_instance

/-- What each part of a search keeps: `Rest` between two candidates, `Held` with one in hand. -/
structure Search (username password : Option String) (Rest : Pool → World σ → Prop)
    (Held : Entry → Pool → World σ → Prop) : Prop where
  reuse : ∀ {p w e rest}, Rest p w → p.idle = e :: rest → Held e { p with idle := rest } w
  openOk : ∀ {p q : Pool} {w later e}, Rest p w → p.idle = [] →
    p.active.length < p.config.maxActive.toNat →
    p.openEntry username password w = (.ok e, q, later) → Held e q later
  openError : ∀ {p q : Pool} {w later e}, Rest p w → p.idle = [] →
    p.active.length < p.config.maxActive.toNat →
    p.openEntry username password w = (.error e, q, later) → Rest q later
  takeOver : ∀ {p q : Pool} {w later e oldest rest}, Rest p w → p.Saturated →
    p.active = oldest :: rest → p.config.maxCheckout.nanos < oldest.checkoutTime w.clock →
    p.takeOver oldest rest w = (e, q, later) → Held e q later
  examine : ∀ {p w e}, Held e p w → Held e p (p.examine e w).2
  discard : ∀ {p w e}, Held e p w → Rest (p.discard e w).1.countBad (p.discard e w).2
  countWait : ∀ {p w} {a : Attempt}, Rest p w → Rest (p.countWait a) w

variable {username password : Option String} {Rest : Pool → World σ → Prop}
  {Held : Entry → Pool → World σ → Prop} {p q : Pool} {w later : World σ} {a : Attempt}

theorem Search.candidate (s : Search username password Rest Held) (rest : Rest p w)
    {r : Except Error (Option Entry)} (h : p.candidate username password w = (r, q, later)) :
    (∃ e, r = .ok (some e) ∧ Held e q later) ∨
    (r = .ok none ∧ Rest q later ∧ q.Saturated) ∨ (∃ e, r = .error e ∧ Rest q later) := by
  unfold Pool.candidate at h
  split at h
  · rename_i e tail idle
    cases h
    exact .inl ⟨e, rfl, s.reuse rest idle⟩
  · rename_i idle
    split at h
    · rename_i room
      cases ho : p.openEntry username password w with
      | mk r made =>
        obtain ⟨q, made⟩ := made
        rw [ho] at h
        cases r with
        | ok e => cases h; exact .inl ⟨e, rfl, s.openOk rest idle room ho⟩
        | error e => cases h; exact .inr (.inr ⟨e, rfl, s.openError rest idle room ho⟩)
    · rename_i full
      have saturated : p.Saturated := ⟨idle, Nat.not_lt.mp full⟩
      split at h
      · cases h
        exact .inr (.inl ⟨rfl, rest, saturated⟩)
      · rename_i oldest tail active
        split at h
        · cases h
          exact .inr (.inl ⟨rfl, rest, saturated⟩)
        · rename_i overdue
          cases h
          exact .inl ⟨_, rfl, s.takeOver rest saturated active (Nat.not_le.mp overdue) rfl⟩

inductive Ends (Rest : Pool → World σ → Prop) (Held : Entry → Pool → World σ → Prop) (a : Attempt) :
    Outcome → Pool → World σ → Prop where
  | granted {e : Entry} {p : Pool} {w : World σ} (held : Held e p w) :
      Ends Rest Held a (.granted (p.checkOut e a w.clock).1) (p.checkOut e a w.clock).2 w
  | failed {x : Error} {p : Pool} {w : World σ} (rest : Rest p w) : Ends Rest Held a (.failed x) p w
  | waiting {p : Pool} {w : World σ} (b : Attempt) (limit : Option Nat) (rest : Rest p w)
      (saturated : p.Saturated) (asked : b.username = a.username ∧ b.password = a.password ∧
        b.deadline = a.deadline ∧ b.started = a.started) :
      Ends Rest Held a (.waiting b w.clock limit) p w

omit [Conditions σ] in
theorem Ends.recount {n : Nat} {o : Outcome} (h : Ends Rest Held { a with bad := n } o p w) :
    Ends Rest Held a o p w := by
  cases h with
  | granted held => exact .granted held
  | failed rest => exact .failed rest
  | waiting b limit rest saturated asked => exact .waiting b limit rest saturated asked

theorem Search.round {patience : Nat} {o : Outcome} (s : Search a.username a.password Rest Held)
    (rest : Rest p w) (h : p.pursue patience a w = (o, q, later)) :
    Ends Rest Held a o q later ∨ ∃ (p' : Pool) (w' : World σ), Rest p' w' ∧
      (match patience with
        | 0 => (.failed .noGoodConnection, p', w')
        | patience + 1 => p'.pursue patience { a with bad := a.bad + 1 } w') = (o, q, later) := by
  rw [pursue.eq_def] at h
  split at h
  · cases h
    exact .inl (.failed rest)
  · cases hc : p.candidate a.username a.password w with
    | mk r found =>
      obtain ⟨p', w'⟩ := found
      rw [hc] at h
      rcases s.candidate rest hc with ⟨e, rfl, held⟩ | ⟨rfl, rest, saturated⟩ | ⟨e, rfl, rest⟩
      · have examined := s.examine held
        dsimp only at h
        split at h
        · rename_i good
          rw [good] at examined
          cases h
          exact .inl (.granted examined)
        · rename_i bad
          rw [bad] at examined
          refine .inr ⟨_, _, s.discard examined, ?_⟩
          cases patience <;> exact h
      · have rest := s.countWait (a := a) rest
        have saturated : (p'.countWait a).Saturated := by
          unfold Pool.countWait
          split
          · exact saturated
          · exact saturated
        dsimp only at h
        split at h
        · cases h
          exact .inl (.failed rest)
        · cases h
          exact .inl (.waiting _ _ rest saturated ⟨rfl, rfl, rfl, rfl⟩)
      · cases h
        exact .inl (.failed rest)

theorem Search.pursue {patience : Nat} {o : Outcome} (s : Search a.username a.password Rest Held)
    (rest : Rest p w) (h : p.pursue patience a w = (o, q, later)) : Ends Rest Held a o q later := by
  -- the patience is what shrinks; the count of bad connections in the acquire grows with it
  induction patience generalizing a p w with
  | zero =>
    rcases s.round rest h with ends | ⟨p', w', rest, h⟩
    · exact ends
    · cases h
      exact .failed rest
  | succ patience ih =>
    rcases s.round rest h with ends | ⟨p', w', rest, h⟩
    · exact ends
    · exact (ih (a := { a with bad := a.bad + 1 }) s rest h).recount

theorem Search.resume {o : Outcome} (s : Search a.username a.password Rest Held) (rest : Rest p w)
    (h : p.resume a w = (o, q, later)) : Ends Rest Held a o q later :=
  s.pursue rest h

theorem searching (username password : Option String) :
    Search (σ := σ) username password (fun _ _ => True) (fun _ _ _ => True) where
  reuse _ _ := trivial
  openOk _ _ _ _ := trivial
  openError _ _ _ _ := trivial
  takeOver _ _ _ _ _ := trivial
  examine _ := trivial
  discard _ := trivial
  countWait _ := trivial

end Pool

namespace Traffic.State

variable {σ : Type} [Conditions σ] {s t : State σ} {e : Event σ}

omit [Conditions σ] in
theorem settlePool (s : State σ) (number : Nat) (r : Outcome × Pool × World σ) :
    (s.settle number r).pool = r.2.1 ∧ (s.settle number r).world = r.2.2 := by
  obtain ⟨o, p, w⟩ := r
  cases o <;> exact ⟨rfl, rfl⟩

theorem pursuitKeeps {x : Pursuit} {Rest : Pool → World σ → Prop} {Held : Entry → Pool → World σ → Prop}
    (law : Pool.Search x.attempt.username x.attempt.password Rest Held) (found : s.pursuit? e = some x)
    (begun : ∀ time, Rest { s.pool with tally.waitTime := time } s.world)
    (checkOut : ∀ {k p w}, Held k p w → Rest (p.checkOut k x.attempt w.clock).2 w) :
    Rest (s.step e).pool (s.step e).world := by
  obtain ⟨time, pool⟩ := pursuitPool found
  have begun : Rest x.pool s.world := pool ▸ begun time
  rw [stepPursuit found, (settlePool _ _ _).1, (settlePool _ _ _).2]
  cases result : x.pool.resume x.attempt s.world with
  | mk o r =>
    obtain ⟨q, later⟩ := r
    cases law.resume begun result with
    | granted held => exact checkOut held
    | failed rest => exact rest
    | waiting b limit rest => exact rest

omit [Conditions σ] in
theorem enterWaiters {y : Waiter} (member : y ∈ (s.enter e).waiters) : y ∈ s.waiters := by
  cases e with
  | wake number => exact (List.mem_filter.mp member).1
  | _ => exact member

theorem waitersStep (course : s.Course e t) {y : Waiter} (member : y ∈ t.waiters) :
    y ∈ s.waiters ∨ y.heard = t.pool.signals ∧ t.pool.Saturated ∧
      ∃ x, s.pursuit? e = some x ∧ y.number = x.number ∧
        y.attempt.username = x.attempt.username ∧ y.attempt.password = x.attempt.password := by
  cases course with
  | pursued x found =>
    cases result : x.pool.resume x.attempt s.world with
    | mk o r =>
      obtain ⟨q, later⟩ := r
      rw [result] at member
      have ends := (Pool.searching x.attempt.username x.attempt.password).resume trivial result
      cases ends with
      | granted => exact .inl (enterWaiters member)
      | failed => exact .inl (enterWaiters member)
      | waiting b limit _ saturated asked =>
        rcases List.mem_append.mp member with old | new
        · exact .inl (enterWaiters old)
        · rw [List.mem_singleton.mp new]
          exact .inr ⟨rfl, saturated, x, found, rfl, asked.1, asked.2.1⟩
  | called => exact .inl member
  | returned => exact .inl member
  | emptied => exact .inl member
  | tolerated => exact .inl member
  | outside => exact .inl member

end Traffic.State
end ConnectionPool
