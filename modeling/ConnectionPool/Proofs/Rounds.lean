import Mathlib.Algebra.GroupWithZero.Nat
import ConnectionPool.Proofs.Epochs
import ConnectionPool.Proofs.Limits
import ConnectionPool.Proofs.Trial

/-! The rounds of an acquire within one critical section. Each round takes a candidate from the pool and
finds it bad; after the last of them the acquire ends or has to wait. What the rounds take from a pool is
taken from the front of its lists. A bad candidate leaves room for one connection more, so that no round
but the first can take over a checkout, and that only if the acquire found the pool saturated. -/
namespace ConnectionPool

namespace Pool

variable {σ : Type} [Conditions σ]

inductive Sought (username password : Option String) (p : Pool) (w : World σ) :
    Except Error (Option Entry) → Pool → World σ → Prop where
  | reused {e rest} (idle : p.idle = e :: rest) :
      Sought username password p w (.ok (some e)) { p with idle := rest } w
  | opened {e q later} (idle : p.idle = []) (room : p.active.length < p.config.maxActive.toNat)
      (opened : p.openEntry username password w = (.ok e, q, later)) :
      Sought username password p w (.ok (some e)) q later
  | unopened {x q later} (idle : p.idle = []) (room : p.active.length < p.config.maxActive.toNat)
      (failed : p.openEntry username password w = (.error x, q, later)) :
      Sought username password p w (.error x) q later
  | takenOver {oldest rest e q later} (saturated : p.Saturated) (active : p.active = oldest :: rest)
      (overdue : p.config.maxCheckout.nanos < oldest.checkoutTime w.clock)
      (taken : p.takeOver oldest rest w = (e, q, later)) :
      Sought username password p w (.ok (some e)) q later
  | nothing (saturated : p.Saturated)
      (young : ∀ f ∈ p.active.head?, f.checkoutTime w.clock ≤ p.config.maxCheckout.nanos) :
      Sought username password p w (.ok none) p w

inductive Rounds (username password : Option String) :
    Pool → World σ → List Entry → Pool → World σ → Prop where
  | none {p w} : Rounds username password p w [] p w
  | more {p w e q now after bad r later} (going : p.shutDown = false)
      (found : p.candidate username password w = (.ok (some e), q, now))
      (failed : q.examine e now = (false, after))
      (rest : Rounds username password (q.discard e after).1.countBad (q.discard e after).2 bad r
        later) :
      Rounds username password p w (e :: bad) r later

inductive Last (a : Attempt) (p : Pool) (w : World σ) : Outcome → Pool → World σ → Prop where
  | closed (stopped : p.shutDown = true) : Last a p w (.failed .poolClosed) p w
  | unopened {x q later} (going : p.shutDown = false) (idle : p.idle = [])
      (room : p.active.length < p.config.maxActive.toNat)
      (failed : p.openEntry a.username a.password w = (.error x, q, later)) :
      Last a p w (.failed x) q later
  | late {moment} (going : p.shutDown = false) (saturated : p.Saturated)
      (deadline : a.deadline = some moment) (reached : moment ≤ w.clock) :
      Last a p w (.failed .deadlinePassed) (p.countWait a) w
  | waits {limit} (going : p.shutDown = false) (saturated : p.Saturated)
      (young : ∀ f ∈ p.active.head?, f.checkoutTime w.clock ≤ p.config.maxCheckout.nanos)
      (lasts : waitLimit p.config.wait.nanos a.deadline w.clock = .ok limit) :
      Last a p w (.waiting { a with waited := true } w.clock limit) (p.countWait a) w
  | granted {e q now later} (going : p.shutDown = false)
      (found : p.candidate a.username a.password w = (.ok (some e), q, now))
      (good : q.examine e now = (true, later)) :
      Last a p w (.granted (q.checkOut e a later.clock).1) (q.checkOut e a later.clock).2 later

variable {username password : Option String} {p q r : Pool} {w now after later : World σ} {a : Attempt}
  {e : Entry} {bad : List Entry} {patience : Nat} {o : Outcome}

theorem candidateSought {c : Except Error (Option Entry)}
    (h : p.candidate username password w = (c, q, later)) :
    Sought username password p w c q later := by
  unfold candidate at h
  split at h
  · rename_i idle
    cases h
    exact .reused idle
  · rename_i idle
    split at h
    · rename_i room
      cases opening : p.openEntry username password w with
      | mk r made =>
        rw [opening] at h
        cases r with
        | ok e => cases h; exact .opened idle room opening
        | error x => cases h; exact .unopened idle room opening
    · rename_i full
      have saturated : p.Saturated := ⟨idle, Nat.not_lt.mp full⟩
      split at h
      · rename_i active
        cases h
        exact .nothing saturated (by simp [active])
      · rename_i oldest rest active
        split at h
        · rename_i young
          cases h
          exact .nothing saturated (by simpa [active] using young)
        · rename_i overdue
          cases h
          exact .takenOver saturated active (Nat.not_le.mp overdue) rfl

theorem Sought.grows {c : Except Error (Option Entry)} (h : Sought username password p w c q later) :
    w.Grows later := by
  cases h with
  | reused => exact w.growsRefl
  | opened _ _ opened =>
    obtain ⟨_, _, _, opening⟩ := openEntryOk opened
    exact opening.grows
  | unopened _ _ failed =>
    obtain ⟨_, calls | ⟨opening, _⟩⟩ := openEntryError failed
    · exact calls.grows
    · exact opening.grows
  | @takenOver oldest _ _ _ _ _ _ _ taken =>
    have calls := oldest.callsRollback w
    cases taken
    exact calls.grows
  | nothing => exact w.growsRefl

theorem Rounds.grows (h : Rounds username password p w bad q later) : w.Grows later := by
  induction h with
  | none => exact World.growsRefl _
  | @more p w e q now after bad r later going found failed rest ih =>
    have examined := examineCalled q e now
    rw [failed] at examined
    have met := (candidateSought found).grows.trans examined.grows
    exact (met.trans (e.closeCalled after).grows).trans ih

theorem Rounds.tries (h : Rounds username password p w bad r later)
    (few : bad.length ≤ patience + 1) (member : e ∈ bad) :
    ∃ q now after, Tries username password patience p w e q now ∧ q.examine e now = (false, after) ∧
      (e.close after).Grows later := by
  induction h generalizing patience with
  | none => cases member
  | more going found failed rest ih =>
    rcases List.mem_cons.mp member with rfl | member
    · exact ⟨_, _, _, .first going found, failed, rest.grows⟩
    · have some := List.length_pos_of_mem member
      rw [List.length_cons] at few
      obtain ⟨n, rfl⟩ : ∃ n, patience = n + 1 := ⟨patience - 1, by omega⟩
      have fewer : _ ≤ n + 1 := Nat.le_of_succ_le_succ few
      obtain ⟨q, now, after, tries, examined, grows⟩ := ih fewer member
      exact ⟨q, now, after, .next going found failed tries, examined, grows⟩

theorem Rounds.pursue (h : Rounds username password p w bad q later) (few : bad.length ≤ patience)
    (user : a.username = username) (word : a.password = password) : p.pursue patience a w =
      q.pursue (patience - bad.length) { a with bad := a.bad + bad.length } later := by
  induction h generalizing a patience with
  | none => rfl
  | @more p w e q now after bad r later going found failed rest ih =>
    subst user word
    rw [List.length_cons] at few ⊢
    obtain ⟨n, rfl⟩ : ∃ n, patience = n + 1 := ⟨patience - 1, by omega⟩
    have next := ih (a := { a with bad := a.bad + 1 }) (Nat.le_of_succ_le_succ few) rfl rfl
    rw [pursueBad going found failed]
    dsimp only at next ⊢
    rw [next, Nat.add_sub_add_right, Nat.add_assoc a.bad 1, Nat.add_comm 1]

theorem candidateOpens (idle : p.idle = []) (room : p.active.length < p.config.maxActive.toNat) :
    p.candidate username password w =
      match p.openEntry username password w with
      | (.ok e, p, w) => (.ok (some e), p, w)
      | (.error e, p, w) => (.error e, p, w) := by
  unfold candidate
  rw [idle]
  exact if_pos room

theorem pursueUnopened {x : Error} (going : p.shutDown = false) (idle : p.idle = [])
    (room : p.active.length < p.config.maxActive.toNat)
    (failed : p.openEntry a.username a.password w = (.error x, q, later)) :
    p.pursue patience a w = (.failed x, q, later) := by
  rw [pursue.eq_def, going, if_neg Bool.false_ne_true, candidateOpens idle room, failed]

theorem Last.nothing (going : p.shutDown = false) (saturated : p.Saturated)
    (young : ∀ f ∈ p.active.head?, f.checkoutTime w.clock ≤ p.config.maxCheckout.nanos) :
    Last a p w
      (match waitLimit p.config.wait.nanos a.deadline w.clock with
        | .error x => .failed x
        | .ok limit => .waiting { a with waited := true } w.clock limit) (p.countWait a) w := by
  cases lasts : waitLimit p.config.wait.nanos a.deadline w.clock with
  | ok limit => exact .waits going saturated young lasts
  | error x =>
    unfold waitLimit at lasts
    split at lasts
    · cases lasts
    · rename_i moment deadline
      split at lasts
      · rename_i reached
        cases lasts
        exact .late going saturated deadline reached
      · cases lasts

omit [Conditions σ] in
theorem countWaitPool (p : Pool) (a : Attempt) :
    ∃ waits, p.countWait a = { p with tally.waits := waits } := by
  unfold countWait
  split
  · exact ⟨_, rfl⟩
  · exact ⟨_, rfl⟩

theorem pursueRound (h : p.pursue patience a w = (o, q, later)) :
    Last a p w o q later ∨ ∃ e r now after, p.shutDown = false ∧
      p.candidate a.username a.password w = (.ok (some e), r, now) ∧
      r.examine e now = (false, after) := by
  rw [pursue.eq_def] at h
  split at h
  · rename_i stopped
    cases h
    exact .inl (.closed stopped)
  · rename_i running
    have going : p.shutDown = false := Bool.eq_false_iff.mpr running
    cases found : p.candidate a.username a.password w with
    | mk c rest =>
      obtain ⟨r, now⟩ := rest
      rw [found] at h
      have sought := candidateSought found
      rcases c with x | none | e
      · cases sought with
        | unopened idle room failed =>
          cases h
          exact .inl (.unopened going idle room failed)
      · cases sought with
        | nothing saturated young =>
          have last := Last.nothing (a := a) going saturated young
          have config : (p.countWait a).config = p.config := by
            obtain ⟨_, counted⟩ := p.countWaitPool a
            rw [counted]
          dsimp only at h
          rw [config] at h
          split at h
          · rename_i lasts
            cases h
            rw [lasts] at last
            exact .inl last
          · rename_i lasts
            cases h
            rw [lasts] at last
            exact .inl last
      · cases examined : r.examine e now with
        | mk good after =>
          cases good with
          | true =>
            dsimp only at h
            rw [examined] at h
            cases h
            exact .inl (.granted going found examined)
          | false => exact .inr ⟨e, r, now, after, going, rfl, examined⟩

def discarded (username password : Option String) (patience : Nat) (p : Pool) (w : World σ) :
    List Entry :=
  if p.shutDown then []
  else
    match p.candidate username password w with
    | (.ok (some e), q, now) =>
      match q.examine e now with
      | (true, _) => []
      | (false, after) =>
        let (q, after) := q.discard e after
        match patience with
        | 0 => [e]
        | patience + 1 => e :: discarded username password patience q.countBad after
    | _ => []

theorem discardedNone (none : ¬∃ e r now after, p.shutDown = false ∧
    p.candidate username password w = (.ok (some e), r, now) ∧ r.examine e now = (false, after)) :
    discarded username password patience p w = [] := by
  rw [discarded.eq_def]
  split
  · rfl
  · rename_i running
    split
    · rename_i found
      split
      · rfl
      · rename_i failed
        exact absurd ⟨_, _, _, _, Bool.eq_false_iff.mpr running, found, failed⟩ none
    · rfl

theorem discardedBad (going : p.shutDown = false)
    (found : p.candidate username password w = (.ok (some e), q, now))
    (failed : q.examine e now = (false, after)) :
    discarded username password patience p w = e :: match patience with
      | 0 => []
      | patience + 1 => discarded username password patience (q.discard e after).1.countBad
          (q.discard e after).2 := by
  rw [discarded.eq_def, going, if_neg Bool.false_ne_true, found]
  cases patience <;> simp only [failed]

theorem discardRound (h : p.pursue patience a w = (o, q, later)) :
    discarded a.username a.password patience p w = [] ∧ Last a p w o q later ∨
      ∃ e r now after, p.shutDown = false ∧
        p.candidate a.username a.password w = (.ok (some e), r, now) ∧
        r.examine e now = (false, after) := by
  by_cases more : ∃ e r now after, p.shutDown = false ∧
      p.candidate a.username a.password w = (.ok (some e), r, now) ∧ r.examine e now = (false, after)
  · exact .inr more
  · exact .inl ⟨discardedNone more, (pursueRound h).resolve_right more⟩

theorem pursueDiscards (h : p.pursue patience a w = (o, q, later))
    (all : discarded a.username a.password patience p w = bad) :
    ∃ r v, Rounds a.username a.password p w bad r v ∧
      (bad.length = patience + 1 ∧ o = .failed .noGoodConnection ∧ q = r ∧ later = v ∨
        bad.length ≤ patience ∧ Last { a with bad := a.bad + bad.length } r v o q later) := by
  induction patience generalizing a p w bad with
  | zero =>
    rcases discardRound h with ⟨none, last⟩ | ⟨e, r, now, after, going, found, failed⟩
    · cases none.symm.trans all
      exact ⟨p, w, .none, .inr ⟨Nat.le_refl _, last⟩⟩
    · rw [discardedBad going found failed] at all
      rw [pursueBad going found failed] at h
      subst all
      cases h
      exact ⟨_, _, .more going found failed .none, .inl ⟨rfl, rfl, rfl, rfl⟩⟩
  | succ patience ih =>
    rcases discardRound h with ⟨none, last⟩ | ⟨e, r, now, after, going, found, failed⟩
    · cases none.symm.trans all
      exact ⟨p, w, .none, .inr ⟨Nat.zero_le _, last⟩⟩
    · rw [discardedBad going found failed] at all
      rw [pursueBad going found failed] at h
      obtain ⟨rest, same⟩ : ∃ rest, bad = e :: rest := ⟨_, all.symm⟩
      subst same
      obtain ⟨r, v, rounds, ends⟩ := ih h (List.cons.inj all).2
      refine ⟨r, v, .more going found failed rounds, ?_⟩
      rcases ends with ⟨many, ended⟩ | ⟨few, last⟩
      · exact .inl ⟨congrArg (· + 1) many, ended⟩
      · refine .inr ⟨Nat.succ_le_succ few, ?_⟩
        rw [List.length_cons, Nat.add_comm rest.length, ← Nat.add_assoc]
        exact last

theorem pursueEnds (h : p.pursue patience a w = (o, q, later)) :
    ∃ bad r v, Rounds a.username a.password p w bad r v ∧
      (bad.length = patience + 1 ∧ o = .failed .noGoodConnection ∧ q = r ∧ later = v ∨
        bad.length ≤ patience ∧ Last { a with bad := a.bad + bad.length } r v o q later) :=
  ⟨_, pursueDiscards h rfl⟩

structure Took (p : Pool) (now : Nat) (met : List Entry) (bad : Nat) (kept held : List Entry)
    (q : Pool) : Prop where
  config : q.config = p.config
  source : q.source = p.source
  shutDown : q.shutDown = p.shutDown
  idle : p.idle = kept ++ q.idle
  active : p.active = held ++ q.active
  origin : ∀ f ∈ kept ++ held, ∃ e ∈ met, e.connection = f.connection
  overdue : ∀ f ∈ held, p.config.maxCheckout.nanos < f.checkoutTime now
  saturated : held ≠ [] → p.Saturated
  claimed : p.Saturated → met ≠ [] → ∃ oldest, held = [oldest]
  room : met ≠ [] → q.idle.length + q.active.length < q.config.maxActive.toNat
  tally : q.tally = { p.tally with
    checkoutTime := p.tally.checkoutTime + (held.map (·.checkoutTime now)).sum
    overdueClaims := p.tally.overdueClaims + held.length
    overdueTime := p.tally.overdueTime + (held.map (·.checkoutTime now)).sum
    badConnections := p.tally.badConnections + bad }

section Took

variable {now later : Nat} {met more kept held kept' held' : List Entry} {n m : Nat}

omit [Conditions σ]

theorem tookNone (p : Pool) (now : Nat) : Took p now [] 0 [] [] p where
  config := rfl
  source := rfl
  shutDown := rfl
  idle := rfl
  active := rfl
  origin _ member := nomatch member
  overdue _ member := nomatch member
  saturated none := absurd rfl none
  claimed _ none := absurd rfl none
  room none := absurd rfl none
  tally := rfl

theorem Took.unmet (h : Took p now [] n kept held q) : kept = [] ∧ held = [] := by
  refine List.append_eq_nil_iff.mp (List.eq_nil_iff_forall_not_mem.mpr fun f member => ?_)
  obtain ⟨e, none, _⟩ := h.origin f member
  cases none

theorem Took.fewer (h : Took p now met n kept held q) :
    q.idle.length + q.active.length ≤ p.idle.length + p.active.length := by
  rw [h.idle, h.active, List.length_append, List.length_append]
  omega

/- Only what begins with a saturated pool takes over a checkout, and after an entry was met the pool has
room. So whatever is taken over is so at the beginning. -/
theorem Took.andThen (first : Took p now met n kept held q) (last : Took q later more m kept' held' r)
    (same : met = [] → later = now) :
    Took p now (met ++ more) (n + m) (kept ++ kept') (held ++ held') r := by
  have begun (some : held' ≠ []) : met = [] := by
    by_contra other
    have room := first.room other
    have saturated := last.saturated some
    rw [saturated.1, List.length_nil] at room
    have full := saturated.2
    omega
  have times (f : Entry) (member : f ∈ held') : f.checkoutTime later = f.checkoutTime now := by
    rw [same (begun (List.ne_nil_of_mem member))]
  have sum : held'.map (·.checkoutTime later) = held'.map (·.checkoutTime now) :=
    List.map_congr_left times
  refine ⟨last.config.trans first.config, last.source.trans first.source,
    last.shutDown.trans first.shutDown, ?_, ?_, fun f member => ?_, fun f member => ?_, fun some => ?_,
    fun saturated some => ?_, fun some => ?_, ?_⟩
  · rw [first.idle, last.idle, List.append_assoc]
  · rw [first.active, last.active, List.append_assoc]
  · have either : f ∈ kept ++ held ∨ f ∈ kept' ++ held' := by
      simp only [List.mem_append] at member ⊢
      tauto
    rcases either with old | new
    · obtain ⟨e, there, same⟩ := first.origin f old
      exact ⟨e, List.mem_append_left _ there, same⟩
    · obtain ⟨e, there, same⟩ := last.origin f new
      exact ⟨e, List.mem_append_right _ there, same⟩
  · rcases List.mem_append.mp member with old | new
    · exact first.overdue f old
    · rw [← times f new, ← first.config]
      exact last.overdue f new
  · by_cases none : held' = []
    · rw [none, List.append_nil] at some
      exact first.saturated some
    · have saturated := last.saturated none
      rw [begun none] at first
      obtain ⟨rfl, rfl⟩ := first.unmet
      rw [Saturated, first.config] at saturated
      rw [Saturated, first.idle, first.active]
      exact saturated
  · by_cases unmet : met = []
    · rw [unmet] at first some
      obtain ⟨rfl, rfl⟩ := first.unmet
      rw [Saturated, first.idle, first.active, ← first.config] at saturated
      exact last.claimed saturated some
    · have none : held' = [] := by
        by_contra other
        exact unmet (begun other)
      rw [none, List.append_nil]
      exact first.claimed saturated unmet
  · -- without a further entry the room is what the first ones left, and the pool has grown no fuller since
    by_cases none : more = []
    · have fewer := last.fewer
      rw [none, List.append_nil] at some
      have room := first.room some
      rw [last.config]
      omega
    · exact last.room none
  · rw [last.tally, first.tally, sum]
    simp only [List.map_append, List.sum_append, List.length_append, Nat.add_assoc]

end Took

theorem Sought.took (h : Sought username password p w (.ok (some e)) q later)
    (fits : p.idle.length + p.active.length ≤ p.config.maxActive.toNat) :
    ∃ kept held, Took p w.clock [e] 0 kept held q := by
  cases h with
  | @reused _ rest idle =>
    rw [idle, List.length_cons] at fits
    refine ⟨[e], [], rfl, rfl, rfl, idle, rfl, fun f member => ⟨e, List.mem_cons_self, ?_⟩,
      fun _ member => (nomatch member), fun none => absurd rfl none, fun full _ => ?_, fun _ => ?_, rfl⟩
    · rw [List.append_nil, List.mem_singleton] at member
      rw [member]
    · rw [full.1] at idle
      cases idle
    · change rest.length + p.active.length < p.config.maxActive.toNat
      omega
  | opened idle room opened =>
    obtain ⟨_, _, rfl, _⟩ := openEntryOk opened
    refine ⟨[], [], rfl, rfl, rfl, rfl, rfl, fun _ member => (nomatch member),
      fun _ member => (nomatch member), fun none => absurd rfl none, fun full _ => ?_, fun _ => ?_, rfl⟩
    · exact absurd room (Nat.not_lt.mpr full.2)
    · rw [idle, List.length_nil, Nat.zero_add]
      exact room
  | @takenOver oldest rest _ _ _ saturated active overdue taken =>
    rw [active, List.length_cons] at fits
    cases taken
    refine ⟨[], [oldest], rfl, rfl, rfl, rfl, active, fun f member => ⟨_, List.mem_cons_self, ?_⟩,
      fun f member => ?_, fun _ => saturated, fun _ _ => ⟨oldest, rfl⟩, fun _ => ?_, rfl⟩
    · rw [List.nil_append, List.mem_singleton] at member
      rw [member]
      rfl
    · rw [List.mem_singleton.mp member]
      exact overdue
    · change p.idle.length + rest.length < p.config.maxActive.toNat
      omega

omit [Conditions σ] in
theorem Took.countBad {now n : Nat} {met kept held : List Entry} (h : Took p now met n kept held q)
    (e : Entry) : Took p now met (n + 1) kept held (q.revoke e).countBad :=
  ⟨h.config, h.source, h.shutDown, h.idle, h.active, h.origin, h.overdue, h.saturated, h.claimed, h.room,
    by
    simp only [Pool.countBad, revoke, h.tally, Nat.add_assoc]⟩

theorem Rounds.took (h : Rounds username password p w bad q later)
    (fits : p.idle.length + p.active.length ≤ p.config.maxActive.toNat) :
    ∃ kept held, Took p w.clock bad bad.length kept held q := by
  induction h with
  | none => exact ⟨[], [], tookNone _ _⟩
  | @more p w e q now after bad r later going found failed rest ih =>
    obtain ⟨kept, held, met⟩ := (candidateSought found).took fits
    have first := met.countBad e
    have room := first.room (List.cons_ne_nil _ _)
    obtain ⟨kept', held', more⟩ := ih (Nat.le_of_lt room)
    have took := first.andThen more fun none => absurd none (List.cons_ne_nil _ _)
    rw [Nat.zero_add, Nat.add_comm] at took
    exact ⟨_, _, took⟩

theorem examineBad (h : p.examine e w = (false, later)) : p.probe e p.config w = (false, later) ∨
    ∃ tested x, p.probe e p.config w = (true, tested) ∧ e.rollbackIfNeeded tested = (.error x, later) := by
  unfold examine at h
  split at h
  · rename_i probed
    cases h
    exact .inl probed
  · rename_i tested probed
    split at h
    · cases h
    · rename_i x after rolled
      cases h
      exact .inr ⟨tested, x, probed, rolled⟩

theorem Last.keeps (h : Last a p w o q later) (without : ∀ k, o ≠ .granted k) :
    q.idle = p.idle ∧ q.active = p.active ∧ w.Grows later ∧
      ∃ waits, q.tally = { p.tally with waits := waits } := by
  obtain ⟨waits, counted⟩ := p.countWaitPool a
  cases h with
  | closed => exact ⟨rfl, rfl, w.growsRefl, _, rfl⟩
  | unopened _ idle room failed =>
    have grows := (Sought.unopened idle room failed).grows
    obtain ⟨rfl, _⟩ := openEntryError failed
    exact ⟨rfl, rfl, grows, _, rfl⟩
  | late => rw [counted]; exact ⟨rfl, rfl, w.growsRefl, _, rfl⟩
  | waits => rw [counted]; exact ⟨rfl, rfl, w.growsRefl, _, rfl⟩
  | granted => exact absurd rfl (without _)

theorem pursueTook (h : p.pursue patience a w = (o, q, later))
    (fits : p.idle.length + p.active.length ≤ p.config.maxActive.toNat) :
    ∃ met bad kept held r, Took p w.clock met bad kept held r ∧ bad ≤ patience + 1 ∧ q.idle = r.idle ∧
      ((∀ k, o ≠ .granted k) ∧ (met = [] → Last a p w o q later) ∧
          (∃ v, Rounds a.username a.password p w met r v ∧ met.length ≤ patience + 1 ∧
            v.Grows later) ∧
          q.active = r.active ∧ (∃ waits, q.tally = { r.tally with waits := waits }) ∨
        ∃ k time, met ≠ [] ∧ o = .granted k ∧ q.active = r.active ++ [k] ∧ q.tally = { r.tally with
          requests := r.tally.requests + 1, requestTime := r.tally.requestTime + time }) := by
  obtain ⟨bad, r, v, rounds, ends⟩ := pursueEnds h
  obtain ⟨kept, held, took⟩ := rounds.took fits
  rcases ends with ⟨many, rfl, rfl, rfl⟩ | ⟨few, last⟩
  · have several : bad ≠ [] := List.ne_nil_of_length_eq_add_one many
    exact ⟨bad, _, kept, held, q, took, Nat.le_of_eq many, rfl, .inl ⟨nofun,
      fun none => absurd none several, ⟨later, rounds, Nat.le_of_eq many, later.growsRefl⟩, rfl, _,
      rfl⟩⟩
  · by_cases without : ∀ k, o ≠ .granted k
    · obtain ⟨idle, active, grows, tally⟩ := last.keeps without
      refine ⟨bad, _, kept, held, r, took, Nat.le_succ_of_le few, idle, .inl ⟨without, ?_,
        ⟨v, rounds, Nat.le_succ_of_le few, grows⟩, active, tally⟩⟩
      rintro rfl
      cases rounds
      exact last
    · cases last with
      | granted going found good =>
        have room : r.idle.length + r.active.length ≤ r.config.maxActive.toNat := by
          rw [took.config]
          exact Nat.le_trans took.fewer fits
        obtain ⟨kept', held', more⟩ := (candidateSought found).took room
        have begun : bad = [] → v.clock = w.clock := by
          rintro rfl
          cases rounds
          rfl
        exact ⟨_, _, _, _, _, took.andThen more begun, Nat.le_succ_of_le few, rfl,
          .inr ⟨_, _, List.concat_ne_nil _ _, rfl, rfl, rfl⟩⟩
      | _ => exact absurd nofun without

structure Waits (a : Attempt) (p : Pool) (w : World σ) (b : Attempt) (since : Nat) (limit : Option Nat)
    (q : Pool) (later : World σ) : Prop where
  attempt : b = { a with waited := true }
  since : since = w.clock
  pool : q = p.countWait a
  world : later = w
  going : p.shutDown = false
  saturated : p.Saturated
  young : ∀ f ∈ p.active.head?, f.checkoutTime w.clock ≤ p.config.maxCheckout.nanos
  lasts : waitLimit p.config.wait.nanos a.deadline w.clock = .ok limit

/- An acquire that has to wait has met nothing: after a bad entry it could have opened a connection. -/
theorem pursueWaits {b : Attempt} {since : Nat} {limit : Option Nat}
    (h : p.pursue patience a w = (.waiting b since limit, q, later))
    (fits : p.idle.length + p.active.length ≤ p.config.maxActive.toNat) :
    Waits a p w b since limit q later := by
  obtain ⟨bad, r, v, rounds, ⟨_, ended, _⟩ | ⟨_, last⟩⟩ := pursueEnds h
  · cases ended
  · cases last with
    | waits going saturated young lasts =>
      obtain ⟨kept, held, took⟩ := rounds.took fits
      have none : bad = [] := by
        by_contra met
        have room := took.room met
        rw [saturated.1, List.length_nil, Nat.zero_add] at room
        exact absurd room (Nat.not_lt.mpr saturated.2)
      subst none
      cases rounds
      exact ⟨rfl, rfl, rfl, rfl, going, saturated, young, lasts⟩

end Pool

namespace Traffic

variable {σ : Type} [Conditions σ]

structure Moment.Rejects (m : Moment σ) (x : Pursuit) (c : Nat) : Prop where
  met : ∃ (e : Entry) (q : Pool) (now after : World σ), e.connection = c ∧
    Pool.Tries x.attempt.username x.attempt.password (x.pool.config.badLimit - x.attempt.bad) x.pool
      m.state.world e q now ∧
    (q.probe e q.config now = (false, after) ∨ ∃ tested error,
      q.probe e q.config now = (true, tested) ∧
        e.rollbackIfNeeded tested = (.error error, after)) ∧
    after.Tried m.next.world (.close c)

namespace State

variable {s : State σ} {e : Event σ} {x : Pursuit} {history : List (Moment σ)} {o : Outcome} {q : Pool}
  {later : World σ}

theorem pursuitFits {source : Source} {config : Config} {world : World σ}
    (run : Run (.start source config world) history s) (found : s.pursuit? e = some x) :
    x.pool.idle.length + x.pool.active.length ≤ x.pool.config.maxActive.toNat := by
  obtain ⟨time, pool⟩ := pursuitPool found
  rw [pool]
  exact (boundedRun run).1.total

theorem roundsReject {bad : List Entry} {r : Pool} {v : World σ}
    (rounds : Pool.Rounds x.attempt.username x.attempt.password x.pool s.world bad r v)
    (few : bad.length ≤ x.pool.config.badLimit - x.attempt.bad + 1)
    (grows : v.Grows (s.step e).world) {f : Entry} (member : f ∈ bad) :
    (Moment.mk s e).Rejects x f.connection := by
  obtain ⟨q, now, after, tries, examined, closes⟩ := rounds.tries few member
  exact ⟨f, q, now, after, rfl, tries, Pool.examineBad examined,
    (f.closeTried after).later (closes.trans grows)⟩

theorem pursuitHolder {source : Source} {config : Config} {world : World σ}
    (run : Run (.start source config world) history s) (found : s.pursuit? e = some x) {h : Handle}
    (member : h ∈ s.handles) (still : h.entry ∈ (s.step e).pool.active) :
    h.valid (s.step e).pool = true := by
  have next := run.more e (insidePossible (pursuitInside found))
  refine ((State.kept next).handleValid ?_).mpr still
  obtain ⟨i, there⟩ := List.mem_iff_getElem?.mp member
  rw [stepPursuit found]
  exact List.mem_of_getElem? (settleHandles _ i _ (by cases e <;> exact there) _)

theorem enterWithout {source : Source} {config : Config} {world : World σ}
    (run : Run (.start source config world) history s) (found : s.pursuit? e = some x) {z : Waiter}
    (member : z ∈ (s.enter e).waiters) : z.number ≠ x.number := by
  cases e <;> simp only [pursuit?, Option.some.injEq, Option.map_eq_some_iff, reduceCtorEq] at found
  case acquire => subst found; exact Nat.ne_of_lt (numbersBelow run member)
  case acquireDefault => subst found; exact Nat.ne_of_lt (numbersBelow run member)
  case wake number =>
    obtain ⟨y, _, rfl⟩ := found
    simpa using (List.mem_filter.mp member).2

theorem pursuitWaiters (found : s.pursuit? e = some x) {y : Waiter} (member : y ∈ (s.step e).waiters) :
    y ∈ (s.enter e).waiters ∨ y.number = x.number ∧ y.heard = (s.step e).pool.signals ∧
      x.pool.resume x.attempt s.world =
        (.waiting y.attempt y.since y.limit, (s.step e).pool, (s.step e).world) := by
  rw [stepPursuit found] at member ⊢
  cases result : x.pool.resume x.attempt s.world with
  | mk o rest =>
    rw [result] at member
    cases o with
    | granted => exact .inl member
    | failed => exact .inl member
    | waiting =>
      rcases List.mem_append.mp member with old | new
      · exact .inl old
      · rw [List.mem_singleton.mp new]
        exact .inr ⟨rfl, rfl, rfl⟩

theorem quietWaiters (possible : s.Possible e) (quiet : s.pursuit? e = none) :
    (s.step e).waiters = s.waiters := by
  have course := s.course e possible
  generalize s.step e = t at course
  cases course with
  | pursued x found => rw [found] at quiet; cases quiet
  | called => rfl
  | returned => rfl
  | emptied => rfl
  | tolerated => rfl
  | outside => rfl

omit [Conditions σ] in
theorem pursuitAsWaited (waited : ∀ y ∈ s.waiters, y.attempt.bad = 0) (found : s.pursuit? e = some x) :
    x.attempt.bad = 0 := by
  cases e <;> simp only [pursuit?, Option.some.injEq, Option.map_eq_some_iff, reduceCtorEq] at found
  case acquire => subst found; rfl
  case acquireDefault => subst found; rfl
  case wake number =>
    obtain ⟨y, waits, rfl⟩ := found
    exact waited y (List.mem_of_find?_eq_some waits)

theorem waitersFresh {source : Source} {config : Config} {world : World σ}
    (run : Run (.start source config world) history s) : ∀ y ∈ s.waiters, y.attempt.bad = 0 := by
  induction run with
  | none => exact fun _ member => nomatch member
  | @more history s before e possible ih =>
    intro y member
    cases found : s.pursuit? e with
    | none => exact ih y (quietWaiters possible found ▸ member)
    | some x =>
      rcases pursuitWaiters found member with old | ⟨_, _, result⟩
      · exact ih y (enterWaiters old)
      · rw [(Pool.pursueWaits result (pursuitFits before found)).attempt]
        exact pursuitAsWaited ih found

theorem pursuitFresh {source : Source} {config : Config} {world : World σ}
    (run : Run (.start source config world) history s) (found : s.pursuit? e = some x) :
    x.attempt.bad = 0 :=
  pursuitAsWaited (waitersFresh run) found

theorem pursuitPatience {source : Source} {config : Config} {world : World σ}
    (run : Run (.start source config world) history s) (found : s.pursuit? e = some x) :
    x.pool.config.badLimit - x.attempt.bad = s.pool.config.badLimit := by
  obtain ⟨time, pool⟩ := pursuitPool found
  rw [pursuitFresh run found, pool]
  rfl

theorem grantedIff {k : Entry} : (Moment.mk s e).granted? = some (x, k) ↔
    s.pursuit? e = some x ∧ (x.pool.resume x.attempt s.world).1 = .granted k := by
  constructor
  · intro granted
    obtain ⟨found, q, later, result⟩ := grantedResume granted
    exact ⟨found, congrArg Prod.fst result⟩
  · rintro ⟨found, result⟩
    simp only [Moment.granted?, found, result]

theorem grantedNew {source : Source} {config : Config} {world : World σ}
    (run : Run (.start source config world) history s) {k : Entry}
    (granted : (Moment.mk s e).granted? = some (x, k)) :
    (s.step e).handles = s.handles ++ [.new k] ∧ k ∉ s.pool.active := by
  obtain ⟨found, q, later, result⟩ := grantedResume granted
  have handles : (s.step e).handles = s.handles ++ [.new k] := by
    rw [stepPursuit found, result]
    cases e <;> rfl
  refine ⟨handles, fun active => ?_⟩
  have unique := (State.kept (run.more e (insidePossible (pursuitInside found)))).issued.serials
  obtain ⟨h, member, same⟩ := (State.kept run).issued.held k active
  rw [handles, List.map_append] at unique
  refine (List.nodup_append.mp unique).2.2 h.entry.serial (List.mem_map_of_mem member) _
    List.mem_cons_self ?_
  rw [same]
  rfl

theorem pursuitTook {source : Source} {config : Config} {world : World σ}
    (run : Run (.start source config world) history s) (found : s.pursuit? e = some x) :
    ∃ met bad kept held r, Pool.Took x.pool s.world.clock met bad kept held r ∧
      bad ≤ s.pool.config.badLimit + 1 ∧ (s.step e).pool.idle = r.idle ∧
      ((∀ k, (Moment.mk s e).granted? ≠ some (x, k)) ∧
          (met = [] → Pool.Last x.attempt x.pool s.world (x.pool.resume x.attempt s.world).1
            (s.step e).pool (s.step e).world) ∧
          (∀ f ∈ met, (Moment.mk s e).Rejects x f.connection) ∧ (s.step e).pool.active = r.active ∧
          (∃ waits, (s.step e).pool.tally = { r.tally with waits := waits }) ∨
        ∃ k time, met ≠ [] ∧ (Moment.mk s e).granted? = some (x, k) ∧
          (s.step e).pool.active = r.active ++ [k] ∧
          (s.step e).pool.tally = { r.tally with
            requests := r.tally.requests + 1, requestTime := r.tally.requestTime + time }) := by
  cases result : x.pool.resume x.attempt s.world with
  | mk o rest =>
    obtain ⟨q, later⟩ := rest
    have next : (s.step e).pool = q ∧ (s.step e).world = later := by
      rw [stepPursuit found, result]
      exact settlePool _ _ _
    have granted (k : Entry) : (Moment.mk s e).granted? = some (x, k) ↔ o = .granted k := by
      rw [grantedIff, result]
      exact and_iff_right found
    obtain ⟨met, bad, kept, held, r, took, few, idle, ends⟩ :=
      Pool.pursueTook result (pursuitFits run found)
    rw [next.1, next.2]
    refine ⟨met, bad, kept, held, r, took, pursuitPatience run found ▸ few, idle, ?_⟩
    rcases ends with ⟨without, last, ⟨v, rounds, few, grows⟩, rest⟩ | ⟨k, time, several, some, rest⟩
    · refine .inl ⟨fun k some => without k ((granted k).mp some), last, fun f member => ?_, rest⟩
      exact roundsReject rounds few (next.2 ▸ grows) member
    · exact .inr ⟨k, time, several, (granted k).mpr some, rest⟩

end State
end Traffic
end ConnectionPool
