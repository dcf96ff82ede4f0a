import ConnectionPool.Proofs.Rounds

/-! Which connection an acquire tries next. It looks at the first entry of a list and at no other: among
those that are kept this is the one that was given back longest ago, and among the checkouts the longest
one, since both lists stay in the order of time whatever is taken out of them. So when the first checkout
is not overdue, none is. -/
namespace ConnectionPool

namespace Pool

structure Exhausted (p : Pool) (now : Nat) : Prop where
  idle : p.idle = []
  full : p.active.length = p.config.maxActive.toNat
  young : ∀ e ∈ p.active, e.checkoutTime now ≤ p.config.maxCheckout.nanos

structure InOrder (p : Pool) (now : Nat) : Prop where
  order : p.active.Pairwise (·.checkoutAt ≤ ·.checkoutAt)
  past : ∀ e ∈ p.active, e.checkoutAt ≤ now

variable {p q : Pool} {now later : Nat}

theorem InOrder.fewer (h : p.InOrder now) (sub : q.active.Sublist p.active) (since : now ≤ later) :
    q.InOrder later where
  order := h.order.sublist sub
  past e member := Nat.le_trans (h.past e (sub.subset member)) since

theorem InOrder.checkOut (h : p.InOrder now) (e : Entry) (a : Attempt) :
    (p.checkOut e a now).2.InOrder now where
  order := by
    refine List.pairwise_append.mpr ⟨h.order, List.pairwise_singleton _ _, fun f member g new => ?_⟩
    rw [List.mem_singleton.mp new]
    exact h.past f member
  past f member := by
    rcases List.mem_append.mp member with old | new
    · exact h.past f old
    · rw [List.mem_singleton.mp new]
      exact Nat.le_refl now

theorem InOrder.longest (h : p.InOrder now) {oldest e : Entry} {rest : List Entry}
    (active : p.active = oldest :: rest) (member : e ∈ p.active) (moment : Nat) :
    e.checkoutTime moment ≤ oldest.checkoutTime moment := by
  have order := h.order
  rw [active] at order member
  refine Nat.sub_le_sub_left ?_ moment
  rcases List.mem_cons.mp member with rfl | other
  · exact Nat.le_refl _
  · exact (List.pairwise_cons.mp order).1 e other

theorem InOrder.exhausted (h : p.InOrder now) (saturated : p.Saturated)
    (fits : p.idle.length + p.active.length ≤ p.config.maxActive.toNat)
    (young : ∀ e ∈ p.active.head?, e.checkoutTime later ≤ p.config.maxCheckout.nanos) :
    p.Exhausted later := by
  obtain ⟨idle, full⟩ := saturated
  rw [idle, List.length_nil, Nat.zero_add] at fits
  refine ⟨idle, Nat.le_antisymm fits full, fun e member => ?_⟩
  obtain ⟨oldest, rest, active⟩ := List.exists_cons_of_ne_nil (List.ne_nil_of_mem member)
  exact Nat.le_trans (h.longest active member later) (young oldest (by rw [active]; rfl))

variable {σ : Type} [Conditions σ] {username password : Option String} {w after : World σ}
  {bad : List Entry}

theorem inOrder (username password : Option String) :
    Search (σ := σ) username password (fun p w => p.InOrder w.clock) (fun _ p w => p.InOrder w.clock) where
  reuse h _ := ⟨h.order, h.past⟩
  openOk h _ _ opened := by
    obtain ⟨_, _, rfl, opening⟩ := openEntryOk opened
    exact h.fewer (List.Sublist.refl _) opening.grows.clock
  openError h idle room failed := by
    have grows := (Sought.unopened idle room failed).grows
    obtain ⟨rfl, _⟩ := openEntryError failed
    exact h.fewer (List.Sublist.refl _) grows.clock
  takeOver {_ _ w _ _ oldest rest} h _ active _ taken := by
    cases taken
    exact h.fewer (active ▸ List.sublist_cons_self oldest rest) (oldest.callsRollback w).grows.clock
  examine {p w e} h := h.fewer (List.Sublist.refl _) (examineCalled p e w).grows.clock
  discard {p w e} h := h.fewer (List.Sublist.refl _) (e.closeCalled w).grows.clock
  countWait {p w a} h := by
    obtain ⟨_, pool⟩ := p.countWaitPool a
    rw [pool]
    exact ⟨h.order, h.past⟩

theorem Rounds.kept {Rest : Pool → World σ → Prop} {Held : Entry → Pool → World σ → Prop}
    (law : Search username password Rest Held) (begun : Rest p w)
    (h : Rounds username password p w bad q after) : Rest q after := by
  induction h with
  | none => exact begun
  | more _ found failed _ ih =>
    have examined := law.examine (law.found begun found)
    rw [failed] at examined
    exact ih (law.discard examined)

structure Selects (p : Pool) (w : World σ) (c : Except Error (Option Entry)) (q : Pool)
    (after : World σ) : Prop where
  reuses : ∀ e rest, p.idle = e :: rest → c = .ok (some e) ∧ q = { p with idle := rest } ∧ after = w
  opens : w.connections.length < after.connections.length ∨ (∃ x, c = .error x) →
    p.idle = [] ∧ p.active.length < p.config.maxActive.toNat
  takesOver : ∀ f ∈ p.active, f ∉ q.active →
    p.idle = [] ∧ p.active.length = p.config.maxActive.toNat ∧
    (∀ g ∈ p.active, g.checkoutTime w.clock ≤ f.checkoutTime w.clock) ∧
    p.config.maxCheckout.nanos < f.checkoutTime w.clock ∧
    ∃ e, c = .ok (some e) ∧ e.connection = f.connection
  waits : c = .ok none → p.Exhausted w.clock

variable {c : Except Error (Option Entry)}

theorem Sought.reuses (h : Sought username password p w c q after) {e : Entry} {rest : List Entry}
    (idle : p.idle = e :: rest) : c = .ok (some e) ∧ q = { p with idle := rest } ∧ after = w := by
  cases h with
  | reused same =>
    cases idle.symm.trans same
    exact ⟨rfl, rfl, rfl⟩
  | opened none => cases idle.symm.trans none
  | unopened none => cases idle.symm.trans none
  | takenOver saturated => cases idle.symm.trans saturated.1
  | nothing saturated => cases idle.symm.trans saturated.1

theorem Sought.opens (h : Sought username password p w c q after)
    (tried : w.connections.length < after.connections.length ∨ ∃ x, c = .error x) :
    p.idle = [] ∧ p.active.length < p.config.maxActive.toNat := by
  have untried {found : Option Entry} (calls : w.Called after) (ended : c = .ok found) : False := by
    rcases tried with grown | ⟨x, failed⟩
    · exact absurd calls.same (Nat.ne_of_gt grown)
    · cases ended.symm.trans failed
  cases h with
  | reused => exact (untried w.calledRefl rfl).elim
  | opened idle room => exact ⟨idle, room⟩
  | unopened idle room => exact ⟨idle, room⟩
  | @takenOver oldest _ _ _ _ _ _ _ taken =>
    have calls := oldest.callsRollback w
    cases taken
    exact (untried calls rfl).elim
  | nothing => exact (untried w.calledRefl rfl).elim

theorem Sought.takesOver (h : Sought username password p w c q after) (ordered : p.InOrder w.clock)
    {f : Entry} (member : f ∈ p.active) (gone : f ∉ q.active) :
    p.Saturated ∧ (∀ g ∈ p.active, g.checkoutTime w.clock ≤ f.checkoutTime w.clock) ∧
      p.config.maxCheckout.nanos < f.checkoutTime w.clock ∧
      ∃ e, c = .ok (some e) ∧ e.connection = f.connection := by
  cases h with
  | reused => exact absurd member gone
  | opened _ _ opened =>
    obtain ⟨_, _, rfl, _⟩ := openEntryOk opened
    exact absurd member gone
  | unopened _ _ failed =>
    obtain ⟨rfl, _⟩ := openEntryError failed
    exact absurd member gone
  | @takenOver oldest rest _ _ _ saturated active overdue taken =>
    cases taken
    have first : f = oldest := by
      rw [active] at member
      exact (List.mem_cons.mp member).resolve_right gone
    subst first
    exact ⟨saturated, fun g there => ordered.longest active there _, overdue, _, rfl, rfl⟩
  | nothing => exact absurd member gone

theorem candidateSelects (ordered : p.InOrder w.clock)
    (fits : p.idle.length + p.active.length ≤ p.config.maxActive.toNat)
    (found : p.candidate username password w = (c, q, after)) : p.Selects w c q after := by
  have sought := candidateSought found
  refine ⟨fun e rest => sought.reuses, sought.opens, fun f member gone => ?_, ?_⟩
  · obtain ⟨⟨idle, full⟩, rest⟩ := sought.takesOver ordered member gone
    rw [idle, List.length_nil, Nat.zero_add] at fits
    exact ⟨idle, Nat.le_antisymm fits full, rest⟩
  · rintro rfl
    cases sought with
    | nothing saturated young => exact ordered.exhausted saturated fits young

theorem Rounds.opened (h : Rounds username password p w bad q after) {n : Nat}
    (new : w.connections.length ≤ n) (there : n < after.connections.length) :
    ∃ met r v c s u, Rounds username password p w met r v ∧ met.length < bad.length ∧
      r.shutDown = false ∧ r.candidate username password v = (c, s, u) ∧
      v.connections.length ≤ n ∧ n < u.connections.length := by
  induction h with
  | none => exact absurd there (Nat.not_lt.mpr new)
  | @more p w e q now after bad r later going found failed rest ih =>
    by_cases here : n < now.connections.length
    · exact ⟨[], p, w, _, q, now, .none, Nat.succ_pos _, going, found, new, here⟩
    · have examined := examineCalled q e now
      rw [failed] at examined
      have same : (e.close after).connections.length = now.connections.length :=
        (e.closeCalled after).same.trans examined.same
      obtain ⟨met, r', v, c, s, u, before, few, rest⟩ := ih (same ▸ Nat.not_lt.mp here) there
      exact ⟨e :: met, r', v, c, s, u, .more going found failed before, Nat.succ_lt_succ few, rest⟩

theorem Last.opened {a : Attempt} {o : Outcome} (h : Last a p w o q after) {n : Nat}
    (new : w.connections.length ≤ n) (there : n < after.connections.length) :
    p.shutDown = false ∧ ∃ c s u, p.candidate a.username a.password w = (c, s, u) ∧
      n < u.connections.length := by
  have old : ¬n < w.connections.length := Nat.not_lt.mpr new
  cases h with
  | closed => exact absurd there old
  | unopened going idle room failed =>
    exact ⟨going, _, _, _, by rw [candidateOpens idle room, failed], there⟩
  | late => exact absurd there old
  | waits => exact absurd there old
  | @granted e r now later going found good =>
    have examined := examineCalled r e now
    rw [good] at examined
    exact ⟨going, _, r, now, found, examined.same ▸ there⟩

theorem pursueOpened {a : Attempt} {o : Outcome} {patience n : Nat}
    (h : p.pursue patience a w = (o, q, after)) (new : w.connections.length ≤ n)
    (there : n < after.connections.length) :
    ∃ met r v c s u, Rounds a.username a.password p w met r v ∧ met.length ≤ patience ∧
      r.shutDown = false ∧ r.candidate a.username a.password v = (c, s, u) ∧
      v.connections.length ≤ n ∧ n < u.connections.length := by
  obtain ⟨bad, r, v, rounds, ends⟩ := pursueEnds h
  have few : bad.length ≤ patience + 1 :=
    ends.elim (fun ends => Nat.le_of_eq ends.1) fun ends => Nat.le_succ_of_le ends.1
  by_cases before : n < v.connections.length
  · obtain ⟨met, r, v, c, s, u, rounds, fewer, rest⟩ := rounds.opened new before
    exact ⟨met, r, v, c, s, u, rounds, Nat.le_of_lt_succ (Nat.lt_of_lt_of_le fewer few), rest⟩
  · rcases ends with ⟨_, _, _, rfl⟩ | ⟨few, last⟩
    · exact absurd there before
    · obtain ⟨going, c, s, u, found, there⟩ := last.opened (Nat.not_lt.mp before) there
      exact ⟨bad, r, v, c, s, u, rounds, few, going, found, Nat.not_lt.mp before, there⟩

end Pool

namespace Traffic

variable {σ : Type} [Conditions σ]

def Moment.returned? (m : Moment σ) : Option Nat :=
  match m.event with
  | .giveBack number =>
    m.state.handles[number]?.bind fun h =>
      if h.valid m.state.pool ∧ h.entry.connection ∈ m.next.pool.idle.map Entry.connection then
        some h.entry.connection
      else none
  | _ => none

def returns (history : List (Moment σ)) : List Nat := history.filterMap Moment.returned?

structure Moment.Looks (m : Moment σ) (x : Pursuit) (p : Pool) (w : World σ) : Prop where
  going : p.shutDown = false
  rounds : ∃ bad, Pool.Rounds x.attempt.username x.attempt.password x.pool m.state.world bad p w ∧
    bad.length ≤ x.pool.config.badLimit - x.attempt.bad

namespace State

variable {s : State σ} {e : Event σ} {x : Pursuit} {history : List (Moment σ)} {source : Source}
  {config : Config} {world : World σ} {p : Pool} {w : World σ}

theorem quietActive (possible : s.Possible e) (quiet : s.pursuit? e = none) :
    (s.step e).pool.active.Sublist s.pool.active := by
  have course := s.course e possible
  generalize s.step e = t at course
  cases course with
  | pursued x found => rw [found] at quiet; cases quiet
  | called => exact List.Sublist.refl _
  | @returned number h there =>
    dsimp only [Handle.giveBack]
    split
    · exact List.Sublist.refl _
    · dsimp only
      rw [(s.pool.releaseAccount h.entry s.world).2.1]
      exact List.eraseP_sublist
  | emptied change =>
    rw [show (s.onPool (Pool.reconfigure change)).pool.active = [] from
      (s.pool.reconfigureEmpties change s.world).2.1]
    exact List.nil_sublist _
  | tolerated => exact List.Sublist.refl _
  | outside => exact List.Sublist.refl _

theorem orderedStep (kept : s.Kept history) (ordered : s.pool.InOrder s.world.clock)
    (possible : s.Possible e) : (s.step e).pool.InOrder (s.step e).world.clock := by
  cases found : s.pursuit? e with
  | some x =>
    exact pursuitKeeps (Pool.inOrder _ _) found (fun _ => ⟨ordered.order, ordered.past⟩)
      fun held => held.checkOut _ _
  | none => exact ordered.fewer (quietActive possible found) (stepGrows kept possible).clock

theorem ordered (run : Run (.start source config world) history s) :
    s.pool.InOrder s.world.clock := by
  induction run with
  | none => exact ⟨List.Pairwise.nil, fun _ member => nomatch member⟩
  | more before e possible ih => exact orderedStep (kept before) ih possible

theorem notReturned (kept : s.Kept history) (same : (s.step e).pool.idle = s.pool.idle) :
    (Moment.mk s e).returned? = none := by
  unfold Moment.returned?
  split
  · rename_i number _
    refine Option.bind_eq_none_iff.mpr fun h found => if_neg ?_
    rintro ⟨good, again⟩
    have idle : h.entry.connection ∈ s.pool.idle.map Entry.connection := same ▸ again
    have active := (kept.handleValid (List.mem_of_getElem? found)).mp good
    have unique := kept.ledger.connections
    rw [List.map_append] at unique
    exact (List.nodup_append.mp unique).2.2 _ idle _ (List.mem_map_of_mem active) rfl
  · rfl

theorem returnedKept {number : Nat} {h : Handle} (found : s.handles[number]? = some h)
    (good : h.valid s.pool = true) {next : Entry}
    (idle : (s.step (.giveBack number)).pool.idle = s.pool.idle ++ [next])
    (again : next.connection = h.entry.connection) :
    (Moment.mk s (.giveBack number)).returned? = some h.entry.connection := by
  have there : h.entry.connection ∈
      (Moment.mk s (.giveBack number)).next.pool.idle.map Entry.connection := by
    rw [Moment.next, idle, ← again]
    exact List.mem_map_of_mem (List.mem_append_right _ List.mem_cons_self)
  simp only [Moment.returned?, found, Option.bind_some]
  exact if_pos ⟨good, there⟩

theorem returnsStep (run : Run (.start source config world) history s) (possible : s.Possible e)
    (before : s.pool.idle.map Entry.connection <:+ returns history) :
    (s.step e).pool.idle.map Entry.connection <:+
      returns history ++ (Moment.mk s e).returned?.toList := by
  have unchanged (same : (s.step e).pool.idle = s.pool.idle) :
      (s.step e).pool.idle.map Entry.connection <:+
        returns history ++ (Moment.mk s e).returned?.toList := by
    rw [notReturned (kept run) same, same, Option.toList_none, List.append_nil]
    exact before
  have course := s.course e possible
  generalize next : s.step e = t at course unchanged ⊢
  cases course with
  | pursued x found =>
    obtain ⟨_, _, kept, _, r, took, _, idle, _⟩ := pursuitTook run found
    have begun : x.pool.idle = s.pool.idle := by
      obtain ⟨time, pool⟩ := pursuitPool found
      rw [pool]
    have taken := took.idle
    rw [← idle, next, begun] at taken
    have none : (Moment.mk s e).returned? = none := by
      cases e <;> first | rfl | cases found
    rw [none, Option.toList_none, List.append_nil]
    exact (List.IsSuffix.map _ ⟨kept, taken.symm⟩).trans before
  | called => exact unchanged rfl
  | @returned number h found =>
    cases released : h.released with
    | true =>
      refine unchanged ?_
      dsimp only [Handle.giveBack]
      rw [if_pos released]
    | false =>
      have pool : (h.giveBack s.pool s.world).2.1 = (s.pool.release h.entry s.world).1 := by
        dsimp only [Handle.giveBack]
        rw [released, if_neg Bool.false_ne_true]
      dsimp only at unchanged ⊢
      rw [pool] at unchanged ⊢
      rcases s.pool.releaseIdle h.entry s.world with same | ⟨⟨serial, idle⟩, good, _⟩
      · exact unchanged same
      · have good : h.valid s.pool = true := by rw [Handle.valid, released, good]; rfl
        have kept : (s.step (.giveBack number)).pool.idle =
            s.pool.idle ++ [h.entry.rewrap serial (s.pool.release h.entry s.world).2.clock] := by
          rw [next]
          exact (congrArg Pool.idle pool).trans idle
        obtain ⟨gone, all⟩ := before
        rw [returnedKept found good kept rfl, idle, List.map_append]
        exact ⟨gone, by rw [← all, List.append_assoc]; rfl⟩
  | emptied change =>
    rw [show (s.onPool (Pool.reconfigure change)).pool.idle = [] from
      (s.pool.reconfigureEmpties change s.world).1]
    exact List.nil_suffix
  | tolerated => exact unchanged rfl
  | outside => exact unchanged rfl

theorem returnsKept (run : Run (.start source config world) history s) :
    s.pool.idle.map Entry.connection <:+ returns history := by
  induction run with
  | none => exact List.nil_suffix
  | @more history s before e possible ih =>
    rw [returns, List.filterMap_append]
    exact returnsStep before possible ih

theorem looksPool (run : Run (.start source config world) history s) (found : s.pursuit? e = some x)
    (looks : (Moment.mk s e).Looks x p w) :
    p.config = s.pool.config ∧ p.idle <:+ s.pool.idle ∧ p.InOrder w.clock ∧
      p.idle.length + p.active.length ≤ p.config.maxActive.toNat := by
  obtain ⟨bad, rounds, _⟩ := looks.rounds
  have fits := pursuitFits run found
  obtain ⟨kept, held, took⟩ := rounds.took fits
  obtain ⟨time, pool⟩ := pursuitPool found
  have sorted := ordered run
  have begun : x.pool.InOrder s.world.clock := pool ▸ ⟨sorted.order, sorted.past⟩
  have fewer := Nat.le_trans took.fewer fits
  have config := took.config
  have idle := took.idle
  rw [← config] at fewer
  rw [pool] at config idle
  exact ⟨config, ⟨kept, idle.symm⟩, rounds.kept (Pool.inOrder _ _) begun, fewer⟩

theorem quietCalled (inside : e.Inside) (quiet : s.pursuit? e = none) :
    s.world.Called (s.step e).world := by
  have course := s.course e (insidePossible inside)
  generalize s.step e = t at course
  cases course with
  | pursued x found => rw [quiet] at found; cases found
  | called _ _ _ calls => exact calls
  | @returned number h =>
    dsimp only [Handle.giveBack]
    split
    · exact World.calledRefl _
    · exact s.pool.releaseCalled h.entry s.world
  | emptied change => exact s.pool.reconfigureCalled change s.world
  | tolerated => exact World.calledRefl _
  | outside => exact inside.elim

theorem opensPursuing {n : Nat} (opens : (Moment.mk s e).Opens n) : ∃ x, s.pursuit? e = some x := by
  obtain ⟨inside, new, there⟩ := opens
  cases found : s.pursuit? e with
  | some x => exact ⟨x, rfl⟩
  | none =>
    rw [Moment.next, (quietCalled inside found).same] at there
    exact absurd there (Nat.not_lt.mpr new)

theorem opensLooking (found : s.pursuit? e = some x) {n : Nat} (opens : (Moment.mk s e).Opens n) :
    ∃ p w c q after, (Moment.mk s e).Looks x p w ∧
      p.candidate x.attempt.username x.attempt.password w = (c, q, after) ∧
      w.connections.length ≤ n ∧ n < after.connections.length := by
  obtain ⟨_, new, there⟩ := opens
  cases result : x.pool.resume x.attempt s.world with
  | mk o rest =>
    obtain ⟨q, later⟩ := rest
    have world : (Moment.mk s e).next.world = later := by
      rw [Moment.next, stepPursuit found, result]
      exact (settlePool _ _ _).2
    rw [world] at there
    obtain ⟨met, p, w, c, q, after, rounds, few, going, rest⟩ := Pool.pursueOpened result new there
    exact ⟨p, w, c, q, after, ⟨going, met, rounds, few⟩, rest⟩

end State

theorem oldestFirst {source : Source} {config : Config} {world : World σ}
    {history : List (Moment σ)} {s : State σ} (run : Run (.start source config world) history s) :
    s.pool.active.Pairwise (·.checkoutAt ≤ ·.checkoutAt) ∧
    s.pool.idle.map Entry.connection <:+ returns history ∧
    (∀ e x p w, s.pursuit? e = some x → (Moment.mk s e).Looks x p w →
      p.config = s.pool.config ∧ p.idle <:+ s.pool.idle ∧
      ∀ c q after, p.candidate x.attempt.username x.attempt.password w = (c, q, after) →
        p.Selects w c q after) ∧
    (∀ e n, (Moment.mk s e).Opens n → ∃ x p w, s.pursuit? e = some x ∧ (Moment.mk s e).Looks x p w ∧
      (∃ c q after, p.candidate x.attempt.username x.attempt.password w = (c, q, after) ∧
        w.connections.length ≤ n ∧ n < after.connections.length) ∧
      p.idle = [] ∧ p.active.length < s.pool.config.maxActive.toNat) ∧
    ∀ e x y, s.pursuit? e = some x → y ∈ (s.step e).waiters → y.number = x.number →
      y.since = s.world.clock ∧ s.pool.Exhausted y.since := by
  have selects {e x p w} (found : s.pursuit? e = some x) (looks : (Moment.mk s e).Looks x p w) {c q after}
      (candidate : p.candidate x.attempt.username x.attempt.password w = (c, q, after)) :
      p.Selects w c q after := by
    obtain ⟨_, _, sorted, fits⟩ := State.looksPool run found looks
    exact Pool.candidateSelects sorted fits candidate
  refine ⟨(State.ordered run).order, State.returnsKept run, fun e x p w found looks => ?_,
    fun e n opens => ?_, fun e x y found member same => ?_⟩
  · obtain ⟨config, idle, _⟩ := State.looksPool run found looks
    exact ⟨config, idle, fun c q after candidate => selects found looks candidate⟩
  · obtain ⟨x, found⟩ := State.opensPursuing opens
    obtain ⟨p, w, c, q, after, looks, candidate, new, there⟩ := State.opensLooking found opens
    obtain ⟨config, _⟩ := State.looksPool run found looks
    have grown : w.connections.length < after.connections.length := Nat.lt_of_le_of_lt new there
    obtain ⟨idle, room⟩ := (selects found looks candidate).opens (.inl grown)
    exact ⟨x, p, w, found, looks, ⟨c, q, after, candidate, new, there⟩, idle, config ▸ room⟩
  · rcases State.pursuitWaiters found member with old | ⟨_, _, result⟩
    · exact absurd same (State.enterWithout run found old)
    · have fits := State.pursuitFits run found
      have waits := Pool.pursueWaits result fits
      obtain ⟨time, pool⟩ := State.pursuitPool found
      have saturated := waits.saturated
      have young := waits.young
      rw [pool] at saturated young fits
      exact ⟨waits.since, (State.ordered run).exhausted saturated fits (waits.since ▸ young)⟩

def State.paired : State Scenario.Plan :=
  .start State.small.pool.source
    { Config.new 2 2 with maxCheckoutMillis := 100, waitMillis := 0 } State.small.world

def crossing : List (Event Scenario.Plan) :=
  [.acquireDefault, .acquireDefault, .giveBack 1, .giveBack 0]

theorem oldestFirstCrossing :
    let s := State.paired.after crossing
    returns (State.paired.history crossing) = [1, 0] ∧ s.pool.idle.map Entry.connection <:+ [1, 0] ∧
      ∃ x e, s.pursuit? .acquireDefault = some x ∧ e.connection = 1 ∧
        (x.pool.candidate x.attempt.username x.attempt.password s.world).1 = .ok (some e) := by
  intro s
  have run : Run State.paired _ s := State.paired.run (by simp [State.Possible, crossing])
  have returned : returns (State.paired.history crossing) = [1, 0] := by decide +kernel
  have facts : s.pool.shutDown = false ∧ (s.pool.idle.map Entry.connection).head? = some 1 := by
    decide +kernel
  obtain ⟨going, head⟩ := facts
  obtain ⟨x, found, pool⟩ : ∃ x, s.pursuit? .acquireDefault = some x ∧ x.pool = s.pool := ⟨_, rfl, rfl⟩
  rw [← pool] at going head
  obtain ⟨_, kept, law, _⟩ := oldestFirst run
  obtain ⟨e, rest, idle⟩ : ∃ e rest, x.pool.idle = e :: rest :=
    List.exists_cons_of_ne_nil fun none => by rw [none] at head; cases head
  rw [idle] at head
  obtain ⟨_, _, selects⟩ := law _ x _ _ found ⟨going, [], .none, Nat.zero_le _⟩
  exact ⟨returned, returned ▸ kept, x, e, found, Option.some.inj head,
    ((selects _ _ _ rfl).reuses e rest idle).1⟩

end Traffic
end ConnectionPool
