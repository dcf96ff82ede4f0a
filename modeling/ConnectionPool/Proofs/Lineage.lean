import ConnectionPool.Proofs.Fitness
import ConnectionPool.Proofs.Retries

/-! The entries of one connection. When a connection changes hands, the next entry takes over from the last
one what the connection is known by and since when there is it, and how long it was out of use. So all of
its entries go back to one opening, and no opening is that of two connections. -/
namespace ConnectionPool

namespace Pool

variable {σ : Type} [Conditions σ] {username password : Option String} {p q r : Pool}
  {w v u now later : World σ} {a : Attempt} {e : Entry} {bad more : List Entry} {patience : Nat}

theorem Rounds.goesOn (h : Rounds username password p w bad q v)
    (longer : Rounds username password p w more r u) (fewer : bad.length ≤ more.length) :
    ∃ rest, Rounds username password q v rest r u := by
  induction h generalizing more with
  | none => exact ⟨more, longer⟩
  | more going found failed _ ih =>
    cases longer with
    | none => cases fewer
    | more _ again failing rest =>
      cases found.symm.trans again
      cases failed.symm.trans failing
      exact ih rest (Nat.le_of_succ_le_succ fewer)

theorem Tries.rounds (h : Tries username password patience p w e q now) :
    ∃ bad r v, Rounds username password p w bad r v ∧ bad.length ≤ patience ∧ r.shutDown = false ∧
      r.candidate username password v = (.ok (some e), q, now) := by
  induction h with
  | first going found => exact ⟨[], _, _, .none, Nat.zero_le _, going, found⟩
  | next going found failed _ ih =>
    obtain ⟨bad, r, v, rounds, few, rest⟩ := ih
    exact ⟨_ :: bad, r, v, .more going found failed rounds, Nat.succ_le_succ few, rest⟩

theorem openEntryNew (h : p.openEntry username password w = (.ok e, q, later)) :
    ∃ made, p.source.openAs username password w = (.ok e.connection, made) ∧
      e = .new p.serials made.identities e.connection made.clock ∧
      later = { made with identities := made.identities + 1 } := by
  unfold openEntry at h
  split at h
  · cases h
  · rename_i made opening
    cases h
    exact ⟨made, opening, rfl, rfl⟩

theorem candidateNew {c : Nat} (idle : p.idle = []) (room : p.active.length < p.config.maxActive.toNat)
    (opened : p.source.openAs username password w = (.ok c, now)) :
    p.candidate username password w =
      (.ok (some (.new p.serials now.identities c now.clock)), { p with serials := p.serials + 1 },
        { now with identities := now.identities + 1 }) := by
  rw [candidateOpens idle room, openEntry, opened]
  rfl

theorem Sought.entry {o : Except Error (Option Entry)} (h : Sought username password p w o q later)
    (found : o = .ok (some e)) :
    e ∈ p.idle ∨
    (p.idle = [] ∧ p.active.length < p.config.maxActive.toNat ∧
      p.openEntry username password w = (.ok e, q, later)) ∨
    ∃ f ∈ p.active, ∃ serial, e = f.rewrap serial later.clock := by
  cases h with
  | reused idle =>
    cases found
    exact .inl (idle ▸ List.mem_cons_self)
  | opened idle room opened =>
    cases found
    exact .inr (.inl ⟨idle, room, opened⟩)
  | unopened => cases found
  | takenOver _ active _ taken =>
    cases found
    cases taken
    exact .inr (.inr ⟨_, active ▸ List.mem_cons_self, _, rfl⟩)
  | nothing => cases found

end Pool

namespace Traffic

variable {σ : Type} [Conditions σ]

structure Moment.Creates (m : Moment σ) (x : Pursuit) (p : Pool) (w : World σ) (c : Nat)
    (made : World σ) : Prop where
  found : m.state.pursuit? m.event = some x
  looks : m.Looks x p w
  idle : p.idle = []
  room : p.active.length < p.config.maxActive.toNat
  opened : p.source.openAs x.attempt.username x.attempt.password w = (.ok c, made)

def Moment.Created (m : Moment σ) (c identity time : Nat) : Prop :=
  ∃ x p w made, m.Creates x p w c made ∧ identity = made.identities ∧ time = made.clock

def Moment.Meets (m : Moment σ) (f : Entry) (now : World σ) : Prop :=
  ∃ x r, m.state.pursuit? m.event = some x ∧
    Pool.Tries x.attempt.username x.attempt.password (x.pool.config.badLimit - x.attempt.bad) x.pool
      m.state.world f r now

def State.entries (s : State σ) : List Entry :=
  s.pool.idle ++ s.pool.active ++ s.handles.map Handle.entry

inductive Seen (history : List (Moment σ)) (s : State σ) (f : Entry) : World σ → Prop where
  | now (member : f ∈ s.entries) : Seen history s f s.world
  | before {m} (earlier : m ∈ history) (member : f ∈ m.state.entries) : Seen history s f m.state.world
  | met {m now} (earlier : m ∈ history) (meets : m.Meets f now) : Seen history s f now

structure Dates (history : List (Moment σ)) (f : Entry) (now : Nat) : Prop where
  born : ∃ m ∈ history, m.Created f.connection f.identity f.createdAt
  used : f.createdAt ≤ f.lastUsedAt
  out : f.lastUsedAt ≤ f.checkoutAt
  past : f.checkoutAt ≤ now

namespace Dates

variable {history : List (Moment σ)} {f : Entry} {now time : Nat}

theorem later (h : Dates history f now) (m : Moment σ) (since : now ≤ time) :
    Dates (history ++ [m]) f time where
  born := by
    obtain ⟨n, earlier, created⟩ := h.born
    exact ⟨n, List.mem_append_left _ earlier, created⟩
  used := h.used
  out := h.out
  past := Nat.le_trans h.past since

theorem rewrap (h : Dates history f now) (serial : Nat) (since : now ≤ time) :
    Dates history (f.rewrap serial time) time :=
  ⟨h.born, h.used, Nat.le_trans h.out (Nat.le_trans h.past since), Nat.le_refl _⟩

theorem checkOut (h : Dates history f now) (code : UInt64) (since : now ≤ time) :
    Dates history (f.checkOut code time) time :=
  ⟨h.born, Nat.le_trans (Nat.le_trans h.used h.out) (Nat.le_trans h.past since), Nat.le_refl _,
    Nat.le_refl _⟩

end Dates

namespace Moment.Creates

variable {m : Moment σ} {x y : Pursuit} {p q : Pool} {w v made done : World σ} {c d : Nat}

theorem connection (h : m.Creates x p w c made) :
    c = w.connections.length ∧ made.connections.length = c + 1 ∧ w.Grows made := by
  rcases Source.openAsEnds h.opened with ⟨same, opening⟩ | ⟨⟨_, failed⟩, _⟩
  · cases same
    exact ⟨rfl, opening.count, opening.grows⟩
  · cases failed

theorem candidate (h : m.Creates x p w c made) :
    p.candidate x.attempt.username x.attempt.password w =
      (.ok (some (.new p.serials made.identities c made.clock)), { p with serials := p.serials + 1 },
        { made with identities := made.identities + 1 }) :=
  Pool.candidateNew h.idle h.room h.opened

theorem within (h : m.Creates x p w c made) : m.state.world.Grows made ∧
    ({ made with identities := made.identities + 1 } : World σ).Grows m.next.world := by
  obtain ⟨bad, rounds, few⟩ := h.looks.rounds
  refine ⟨rounds.grows.trans h.connection.2.2, ?_⟩
  rcases result : x.pool.resume x.attempt m.state.world with ⟨o, q, later⟩
  have next : m.next.world = later := by
    rw [next, State.stepPursuit h.found, result]
    exact (State.settlePool _ _ _).2
  have goes := rounds.pursue few rfl rfl
  rw [← Pool.resume, result] at goes
  rw [next]
  exact Pool.pursueAfter h.looks.going h.candidate goes.symm rfl rfl

theorem next (h : m.Creates x p w c made) (g : m.Creates x q v d done) {more : List Entry}
    (rounds : Pool.Rounds x.attempt.username x.attempt.password p w more q v) :
    c = d ∧ made = done ∨ c < d ∧ made.identities < done.identities := by
  cases rounds with
  | none =>
    cases h.opened.symm.trans g.opened
    exact .inl ⟨rfl, rfl⟩
  | @more _ _ e r now after _ _ _ _ found failed rest =>
    cases h.candidate.symm.trans found
    have examined := (Pool.examineCalled { p with serials := p.serials + 1 }
      (.new p.serials made.identities c made.clock)
      { made with identities := made.identities + 1 }).grows
    rw [failed] at examined
    have grows := examined.trans ((Entry.closeCalled _ after).grows.trans rest.grows)
    have count : made.connections.length ≤ v.connections.length := grows.count
    have drawn : made.identities + 1 ≤ v.identities := grows.identities
    obtain ⟨_, one, _⟩ := h.connection
    obtain ⟨other, _, growth⟩ := g.connection
    have identities := growth.identities
    exact .inr ⟨by omega, by omega⟩

theorem apart (h : m.Creates x p w c made) (g : m.Creates y q v d done) :
    c = d ∧ made = done ∨ c < d ∧ made.identities < done.identities ∨
      d < c ∧ done.identities < made.identities := by
  cases h.found.symm.trans g.found
  obtain ⟨bad, rounds, _⟩ := h.looks.rounds
  obtain ⟨more, others, _⟩ := g.looks.rounds
  rcases Nat.le_total bad.length more.length with fewer | fewer
  · obtain ⟨_, rest⟩ := rounds.goesOn others fewer
    exact (h.next g rest).imp_right .inl
  · obtain ⟨_, rest⟩ := others.goesOn rounds fewer
    rcases g.next h rest with ⟨same, world⟩ | other
    · exact .inl ⟨same.symm, world.symm⟩
    · exact .inr (.inr other)

end Moment.Creates

namespace State

variable {s : State σ} {e : Event σ} {x : Pursuit} {f : Entry} {now : World σ}
  {history : List (Moment σ)} {source : Source} {config : Config} {world : World σ}

theorem createdSince {m : Moment σ} {c identity time : Nat} (created : m.Created c identity time) :
    m.state.world.connections.length ≤ c ∧ c < m.next.world.connections.length ∧
      m.state.world.identities ≤ identity ∧ identity < m.next.world.identities := by
  obtain ⟨x, p, w, made, creates, rfl, rfl⟩ := created
  obtain ⟨bad, rounds, _⟩ := creates.looks.rounds
  obtain ⟨same, one, _⟩ := creates.connection
  obtain ⟨before, after⟩ := creates.within
  have since := rounds.grows.count
  have there : made.connections.length ≤ m.next.world.connections.length := after.count
  exact ⟨by omega, by omega, before.identities, after.identities⟩

theorem createdPast (run : Run (.start source config world) history s) {m : Moment σ}
    (member : m ∈ history) {c identity time : Nat} (created : m.Created c identity time) :
    c < s.world.connections.length ∧ identity < s.world.identities := by
  induction run with
  | none => cases member
  | @more history s before e possible ih =>
    rcases List.mem_append.mp member with earlier | latest
    · obtain ⟨known, drawn⟩ := ih earlier
      have growth := stepGrows (kept before) possible
      exact ⟨Nat.lt_of_lt_of_le known growth.count, Nat.lt_of_lt_of_le drawn growth.identities⟩
    · cases List.mem_singleton.mp latest
      obtain ⟨_, known, _, drawn⟩ := createdSince created
      exact ⟨known, drawn⟩

theorem createdOnce (run : Run (.start source config world) history s) {m n : Moment σ}
    (first : m ∈ history) (last : n ∈ history) {c d identity other time moment : Nat}
    (created : m.Created c identity time) (creates : n.Created d other moment) :
    c = d ∧ identity = other ∧ time = moment ∨ c < d ∧ identity < other ∨ d < c ∧ other < identity := by
  induction run with
  | none => cases first
  | @more history s before e possible ih =>
    rcases List.mem_append.mp first with old | new
    · rcases List.mem_append.mp last with older | newer
      · exact ih old older
      · cases List.mem_singleton.mp newer
        obtain ⟨known, drawn⟩ := createdPast before old created
        obtain ⟨since, _, free, _⟩ := createdSince creates
        exact .inr (.inl ⟨Nat.lt_of_lt_of_le known since, Nat.lt_of_lt_of_le drawn free⟩)
    · cases List.mem_singleton.mp new
      rcases List.mem_append.mp last with older | newer
      · obtain ⟨known, drawn⟩ := createdPast before older creates
        obtain ⟨since, _, free, _⟩ := createdSince created
        exact .inr (.inr ⟨Nat.lt_of_lt_of_le known since, Nat.lt_of_lt_of_le drawn free⟩)
      · cases List.mem_singleton.mp newer
        obtain ⟨_, _, _, _, creates, rfl, rfl⟩ := creates
        obtain ⟨_, _, _, _, created, rfl, rfl⟩ := created
        refine (created.apart creates).imp_left fun same => ?_
        exact ⟨same.1, congrArg World.identities same.2, congrArg World.clock same.2⟩

theorem metEntry (meets : (Moment.mk s e).Meets f now) : s.world.Grows now ∧
    (f ∈ s.pool.idle ∨ (∃ g ∈ s.pool.active, ∃ serial, f = g.rewrap serial now.clock) ∨
      ∃ serial, f = .new serial f.identity f.connection now.clock ∧
        (Moment.mk s e).Created f.connection f.identity now.clock) := by
  obtain ⟨x, r, found, tries⟩ := meets
  obtain ⟨bad, p, w, rounds, few, going, candidate⟩ := tries.rounds
  have sought := Pool.candidateSought candidate
  have begun : Pool.Left s.world s.pool x.pool s.world := by
    obtain ⟨time, pool⟩ := pursuitPool found
    rw [pool]
    exact ⟨Nat.le_refl _, fun _ => id, fun _ => id⟩
  have left := rounds.kept (Pool.drawing s.world s.pool x.attempt.username x.attempt.password) begun
  refine ⟨rounds.grows.trans sought.grows, ?_⟩
  rcases sought.entry rfl with idle | ⟨idle, room, opening⟩ | ⟨g, active, again⟩
  · exact .inl (left.idle f idle)
  · obtain ⟨made, opened, fresh, later⟩ := Pool.openEntryNew opening
    have identity : f.identity = made.identities := congrArg Entry.identity fresh
    have clock : now.clock = made.clock := by rw [later]
    have creates : (Moment.mk s e).Creates x p w f.connection made :=
      ⟨found, ⟨going, bad, rounds, few⟩, idle, room, opened⟩
    rw [clock, identity]
    exact .inr (.inr ⟨p.serials, fresh, x, p, w, made, creates, rfl, rfl⟩)
  · exact .inr (.inl ⟨g, left.active g active, again⟩)

theorem metDates (meets : (Moment.mk s e).Meets f now)
    (dated : ∀ g ∈ s.entries, Dates history g s.world.clock) :
    Dates (history ++ [⟨s, e⟩]) f now.clock := by
  have pooled {g : Entry} (member : g ∈ s.pool.idle ++ s.pool.active) :=
    dated g (List.mem_append_left _ member)
  obtain ⟨growth, idle | ⟨g, active, serial, rfl⟩ | ⟨serial, fresh, created⟩⟩ := metEntry meets
  · exact (pooled (List.mem_append_left _ idle)).later _ growth.clock
  · exact ((pooled (List.mem_append_right _ active)).later _ (Nat.le_refl _)).rewrap serial growth.clock
  · rw [fresh]
    exact ⟨⟨_, List.mem_append_right _ List.mem_cons_self, created⟩, Nat.le_refl _, Nat.le_refl _,
      Nat.le_refl _⟩

theorem grantedMet (granted : (Moment.mk s e).granted? = some (x, f)) :
    ∃ g now code, (Moment.mk s e).Meets g now ∧ now.Grows (s.step e).world ∧
      f = g.checkOut code (s.step e).world.clock := by
  obtain ⟨found, q, later, result⟩ := grantedResume granted
  obtain ⟨g, r, now, tries, good, checkedOut⟩ := Pool.grantedTried result
  have examined := (Pool.examineCalled r g now).grows
  have next : (s.step e).world = later := by
    rw [stepPursuit found, result]
    rfl
  rw [good] at examined
  rw [next]
  exact ⟨g, now, _, ⟨x, r, found, tries⟩, examined, (congrArg Prod.fst checkedOut).symm⟩

theorem handlesStep (possible : s.Possible e) {h : Handle} (member : h ∈ (s.step e).handles) :
    (∃ g ∈ s.handles, g.entry = h.entry) ∨ ∃ x, (Moment.mk s e).granted? = some (x, h.entry) := by
  have course := s.course e possible
  generalize next : s.step e = t at course member
  cases course with
  | pursued x found =>
    have entered : (s.enter e).handles = s.handles := by cases e <;> rfl
    cases result : x.pool.resume x.attempt s.world with
    | mk o r =>
      rw [result] at member
      cases o with
      | granted k =>
        rcases List.mem_append.mp member with old | new
        · exact .inl ⟨h, entered ▸ old, rfl⟩
        · cases List.mem_singleton.mp new
          exact .inr ⟨x, grantedIff.mpr ⟨found, congrArg Prod.fst result⟩⟩
      | failed => exact .inl ⟨h, entered ▸ member, rfl⟩
      | waiting => exact .inl ⟨h, entered ▸ member, rfl⟩
  | called => exact .inl ⟨h, member, rfl⟩
  | returned found =>
    rcases List.mem_or_eq_of_mem_set member with old | rfl
    · exact .inl ⟨h, old, rfl⟩
    · exact .inl ⟨_, List.mem_of_getElem? found, (Handle.giveBackFades _ _ _).1.symm⟩
  | emptied => exact .inl ⟨h, member, rfl⟩
  | tolerated => exact .inl ⟨h, member, rfl⟩
  | outside => exact .inl ⟨h, member, rfl⟩

theorem pooledStep (kept : s.Kept history) (possible : s.Possible e)
    (member : f ∈ (s.step e).pool.idle ++ (s.step e).pool.active) :
    f ∈ s.pool.idle ++ s.pool.active ∨ (∃ x, (Moment.mk s e).granted? = some (x, f)) ∨
      ∃ g ∈ s.pool.active, ∃ serial, f = g.rewrap serial (s.step e).world.clock := by
  have course := s.course e possible
  generalize next : s.step e = t at course member ⊢
  cases course with
  | pursued x found =>
    rw [← next] at member
    obtain ⟨idle, active⟩ := pursuitLeft found
    rcases List.mem_append.mp member with kept | checkedOut
    · exact .inl (List.mem_append_left _ (idle f kept))
    · rcases active f checkedOut with old | ⟨granted, _⟩
      · exact .inl (List.mem_append_right _ old)
      · exact .inr (.inl ⟨x, granted⟩)
  | called => exact .inl member
  | @returned number h found =>
    dsimp only [Handle.giveBack] at member ⊢
    split at member
    · exact .inl member
    · rename_i out
      obtain ⟨_, active, _⟩ := s.pool.releaseAccount h.entry s.world
      rcases List.mem_append.mp member with idle | checkedOut
      · rcases Pool.releasedIdle idle with old | ⟨⟨serial, again⟩, good, _⟩
        · exact .inl (List.mem_append_left _ old)
        · rw [if_neg out]
          exact .inr (.inr ⟨h.entry, returning kept found good, serial, again⟩)
      · exact .inl (List.mem_append_right _ (List.mem_of_mem_eraseP (active ▸ checkedOut)))
  | emptied change =>
    obtain ⟨idle, active, _⟩ := s.pool.reconfigureEmpties change s.world
    have member : f ∈ (s.pool.reconfigure change s.world).1.idle ++
        (s.pool.reconfigure change s.world).1.active := member
    rw [idle, active] at member
    cases member
  | tolerated => exact .inl member
  | outside => exact .inl member

theorem datesStep (kept : s.Kept history) (possible : s.Possible e)
    (dated : ∀ g ∈ s.entries, Dates history g s.world.clock) :
    ∀ g ∈ (s.step e).entries, Dates (history ++ [⟨s, e⟩]) g (s.step e).world.clock := by
  have growth := stepGrows kept possible
  have old {g : Entry} (member : g ∈ s.entries) := (dated g member).later ⟨s, e⟩ growth.clock
  have granted {x : Pursuit} {k : Entry} (now : (Moment.mk s e).granted? = some (x, k)) :
      Dates (history ++ [⟨s, e⟩]) k (s.step e).world.clock := by
    obtain ⟨g, met, code, meets, growth, rfl⟩ := grantedMet now
    exact (metDates meets dated).checkOut code growth.clock
  intro g member
  rcases List.mem_append.mp member with pooled | held
  · rcases pooledStep kept possible pooled with there | ⟨x, now⟩ | ⟨k, active, serial, rfl⟩
    · exact old (List.mem_append_left _ there)
    · exact granted now
    · have before := dated k (List.mem_append_left _ (List.mem_append_right _ active))
      exact (before.later _ (Nat.le_refl _)).rewrap serial growth.clock
  · obtain ⟨h, issued, rfl⟩ := List.mem_map.mp held
    rcases handlesStep possible issued with ⟨k, there, same⟩ | ⟨x, now⟩
    · exact old (List.mem_append_right _ (same ▸ List.mem_map_of_mem there))
    · exact granted now

theorem entriesDated (run : Run (.start source config world) history s) :
    ∀ f ∈ s.entries, Dates history f s.world.clock := by
  induction run with
  | none => exact fun _ member => nomatch member
  | more before e possible ih => exact datesStep (kept before) possible ih

theorem seenDates (run : Run (.start source config world) history s) (seen : Seen history s f now) :
    Dates history f now.clock := by
  cases seen with
  | now member => exact entriesDated run f member
  | before earlier member =>
    induction run with
    | none => cases earlier
    | @more history s before e possible ih =>
      rcases List.mem_append.mp earlier with older | latest
      · exact (ih older).later _ (Nat.le_refl _)
      · cases List.mem_singleton.mp latest
        exact (entriesDated before f member).later _ (Nat.le_refl _)
  | met earlier meets =>
    induction run with
    | none => cases earlier
    | @more history s before e possible ih =>
      rcases List.mem_append.mp earlier with older | latest
      · exact (ih older).later _ (Nat.le_refl _)
      · cases List.mem_singleton.mp latest
        exact metDates meets (entriesDated before)

theorem issuedNow (run : Run (.start source config world) history s) :
    ∀ h ∈ s.handles, h.entry.lastUsedAt = h.entry.checkoutAt := by
  induction run with
  | none => exact fun _ member => nomatch member
  | more before e possible ih =>
    intro h member
    rcases handlesStep possible member with ⟨g, there, same⟩ | ⟨x, granted⟩
    · exact same ▸ ih g there
    · obtain ⟨g, now, code, _, _, same⟩ := grantedMet granted
      rw [same]
      rfl

end State

theorem historyKept {source : Source} {config : Config} {world : World σ}
    {history : List (Moment σ)} {s : State σ} (run : Run (.start source config world) history s) :
    (∀ f now, Seen history s f now →
      (∃ m ∈ history, m.Created f.connection f.identity f.createdAt) ∧
      (∀ m ∈ history, ∀ identity time, m.Created f.connection identity time →
        identity = f.identity ∧ time = f.createdAt) ∧
      f.createdAt ≤ f.lastUsedAt ∧ f.lastUsedAt ≤ f.checkoutAt ∧ f.checkoutAt ≤ now.clock) ∧
    (∀ f g now then', Seen history s f now → Seen history s g then' →
      (f.connection = g.connection → f.identity = g.identity ∧ f.createdAt = g.createdAt) ∧
      (f.connection ≠ g.connection → f.identity ≠ g.identity)) ∧
    (∀ h ∈ s.handles, h.entry.lastUsedAt = h.entry.checkoutAt) ∧
    ∀ f ∈ s.pool.idle, lastCheckout? history f.connection = some f.lastUsedAt := by
  refine ⟨fun f now seen => ?_, fun f g now other seen seen' => ?_, State.issuedNow run,
    fun f idle => State.dated run f (List.mem_append_left _ idle)⟩
  · obtain ⟨⟨m, member, born⟩, used, out, past⟩ := State.seenDates run seen
    refine ⟨⟨m, member, born⟩, fun n there identity time created => ?_, used, out, past⟩
    rcases State.createdOnce run there member created born with ⟨_, same⟩ | ⟨less, _⟩ | ⟨less, _⟩
    · exact same
    · exact absurd less (Nat.lt_irrefl _)
    · exact absurd less (Nat.lt_irrefl _)
  · obtain ⟨m, member, born⟩ := (State.seenDates run seen).born
    obtain ⟨n, there, created⟩ := (State.seenDates run seen').born
    rcases State.createdOnce run member there born created with ⟨one, same⟩ | ⟨less, drawn⟩ | ⟨less, drawn⟩
    · exact ⟨fun _ => same, fun different => absurd one different⟩
    · exact ⟨fun one => absurd one (Nat.ne_of_lt less), fun _ => Nat.ne_of_lt drawn⟩
    · exact ⟨fun one => absurd one (Nat.ne_of_gt less), fun _ => Nat.ne_of_gt drawn⟩

theorem historyKeptAdopted : ∃ h ∈ adopted.handles, ∃ f ∈ adopted.pool.idle,
    f.serial ≠ h.entry.serial ∧ f.identity = h.entry.identity ∧ f.createdAt = h.entry.createdAt ∧
      h.entry.checkoutAt < f.lastUsedAt ∧ f.lastUsedAt ≤ adopted.world.clock := by
  obtain ⟨h, issued, f, idle, same, other, later⟩ : ∃ h ∈ adopted.handles, ∃ f ∈ adopted.pool.idle,
      f.connection = h.entry.connection ∧ f.serial ≠ h.entry.serial ∧
        h.entry.checkoutAt < f.lastUsedAt := by
    decide +kernel
  have first : f ∈ adopted.entries := List.mem_append_left _ (List.mem_append_left _ idle)
  have last : h.entry ∈ adopted.entries := List.mem_append_right _ (List.mem_map_of_mem issued)
  obtain ⟨dates, lineage, _⟩ := historyKept adoptedRun
  obtain ⟨identity, created⟩ := (lineage f h.entry _ _ (.now first) (.now last)).1 same
  obtain ⟨_, _, _, out, past⟩ := dates f _ (.now first)
  exact ⟨h, issued, f, idle, other, identity, created, later, Nat.le_trans out past⟩

end Traffic
end ConnectionPool
