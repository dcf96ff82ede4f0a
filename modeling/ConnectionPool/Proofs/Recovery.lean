import ConnectionPool.Proofs.Rounds

/-! Recovery from dead connections. An acquire tries the idle connections before it opens one, and gives
up after so many bad ones. There are never more idle connections than it bears with, and each of them
that is discarded makes room for a new one. So if a new connection can be had, it is. -/
namespace ConnectionPool

theorem Config.bearsIdle (c : Config) : c.maxIdle.toNat ≤ c.badLimit :=
  Nat.le_min.mpr ⟨Nat.le_add_right _ _, Nat.le_sub_one_of_lt c.maxIdle.toNat_lt⟩

namespace Pool

variable {σ : Type} [Conditions σ]

def opensWell (username password : Option String) (p : Pool) (w : World σ) : Bool :=
  match p.openEntry username password w with
  | (.ok e, p, w) => (p.examine e w).1
  | (.error _, _, _) => false

variable {username password : Option String} {p q : Pool} {w later : World σ} {a : Attempt} {e : Entry}
  {rest bad : List Entry} {patience : Nat}

theorem wellFound (idle : p.idle = []) (room : p.active.length < p.config.maxActive.toNat)
    (well : p.opensWell username password w = true) : ∃ e q now after,
      p.candidate username password w = (.ok (some e), q, now) ∧ q.examine e now = (true, after) := by
  unfold opensWell at well
  rw [candidateOpens idle room]
  cases opened : p.openEntry username password w with
  | mk r found =>
    obtain ⟨q, now⟩ := found
    rw [opened] at well
    cases r with
    | error x => cases well
    | ok e => exact ⟨e, q, now, _, rfl, Prod.ext well rfl⟩

theorem Rounds.noneWell (h : Rounds username password p w bad q later) (idle : p.idle = [])
    (room : p.active.length < p.config.maxActive.toNat)
    (well : p.opensWell username password w = true) : q = p ∧ later = w := by
  obtain ⟨_, _, _, _, found, good⟩ := wellFound idle room well
  cases h with
  | none => exact ⟨rfl, rfl⟩
  | more _ other failed =>
    rw [found] at other
    cases other
    rw [good] at failed
    cases failed

theorem candidateReuses (idle : p.idle = e :: rest) :
    p.candidate username password w = (.ok (some e), { p with idle := rest }, w) := by
  unfold candidate
  rw [idle]

theorem pursueRecovers (going : p.shutDown = false)
    (fits : p.idle.length + p.active.length ≤ p.config.maxActive.toNat) (free : ¬p.Saturated)
    (enough : p.idle.length ≤ patience)
    (well : ∀ bad q v, Rounds a.username a.password p w bad q v → q.idle = [] →
      q.opensWell a.username a.password v = true) :
    ∃ k q later, p.pursue patience a w = (.granted k, q, later) := by
  -- what shrinks is the list of idle connections, from which each bad one is gone
  generalize idle : p.idle = l at enough
  induction l generalizing p w a patience with
  | nil =>
    have room : p.active.length < p.config.maxActive.toNat :=
      Nat.not_le.mp fun full => free ⟨idle, full⟩
    obtain ⟨e, q, now, after, found, good⟩ := wellFound idle room (well [] p w .none idle)
    exact ⟨_, _, _, pursueGood going found good⟩
  | cons e rest ih =>
    have found : p.candidate a.username a.password w = (.ok (some e), { p with idle := rest }, w) :=
      candidateReuses idle
    cases examined : ({ p with idle := rest } : Pool).examine e w with
    | mk good after =>
      cases good with
      | true => exact ⟨_, _, _, pursueGood going found examined⟩
      | false =>
        obtain ⟨n, rfl⟩ : ∃ n, patience = n + 1 := ⟨patience - 1, by simp at enough; omega⟩
        rw [idle, List.length_cons] at fits
        rw [pursueBad going found examined]
        have fewer : rest.length + p.active.length < p.config.maxActive.toNat := by omega
        refine ih (a := { a with bad := a.bad + 1 }) going (Nat.le_of_lt fewer) (fun full => ?_)
          (fun bad q v rounds => well _ q v (.more going found examined rounds)) rfl
          (Nat.le_of_succ_le_succ enough)
        exact absurd full.2 (Nat.not_le.mpr (Nat.lt_of_le_of_lt (Nat.le_add_left _ _) fewer))

end Pool

namespace Traffic

variable {σ : Type} [Conditions σ]

theorem idleNeverExhausts {source : Source} {config : Config} {world : World σ}
    {history : List (Moment σ)} {s : State σ} (run : Run (.start source config world) history s)
    (going : s.pool.shutDown = false)
    (free : s.pool.idle ≠ [] ∨ s.pool.active.length < s.pool.config.maxActive.toNat)
    {e : Event σ} {x : Pursuit} (found : s.pursuit? e = some x)
    (well : ∀ bad q v, Pool.Rounds x.attempt.username x.attempt.password x.pool s.world bad q v →
      q.idle = [] → q.opensWell x.attempt.username x.attempt.password v = true) :
    ∃ k, (Moment.mk s e).granted? = some (x, k) ∧
      (s.step e).pool.active = s.pool.active ++ [k] ∧
      (s.step e).pool.tally.overdueClaims = s.pool.tally.overdueClaims ∧
      (s.step e).pool.tally.waits = s.pool.tally.waits ∧
      (s.step e).waiters = (s.enter e).waiters ∧
      ∀ h ∈ s.handles, h.valid s.pool = true → h.valid (s.step e).pool = true := by
  obtain ⟨bounded, _⟩ := State.boundedRun run
  have unsaturated : ¬s.pool.Saturated := by
    rintro ⟨empty, full⟩
    exact free.elim (absurd empty) (Nat.not_lt.mpr full)
  obtain ⟨time, pool⟩ := State.pursuitPool found
  have enough : x.pool.idle.length ≤ x.pool.config.badLimit - x.attempt.bad := by
    rw [State.pursuitPatience run found, pool]
    exact Nat.le_trans bounded.idle s.pool.config.bearsIdle
  obtain ⟨k, q, later, result⟩ := Pool.pursueRecovers (pool ▸ going) (State.pursuitFits run found)
    (pool ▸ unsaturated) enough well
  obtain ⟨_, _, _, held, r, took, _, _, ends⟩ := State.pursuitTook run found
  rw [pool] at took
  have spared : held = [] := by
    by_contra some
    exact unsaturated (took.saturated some)
  subst spared
  have active : s.pool.active = r.active := took.active
  rcases ends with ⟨without, _⟩ | ⟨k, _, _, granted, checkedOut, tally⟩
  · exact absurd (State.grantedIff.mpr ⟨found, congrArg Prod.fst result⟩) (without k)
  · rw [← active] at checkedOut
    refine ⟨k, granted, checkedOut, ?_, ?_, ?_, fun h member good => ?_⟩
    · rw [tally, took.tally]
      rfl
    · rw [tally, took.tally]
    · rw [State.stepPursuit found, Pool.resume, result]
      rfl
    · have held := ((State.kept run).handleValid member).mp good
      exact State.pursuitHolder run found member (checkedOut ▸ List.mem_append_left _ held)

def brokenDown : List (Event Scenario.Plan) :=
  [.acquireDefault, .giveBack 0,
    .meanwhile 0 ⟨[(⟨some 0, .autoCommit⟩, ⟨.connection "lost", none⟩)], [], 0⟩]

theorem idleNeverExhaustsDead : let s := State.small.after brokenDown
    (∃ f, s.pool.idle = [f] ∧ f.connection = 0) ∧
      ∃ r ∈ (Moment.mk s .acquireDefault).granted?, r.2.connection = 1 ∧
        (s.step .acquireDefault).pool.active = s.pool.active ++ [r.2] := by
  intro s
  have run : Run State.small (State.small.history brokenDown) s :=
    State.small.run (List.forall_mem_cons.mpr ⟨fun _ => trivial, List.forall_mem_cons.mpr
      ⟨fun _ => trivial, List.forall_mem_cons.mpr ⟨fun t => t.meanwhilePossible _ _, by simp⟩⟩⟩)
  have facts : s.pool.idle.length = 1 ∧ (∀ f ∈ s.pool.idle, f.connection = 0 ∧
      let examined := ({ s.pool with idle := s.pool.idle.tail } : Pool).examine f s.world
      let left := ({ s.pool with idle := s.pool.idle.tail } : Pool).discard f examined.2
      examined.1 = false ∧ left.1.active.length < left.1.config.maxActive.toNat ∧
        left.1.countBad.opensWell s.pool.source.username s.pool.source.password left.2 = true) ∧
      s.pool.shutDown = false ∧
      ∀ r ∈ (Moment.mk s .acquireDefault).granted?, r.2.connection = 1 := by decide +kernel
  obtain ⟨one, dead, going, second⟩ := facts
  obtain ⟨f, idle⟩ := List.length_eq_one_iff.mp one
  rw [idle] at dead
  obtain ⟨first, failed, room, good⟩ := dead f List.mem_cons_self
  have law := idleNeverExhausts run going (.inl (by simp [idle])) (e := .acquireDefault) rfl
    fun bad q v rounds empty => by
      cases rounds with
      | none => rw [idle] at empty; cases empty
      | more _ found examined rest =>
        rw [Pool.candidateReuses idle] at found
        cases found
        cases congrArg Prod.snd examined
        obtain ⟨rfl, rfl⟩ := rest.noneWell rfl room good
        exact good
  obtain ⟨k, granted, active, _⟩ := law
  exact ⟨⟨f, idle, first⟩, _, granted, second _ granted, active⟩

end Traffic
end ConnectionPool
