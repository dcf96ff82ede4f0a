import ConnectionPool.Proofs.Labels

/-! The sessions of connections. A connection gets the session of its source when it is opened, and the
pool never changes it afterwards: neither when it is given back nor when it is taken over or handed out
again. Its holders may, and what they have set is there for whoever has the connection next. -/
namespace ConnectionPool

variable {σ : Type}

def Source.Fits (s : Source) (session : Session) : Prop :=
  session.autoCommit = s.autoCommit ∧
    ∀ level, s.isolation = some level → session.isolation = some level

namespace World

variable {a b : World σ} {c d : Nat}

def SameSession (c : Nat) (w later : World σ) : Prop :=
  ∀ k, w.connection? c = some k → ∃ l, later.connection? c = some l ∧ l.session = k.session

theorem SameSession.session (h : a.SameSession c b) (known : c < a.connections.length) :
    b.session c = a.session c := by
  obtain ⟨k, found⟩ := opened.mp known
  obtain ⟨l, later, same⟩ := h k found
  simp only [World.session, found, later, same]

theorem connectionUpdate (w : World σ) (d c : Nat) (f : Connection → Connection) :
    (w.update d f).connection? c = if d = c then (w.connection? c).map f else w.connection? c := by
  simp only [connection?, update, List.getElem?_modify]
  split <;> simp

theorem sameUpdate {f : Connection → Connection} (kept : d = c → ∀ k, (f k).session = k.session)
    (w : World σ) : w.SameSession c (w.update d f) := by
  intro k found
  rw [connectionUpdate, found]
  split
  · rename_i same
    exact ⟨f k, rfl, kept same k⟩
  · exact ⟨k, rfl, rfl⟩

theorem sameTune (other : d ≠ c) (f : Session → Session) (w : World σ) :
    w.SameSession c (w.tune d f) :=
  sameUpdate (fun same => absurd same other) w

theorem sessionTune {w : World σ} (known : c < w.connections.length) (f : Session → Session) :
    (w.tune c f).session c = f (w.session c) := by
  obtain ⟨k, found⟩ := opened.mp known
  have later : (w.tune c f).connection? c = some { k with session := f k.session } := by
    rw [tune, connectionUpdate, if_pos rfl, found]
    rfl
  simp only [session, later, found]

variable [Conditions σ]

theorem sessionLaw (c : Nat) : World.ClosingLaw (SameSession (σ := σ) c) where
  refl _ k found := ⟨k, found, rfl⟩
  trans first last k found := by
    obtain ⟨l, found, same⟩ := first k found
    obtain ⟨m, found, more⟩ := last l found
    exact ⟨m, found, more.trans same⟩
  perform call w k found := by
    refine ⟨k, ?_, rfl⟩
    rw [connection?, (Database.performConnections call w).1]
    exact found
  lapse _ k found := ⟨k, found, rfl⟩
  closing d w := by
    have kept (k : Connection) : { k with closed := true }.session = k.session := rfl
    exact sameUpdate (fun _ => kept) w

end World

section Tuning

variable [Conditions σ] {w later : World σ} {c d : Nat}

theorem Database.autoCommitOk {value : Bool} (h : autoCommit c w = (.ok value, later)) :
    value = (later.session c).autoCommit := by
  obtain ⟨_, between, _, read⟩ := Action.bindSucceeds h
  cases read
  rfl

theorem Database.isolationOk {level : Option Isolation} (h : isolation c w = (.ok level, later)) :
    level = (later.session c).isolation := by
  obtain ⟨_, between, _, read⟩ := Action.bindSucceeds h
  cases read
  rfl

theorem Database.tuneEnds {call : Call} {f : Session → Session} {r : Except Error Unit}
    (known : c < w.connections.length)
    (h : (perform call >>= fun _ => change (World.tune c f)) w = (r, later)) :
    later.session c = if r.isOk then f (w.session c) else w.session c := by
  have calls := callsPerform call w
  cases performed : perform call w with
  | mk outcome made =>
    rw [performed] at calls
    have kept := (((World.sessionLaw c).perform call).of performed).session known
    cases outcome with
    | error e => rw [Action.bindError performed] at h; cases h; exact kept
    | ok u =>
      rw [Action.bindOk performed] at h
      cases h
      rw [← kept]
      exact World.sessionTune (calls.same ▸ known) f

theorem Database.setAutoCommitEnds {value : Bool} {r : Except Error Unit}
    (known : c < w.connections.length) (h : setAutoCommit c value w = (r, later)) :
    later.session c = if r.isOk then { w.session c with autoCommit := value } else w.session c :=
  tuneEnds (f := fun s => { s with autoCommit := value }) known h

theorem Database.setIsolationEnds {level : Isolation} {r : Except Error Unit}
    (known : c < w.connections.length) (h : setIsolation c level w = (r, later)) :
    later.session c = if r.isOk then { w.session c with isolation := some level } else w.session c :=
  tuneEnds (f := fun s => { s with isolation := some level }) known h

end Tuning

namespace Source

variable [Conditions σ] {s : Source} {w later : World σ} {c : Nat}

theorem isolationSettled {level : Isolation} (known : c < w.connections.length)
    (h : (Database.isolation c >>= fun found =>
      if (found != some level) = true then Database.setIsolation c level else pure ()) w =
        (.ok (), later)) : later.session c = { w.session c with isolation := some level } := by
  obtain ⟨found, asked, asking, h⟩ := Action.bindSucceeds h
  have calls := (World.calledLaw.isolation c).of asking
  rw [← ((World.sessionLaw c).isolation c |>.of asking).session known]
  split at h
  · exact Database.setIsolationEnds (calls.same ▸ known) h
  · rename_i settled
    cases h
    rw [Database.isolationOk asking] at settled
    simp only [bne_iff_ne, ne_eq, not_not] at settled
    rw [← settled]

theorem autoCommitSettled {m : Action σ Unit} (known : c < w.connections.length)
    (h : (Database.autoCommit c >>= fun auto => if (auto != s.autoCommit) = true then
      Database.setAutoCommit c s.autoCommit >>= fun _ => m else m) w = (.ok (), later)) :
    ∃ between, w.Called between ∧ (between.session c).autoCommit = s.autoCommit ∧
      m between = (.ok (), later) := by
  obtain ⟨auto, asked, asking, h⟩ := Action.bindSucceeds h
  have calls := (World.calledLaw.autoCommit c).of asking
  split at h
  · obtain ⟨_, tuned, tuning, h⟩ := Action.bindSucceeds h
    have more := (World.calledLaw.setAutoCommit (World.calledTune c _)).of tuning
    have session := Database.setAutoCommitEnds (calls.same ▸ known) tuning
    exact ⟨tuned, calls.trans more, congrArg (·.autoCommit) session, h⟩
  · rename_i settled
    rw [Database.autoCommitOk asking] at settled
    simp only [bne_iff_ne, ne_eq, not_not] at settled
    exact ⟨asked, calls, settled, h⟩

theorem configureOk (known : c < w.connections.length) (h : s.configure c w = (.ok (), later)) :
    s.Fits (later.session c) := by
  unfold configure at h
  cases level : s.isolation with
  | none =>
    simp only [level] at h
    obtain ⟨between, _, auto, h⟩ := autoCommitSettled known h
    cases h
    exact ⟨auto, fun _ some => nomatch level.symm.trans some⟩
  | some isolation =>
    simp only [level] at h
    obtain ⟨between, calls, auto, h⟩ := autoCommitSettled known h
    have session := isolationSettled (calls.same ▸ known) h
    rw [session]
    refine ⟨auto, fun other wanted => ?_⟩
    rw [← wanted, level]

theorem connectKeeps (driver : Driver) (url : String) (properties : Properties) (c : Nat) :
    (Database.connect driver url properties : Action σ Nat).Keeps (World.SameSession c) := by
  have law := (World.sessionLaw (σ := σ) c).toLaw
  refine law.bind (law.perform _) fun _ => law.bind (law.see _) fun _ =>
    law.bind (fun w k found => ⟨k, ?_, rfl⟩) fun _ => law.pure _
  exact (List.getElem?_append_left (World.opened.mpr ⟨k, found⟩)).trans found

theorem openAsKeeps (s : Source) (username password : Option String) (known : c < w.connections.length) :
    w.SameSession c (s.openAs username password w).2 := by
  have law := World.sessionLaw (σ := σ) c
  have connecting := connectKeeps (σ := σ) s.driver s.url (s.propertiesFor username password) c
  cases connected : Database.connect s.driver s.url (s.propertiesFor username password) w with
  | mk r made =>
    have kept := connecting.of connected
    cases r with
    | error e => rw [openAs, Action.bindError connected]; exact kept
    | ok d =>
      obtain ⟨rfl, _⟩ := Database.connectOk connected
      have other : w.connections.length ≠ c := Nat.ne_of_gt known
      have configured := law.configure s (World.sameTune (σ := σ) other)
      rw [openAs, Action.bindOk connected]
      refine law.trans kept (law.bind configured.attempt (fun r => ?_) made)
      cases r with
      | ok u => exact law.pure _
      | error e => exact law.bind (law.close _).attempt fun _ => law.refl

theorem openAsFits {username password : Option String}
    (h : s.openAs username password w = (.ok c, later)) : s.Fits (later.session c) := by
  obtain ⟨d, made, connecting, h⟩ := Action.bindSucceeds h
  obtain ⟨r, settled, configuring, h⟩ := Action.bindSucceeds h
  obtain ⟨rfl, opened⟩ := Database.connectOk connecting
  cases r with
  | ok u =>
    cases h
    have known : w.connections.length < made.connections.length := by
      rw [opened.count]
      exact Nat.lt_succ_self _
    exact configureOk known (Action.attemptEnds configuring)
  | error e =>
    obtain ⟨_, _, _, h⟩ := Action.bindSucceeds h
    cases h

end Source

namespace Pool

variable [Conditions σ] {first w later : World σ} {source : Source} {p q : Pool} {e : Entry} {c : Nat}
  {username password : Option String} {r : Except Error Entry}

theorem openEntryKeeps (known : c < w.connections.length)
    (h : p.openEntry username password w = (r, q, later)) : w.SameSession c later := by
  have kept := p.source.openAsKeeps username password known
  unfold openEntry at h
  split at h
  · rename_i opening
    rw [opening] at kept
    cases h
    exact kept
  · rename_i opening
    rw [opening] at kept
    cases h
    exact kept

theorem openEntryFits (h : p.openEntry username password w = (.ok e, q, later)) :
    p.source.Fits (later.session e.connection) := by
  unfold openEntry at h
  split at h
  · cases h
  · rename_i opening
    have fits := Source.openAsFits opening
    cases h
    exact fits

structure Tuned (first : World σ) (source : Source) (p : Pool) (w : World σ) : Prop where
  source : p.source = source
  count : first.connections.length ≤ w.connections.length
  kept : ∀ c, c < first.connections.length → first.SameSession c w
  old : ∀ f ∈ p.idle ++ p.active, f.connection < first.connections.length

def Fresh (first : World σ) (source : Source) (e : Entry) (w : World σ) : Prop :=
  first.connections.length ≤ e.connection →
    e.connection < w.connections.length ∧ source.Fits (w.session e.connection)

omit [Conditions σ] in
theorem Tuned.carried (h : Tuned first source p w) (count : w.connections.length ≤ later.connections.length)
    (same : ∀ c, c < w.connections.length → w.SameSession c later) : Tuned first source p later where
  source := h.source
  count := Nat.le_trans h.count count
  kept c known k found := by
    obtain ⟨l, found, before⟩ := h.kept c known k found
    obtain ⟨m, found, after⟩ := same c (Nat.lt_of_lt_of_le known h.count) l found
    exact ⟨m, found, after.trans before⟩
  old := h.old

omit [Conditions σ] in
theorem Fresh.carried (h : Fresh first source e w) (count : w.connections.length ≤ later.connections.length)
    (same : w.SameSession e.connection later) : Fresh first source e later := by
  intro since
  obtain ⟨known, fits⟩ := h since
  exact ⟨Nat.lt_of_lt_of_le known count, by rw [same.session known]; exact fits⟩

theorem tuning (first : World σ) (source : Source) (username password : Option String) :
    Search username password (Tuned first source)
      (fun e p w => Tuned first source p w ∧ Fresh first source e w) where
  reuse h idle := by
    have old := h.old
    rw [idle] at old
    refine ⟨⟨h.source, h.count, h.kept, fun f member => old f (List.mem_cons_of_mem _ member)⟩, ?_⟩
    exact fun since => absurd (old _ List.mem_cons_self) (Nat.not_lt.mpr since)
  openOk h _ _ opened := by
    have fits := openEntryFits opened
    have kept := fun c known => openEntryKeeps (c := c) known opened
    rw [h.source] at fits
    obtain ⟨_, connection, rfl, opening⟩ := openEntryOk opened
    have later := h.carried opening.grows.count kept
    refine ⟨⟨later.source, later.count, later.kept, later.old⟩, fun _ => ⟨?_, fits⟩⟩
    rw [connection, opening.count]
    exact Nat.lt_succ_self _
  openError h _ _ failed := by
    have kept := fun c known => openEntryKeeps (c := c) known failed
    obtain ⟨rfl, calls | ⟨opening, _⟩⟩ := openEntryError failed
    · exact h.carried calls.grows.count kept
    · exact h.carried opening.grows.count kept
  takeOver {p _ w _ _ oldest rest} h _ active _ taken := by
    have old := h.old
    rw [active] at old
    have calls := oldest.callsRollback w
    have later := h.carried calls.grows.count fun c _ => (World.sessionLaw c).rollback oldest w
    cases taken
    have fewer : ∀ f ∈ p.idle ++ rest, f.connection < first.connections.length := by
      intro f member
      rcases List.mem_append.mp member with idle | active
      · exact old f (List.mem_append_left _ idle)
      · exact old f (List.mem_append_right _ (List.mem_cons_of_mem _ active))
    refine ⟨⟨later.source, later.count, later.kept, fewer⟩, fun since => ?_⟩
    exact absurd (old oldest (List.mem_append_right _ List.mem_cons_self)) (Nat.not_lt.mpr since)
  examine {p w e} h := by
    have count := (examineCalled p e w).grows.count
    exact ⟨h.1.carried count fun c _ => (World.sessionLaw c).examine p e w,
      h.2.carried count ((World.sessionLaw _).examine p e w)⟩
  discard {p w e} h := by
    have later := h.1.carried (e.closeCalled w).grows.count
      fun c _ => (World.sessionLaw c).closeEntry e w
    exact ⟨later.source, later.count, later.kept, later.old⟩
  countWait h := by
    unfold countWait
    split
    · exact h
    · exact ⟨h.source, h.count, h.kept, h.old⟩

end Pool

namespace World.ClosingLaw

variable [Conditions σ] {R : World σ → World σ → Prop} (law : World.ClosingLaw R)
include law

theorem giveBack (h : Handle) (p : Pool) (w : World σ) : R w (h.giveBack p w).2.2 := by
  unfold Handle.giveBack
  split
  · exact law.refl w
  · exact law.release p h.entry w

theorem set (setting : Pool.Setting) (p : Pool) (w : World σ) : R w (p.set setting w).2 := by
  unfold Pool.set
  split
  · exact law.refl w
  · exact law.reconfigure setting.apply p w

end World.ClosingLaw

namespace Traffic

variable [Conditions σ]

theorem Operation.ends {o : Operation} {c : Nat} {w later : World σ} {r : Except Error Unit}
    (known : c < w.connections.length) (h : o.on c w = (r, later)) :
    later.session c = if r.isOk then o.tune (w.session c) else w.session c := by
  have kept (still : ∀ s, o.tune s = s) :
      later.session c = if r.isOk then o.tune (w.session c) else w.session c := by
    have keeps : (o.on c : Action σ Unit).Keeps (World.SameSession c) :=
      o.keeps (World.sessionLaw c).toLaw fun w => World.sameUpdate (fun _ k => still k.session) w
    rw [still, ite_self]
    exact (keeps.of h).session known
  cases o with
  | setAutoCommit value => exact Database.setAutoCommitEnds known h
  | setIsolation level => exact Database.setIsolationEnds known h
  | _ => exact kept fun _ => rfl

structure Aspect (α : Type) where
  of : Session → α
  set? : Operation → Option α
  Agrees : Source → α → Prop
  tuned : ∀ (o : Operation) (s : Session), of (o.tune s) = (set? o).getD (of s)
  fits : ∀ {source : Source} {s : Session}, source.Fits s → Agrees source (of s)

namespace Aspect

def autoCommit : Aspect Bool where
  of := (·.autoCommit)
  set? | .setAutoCommit value => some value | _ => none
  Agrees source value := value = source.autoCommit
  tuned o _ := by cases o <;> rfl
  fits h := h.1

def isolation : Aspect (Option Isolation) where
  of := (·.isolation)
  set? | .setIsolation level => some (some level) | _ => none
  Agrees source value := ∀ level, source.isolation = some level → value = some level
  tuned o _ := by cases o <;> rfl
  fits h := h.2

variable {α : Type} [DecidableEq α] (A : Aspect α)

def setBy? (m : Moment σ) (c : Nat) : Option α :=
  match m.event with
  | .use number operation =>
    match m.state.handles[number]? with
    | some h =>
      if h.entry.connection = c ∧ (h.use m.state.pool operation.on m.state.world).1.isOk then
        A.set? operation
      else none
    | none => none
  | .outside change =>
    if c < m.state.world.connections.length ∧
        A.of ((change m.state.world).session c) ≠ A.of (m.state.world.session c) then
      some (A.of ((change m.state.world).session c))
    else none
  | _ => none

def Stands (history : List (Moment σ)) (source : Source) (c : Nat) (value : α) : Prop :=
  match latest? (A.setBy? · c) history with
  | some set => value = set
  | none => A.Agrees source value

end Aspect

namespace State

variable {s : State σ} {e : Event σ} {x : Pursuit} {c : Nat} {history : List (Moment σ)}

theorem pursuitTuned (kept : s.Kept history) (found : s.pursuit? e = some x) :
    (s.step e).pool.source = s.pool.source ∧
    (∀ c, c < s.world.connections.length → s.world.SameSession c (s.step e).world) ∧
    ∀ k, (Moment.mk s e).granted? = some (x, k) →
      s.world.connections.length ≤ k.connection →
        s.pool.source.Fits ((s.step e).world.session k.connection) := by
  obtain ⟨time, pool⟩ := pursuitPool found
  have begun : Pool.Tuned s.world s.pool.source x.pool s.world := by
    rw [pool]
    refine ⟨rfl, Nat.le_refl _, fun _ _ k found => ⟨k, found, rfl⟩, fun f member => ?_⟩
    exact kept.ledger.opened _ (List.mem_map_of_mem member)
  rw [stepPursuit found, (settlePool _ _ _).1, (settlePool _ _ _).2]
  cases result : x.pool.resume x.attempt s.world with
  | mk o r =>
    obtain ⟨q, later⟩ := r
    have ends := (Pool.tuning s.world s.pool.source x.attempt.username
      x.attempt.password).resume begun result
    have granted (k : Entry) (now : (Moment.mk s e).granted? = some (x, k)) : o = .granted k := by
      obtain ⟨_, _, _, same⟩ := grantedResume now
      rw [result] at same
      cases same
      rfl
    cases ends with
    | @granted f p w held =>
      refine ⟨held.1.source, held.1.kept, fun k now since => ?_⟩
      cases granted k now
      exact (held.2 since).2
    | failed rest =>
      refine ⟨rest.source, rest.kept, fun k now => ?_⟩
      cases granted k now
    | waiting b limit rest =>
      refine ⟨rest.source, rest.kept, fun k now => ?_⟩
      cases granted k now

theorem sourceStays (kept : s.Kept history) (possible : s.Possible e) :
    (s.step e).pool.source = s.pool.source ∨
      (s.step e).pool.idle = [] ∧ (s.step e).pool.active = [] := by
  have course := s.course e possible
  generalize next : s.step e = t at course
  cases course with
  | pursued x found => rw [← next]; exact .inl (pursuitTuned kept found).1
  | called => exact .inl rfl
  | @returned number h found =>
    dsimp only [Handle.giveBack]
    split
    · exact .inl rfl
    · exact .inl (s.pool.releaseTarget h.entry s.world).2.1
  | emptied change =>
    obtain ⟨idle, active, _⟩ := s.pool.reconfigureEmpties change s.world
    exact .inr ⟨idle, active⟩
  | tolerated => exact .inl rfl
  | outside => exact .inl rfl

variable {α : Type} [DecidableEq α] (A : Aspect α)

theorem pursuitSets (found : s.pursuit? e = some x) : A.setBy? ⟨s, e⟩ c = none := by
  cases e <;> first | rfl | cases found

theorem setKnown (kept : s.Kept history) {value : α} (set : A.setBy? ⟨s, e⟩ c = some value) :
    c < s.world.connections.length := by
  cases e with
  | use number operation =>
    dsimp only [Aspect.setBy?] at set
    split at set
    · rename_i h found
      split at set
      · rename_i holds
        obtain ⟨rfl, done⟩ := holds
        have valid : h.valid s.pool = true := by
          cases valid : h.valid s.pool with
          | true => rfl
          | false =>
            rw [h.useIf, valid, if_neg Bool.false_ne_true] at done
            cases done
        have active := (kept.handleValid (List.mem_of_getElem? found)).mp valid
        exact kept.ledger.opened _ (List.mem_map_of_mem (List.mem_append_right _ active))
      · cases set
    · cases set
  | outside change =>
    dsimp only [Aspect.setBy?] at set
    split at set
    · rename_i changed
      exact changed.1
    · cases set
  | _ => cases set

theorem lastSetKnown {source : Source} {config : Config} {world : World σ}
    (run : Run (.start source config world) history s) {value : α}
    (set : latest? (A.setBy? · c) history = some value) : c < s.world.connections.length := by
  induction run with
  | none => cases set
  | @more history s before e possible ih =>
    have growth := (stepGrows (kept before) possible).count
    rw [latestNext] at set
    cases now : A.setBy? ⟨s, e⟩ c with
    | some value => exact Nat.lt_of_lt_of_le (setKnown A (kept before) now) growth
    | none =>
      rw [now] at set
      exact Nat.lt_of_lt_of_le (ih set) growth

theorem useSession {number : Nat} {operation : Operation} (known : c < s.world.connections.length) :
    A.of ((s.step (.use number operation)).world.session c) =
      (A.setBy? ⟨s, .use number operation⟩ c).getD (A.of (s.world.session c)) := by
  simp only [step, Aspect.setBy?]
  cases found : s.handles[number]? with
  | none => rfl
  | some h =>
    dsimp only
    by_cases mine : h.entry.connection = c
    · cases used : h.use s.pool operation.on s.world with
      | mk r later =>
        rw [Action.effect, used]
        dsimp only
        rw [h.useIf] at used
        split at used
        · rw [mine] at used
          rw [Operation.ends known used]
          cases r with
          | ok u => simpa [mine, Except.isOk, Except.toBool] using A.tuned operation _
          | error e => simp [Except.isOk, Except.toBool]
        · cases used
          simp [Except.isOk, Except.toBool]
    · have keeps : (h.use s.pool operation.on : Action σ Unit).Keeps (World.SameSession c) :=
        (World.sessionLaw c).use h s.pool
          (operation.keeps (World.sessionLaw c).toLaw (World.sameTune mine operation.tune))
      rw [Action.effect, (keeps s.world).session known, if_neg fun both => mine both.1]
      rfl

theorem sessionStep (kept : s.Kept history) (possible : s.Possible e)
    (known : c < s.world.connections.length) :
    A.of ((s.step e).world.session c) = (A.setBy? ⟨s, e⟩ c).getD (A.of (s.world.session c)) := by
  have law := World.sessionLaw (σ := σ) c
  have unset {w : World σ} (same : s.world.SameSession c w) :
      A.of (w.session c) = A.of (s.world.session c) := congrArg A.of (same.session known)
  cases going : s.pursuit? e with
  | some x =>
    rw [pursuitSets A going]
    exact unset ((pursuitTuned kept going).2.1 c known)
  | none =>
    cases e with
    | acquire | acquireDefault => cases going
    | wake number =>
      have found : s.waiter? number = none := Option.map_eq_none_iff.mp going
      simp only [step, found]
      rfl
    | giveBack number =>
      cases found : s.handles[number]? with
      | none => simp only [step, found]; rfl
      | some h => simp only [step, found]; exact unset (law.giveBack h s.pool s.world)
    | validate number config =>
      cases found : s.handles[number]? with
      | none => simp only [step, found]; rfl
      | some h => simp only [step, found]; exact unset (law.validate h s.pool config s.world)
    | use number operation => exact useSession A known
    | ping number sql =>
      cases found : s.handles[number]? with
      | none => simp only [step, found]; rfl
      | some h => simp only [step, found]; exact unset (law.pingHandle h s.pool sql s.world)
    | set setting => exact unset (law.set setting s.pool s.world)
    | forceCloseAll => exact unset (law.reconfigure id s.pool s.world)
    | shutdown => exact unset (law.reconfigure (fun p => { p with shutDown := true }) s.pool s.world)
    | outside change =>
      change A.of ((change s.world).session c) = _
      dsimp only [Aspect.setBy?]
      split
      · rfl
      · rename_i same
        exact not_not.mp fun changed => same ⟨known, changed⟩

theorem sessionsStand {source : Source} {config : Config} {world : World σ}
    (run : Run (.start source config world) history s) :
    ∀ f ∈ s.pool.idle ++ s.pool.active,
      A.Stands history s.pool.source f.connection (A.of (s.world.session f.connection)) := by
  induction run with
  | none => exact fun _ member => nomatch member
  | @more history s before e possible ih =>
    intro f member
    have custody := kept before
    have source : (s.step e).pool.source = s.pool.source := by
      refine (sourceStays custody possible).resolve_right fun empty => ?_
      rw [empty.1, empty.2] at member
      cases member
    have carried (g : Entry) (old : g ∈ s.pool.idle ++ s.pool.active)
        (same : g.connection = f.connection) : A.Stands (history ++ [⟨s, e⟩]) (s.step e).pool.source
          f.connection (A.of ((s.step e).world.session f.connection)) := by
      have stands := ih g old
      have known := custody.ledger.opened _ (List.mem_map_of_mem old)
      rw [same] at stands known
      unfold Aspect.Stands
      rw [latestNext, sessionStep A custody possible known, source]
      cases A.setBy? ⟨s, e⟩ f.connection with
      | some value => rfl
      | none => exact stands
    rcases inUse custody possible member with ⟨g, old, connection, _⟩ | ⟨x, granted, drawn⟩
    · exact carried g old connection.symm
    · cases drawn with
      | reused idle same => exact carried _ (List.mem_append_left _ idle) same
      | takenOver active same => exact carried _ (List.mem_append_right _ active) same
      | opened since known =>
        -- nobody can have set anything on a connection that was not there
        have never : latest? (A.setBy? · f.connection) history = none := by
          cases set : latest? (A.setBy? · f.connection) history with
          | none => rfl
          | some value => exact absurd (lastSetKnown A before set) (Nat.not_lt.mpr since)
        have found := (grantedEntry granted).1
        unfold Aspect.Stands
        rw [latestNext, pursuitSets A found, never, source]
        exact A.fits ((pursuitTuned custody found).2.2 f granted since)

end State

/- Neither its return nor its being taken over undoes what a holder set on a connection. -/
theorem handedOutSession {source : Source} {config : Config} {world : World σ}
    {history : List (Moment σ)} {s : State σ} (run : Run (.start source config world) history s)
    {e : Event σ} {x : Pursuit} {k : Entry} (granted : (Moment.mk s e).granted? = some (x, k)) :
    ((s.step e).world.session k.connection).autoCommit =
      (latest? (Aspect.autoCommit.setBy? · k.connection) history).getD
        (s.step e).pool.source.autoCommit ∧
    match latest? (Aspect.isolation.setBy? · k.connection) history with
    | some level => ((s.step e).world.session k.connection).isolation = level
    | none => ∀ level, (s.step e).pool.source.isolation = some level →
      ((s.step e).world.session k.connection).isolation = some level := by
  obtain ⟨found, active, _⟩ := State.grantedEntry granted
  have after := run.more e (State.insidePossible (State.pursuitInside found))
  have used := List.mem_append_right (s.step e).pool.idle active
  have stands {α : Type} [DecidableEq α] (A : Aspect α) : A.Stands history (s.step e).pool.source
      k.connection (A.of ((s.step e).world.session k.connection)) := by
    have stands := State.sessionsStand A after k used
    unfold Aspect.Stands at stands
    rw [latestNext, State.pursuitSets A found] at stands
    exact stands
  have auto := stands Aspect.autoCommit
  have level := stands Aspect.isolation
  unfold Aspect.Stands at auto level
  constructor
  · split at auto
    · rename_i set; rw [set]; exact auto
    · rename_i never; rw [never]; exact auto
  · split at level
    · rename_i set; rw [set]; exact level
    · rename_i never; rw [never]; exact level

def retuned : List (Event Scenario.Plan) :=
  [.acquireDefault, .use 0 (.setAutoCommit false), .giveBack 0]

theorem retunedRun : Run State.small (State.small.history retuned) (State.small.after retuned) :=
  State.small.run (by simp [retuned, State.Possible])

theorem handedOutRetuned : ∃ r ∈ (Moment.mk (State.small.after retuned) .acquireDefault).granted?,
    (((State.small.after retuned).step .acquireDefault).world.session r.2.connection).autoCommit =
      false ∧
    ∀ level, ((State.small.after retuned).step .acquireDefault).pool.source.isolation = some level →
      (((State.small.after retuned).step .acquireDefault).world.session r.2.connection).isolation =
        some level := by
  obtain ⟨⟨x, k⟩, granted⟩ := Option.isSome_iff_exists.mp (by decide +kernel :
    (Moment.mk (State.small.after retuned) .acquireDefault).granted?.isSome)
  have set : ∀ r ∈ (Moment.mk (State.small.after retuned) .acquireDefault).granted?,
      latest? (Aspect.autoCommit.setBy? · r.2.connection) (State.small.history retuned) = some false ∧
      latest? (Aspect.isolation.setBy? · r.2.connection) (State.small.history retuned) = none := by
    decide +kernel
  obtain ⟨auto, never⟩ := set _ granted
  obtain ⟨same, level⟩ := handedOutSession retunedRun granted
  dsimp only at auto never
  rw [auto] at same
  rw [never] at level
  exact ⟨(x, k), granted, same, level⟩

theorem defaultsLost : Run State.small (State.small.history retuned) (State.small.after retuned) ∧
    ∃ r ∈ (Moment.mk (State.small.after retuned) .acquireDefault).granted?,
      ((State.small.after retuned).step .acquireDefault).pool.source.autoCommit = true ∧
      (((State.small.after retuned).step .acquireDefault).world.session r.2.connection).autoCommit =
        false :=
  ⟨retunedRun, by decide +kernel⟩

end Traffic
end ConnectionPool
