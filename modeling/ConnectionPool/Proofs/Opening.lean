import ConnectionPool.Proofs.Answers
import ConnectionPool.Proofs.Fitness
import ConnectionPool.Proofs.Sessions

/-! What it takes to open a connection. The driver is asked once, for the configured target with the given
credentials over the configured properties. The new connection then gets the session of the source, and
only what differs is set. If that fails at any call, the connection is closed again, and the failure that
is reported is the first one. -/
namespace ConnectionPool

namespace Properties

theorem lookupCons (name k v : String) (entries : List (String × String)) :
    ((k, v) :: entries).lookup name = if name = k then some v else entries.lookup name := by
  rw [List.lookup_cons]
  by_cases same : name = k
  · simp [same]
  · rw [beq_eq_false_iff_ne.mpr same, if_neg same]

theorem lookupPut (k v name : String) (entries : List (String × String)) :
    (put k v entries).lookup name = if name = k then some v else entries.lookup name := by
  induction entries with
  | nil => exact lookupCons name k v []
  | cons head rest ih =>
    obtain ⟨a, b⟩ := head
    rw [put]
    by_cases less : k < a
    · rw [if_pos less]
      exact lookupCons ..
    · rw [if_neg less]
      by_cases more : a < k
      · rw [if_pos more, lookupCons, lookupCons, ih]
        by_cases first : name = a
        · have other : a ≠ k := fun same => String.lt_irrefl k (same ▸ more)
          rw [first, if_pos rfl, if_pos rfl, if_neg other]
        · rw [if_neg first, if_neg first]
      · have same : k = a := String.le_antisymm (String.not_lt.mp more) (String.not_lt.mp less)
        rw [if_neg more, same, lookupCons, lookupCons]
        split <;> rfl

theorem getInsertSome (p : Properties) (k : String) (v : Option String) (name : String) :
    (p.insertSome k v).get? name = if name = k then v.or (p.get? name) else p.get? name := by
  cases v with
  | none => simp [insertSome]
  | some v => exact lookupPut k v name p.entries

end Properties

namespace Source

theorem propertiesOverlaid (s : Source) (username password : Option String) (name : String) :
    (s.propertiesFor username password).get? name =
      if name = "password" then password.or (s.properties.get? name)
      else if name = "user" then username.or (s.properties.get? name) else s.properties.get? name := by
  rw [propertiesFor, Properties.getInsertSome, Properties.getInsertSome]
  split
  · rename_i same
    rw [if_neg (by rw [same]; decide)]
  · rfl

def flagSetup (s : Source) (c : Nat) (session : Session) : List Call :=
  .autoCommit c :: if session.autoCommit = s.autoCommit then [] else [.setAutoCommit c s.autoCommit]

def levelSetup (s : Source) (c : Nat) (session : Session) : List Call :=
  match s.isolation with
  | none => []
  | some level => .isolation c ::
      if session.isolation = some level then [] else [.setIsolation c level]

def setup (s : Source) (c : Nat) (session : Session) : List Call :=
  s.flagSetup c session ++ s.levelSetup c session

theorem setupTarget (s : Source) (c : Nat) (session : Session) :
    ∀ call ∈ s.setup c session, call.connection? = some c ∧ call.kind ≠ .close := by
  have flags : ∀ call ∈ s.flagSetup c session, call.connection? = some c ∧ call.kind ≠ .close := by
    unfold flagSetup
    split <;> simp [Call.connection?, Call.kind]
  have levels : ∀ call ∈ s.levelSetup c session, call.connection? = some c ∧ call.kind ≠ .close := by
    unfold levelSetup
    split
    · simp
    · split <;> simp [Call.connection?, Call.kind]
  exact List.forall_mem_append.mpr ⟨flags, levels⟩

theorem setupFlags (s : Source) (c : Nat) (session : Session) :
    (s.setup c session).filter (·.kind = .setAutoCommit) =
      if session.autoCommit = s.autoCommit then [] else [.setAutoCommit c s.autoCommit] := by
  have flags : (s.flagSetup c session).filter (·.kind = .setAutoCommit) =
      if session.autoCommit = s.autoCommit then [] else [.setAutoCommit c s.autoCommit] := by
    unfold flagSetup
    split <;> rfl
  have levels : (s.levelSetup c session).filter (·.kind = .setAutoCommit) = [] := by
    unfold levelSetup
    split
    · rfl
    · split <;> rfl
  rw [setup, List.filter_append, levels, List.append_nil, flags]

def missingLevels (s : Source) (session : Session) : List Isolation :=
  s.isolation.toList.filter fun level => session.isolation ≠ some level

theorem setupLevels (s : Source) (c : Nat) (session : Session) :
    (s.setup c session).filter (·.kind = .setIsolation) =
      (s.missingLevels session).map (.setIsolation c) := by
  have flags : (s.flagSetup c session).filter (·.kind = .setIsolation) = [] := by
    unfold flagSetup
    split <;> rfl
  rw [setup, List.filter_append, flags, List.nil_append, levelSetup, missingLevels]
  cases s.isolation with
  | none => rfl
  | some level =>
    by_cases settled : session.isolation = some level <;> simp [settled, Call.kind]

variable {σ : Type} [Conditions σ]

theorem levelFollows {w : World σ} {c : Nat} (level : Isolation) (known : c < w.connections.length) :
    (Database.isolation c >>= fun found =>
      if (found != some level) = true then Database.setIsolation c level else pure ()).Follows w
        (.isolation c :: if (w.session c).isolation = some level then [] else [.setIsolation c level]) := by
  have asks : (Database.isolation c).Follows w [.isolation c] := (Database.isolationIsCall c).follows w
  have reads {found : Option Isolation} {asked : World σ}
      (asking : Database.isolation c w = (.ok found, asked)) : found = (w.session c).isolation := by
    have same := ((World.sessionLaw c).isolation c).of asking
    rw [Database.isolationOk asking, same.session known]
  by_cases settled : (w.session c).isolation = some level
  · rw [if_pos settled]
    refine asks.bind fun found asked asking => ?_
    rw [reads asking, if_neg (by simp [settled])]
    exact .pure () asked
  · rw [if_neg settled]
    refine asks.bind fun found asked asking => ?_
    rw [reads asking, if_pos (bne_iff_ne.mpr settled)]
    exact (Database.setIsolationIsCall c level).follows asked

theorem flagFollows (s : Source) {w : World σ} {c : Nat} {m : Action σ Unit} {b : List Call}
    (known : c < w.connections.length)
    (rest : ∀ v : World σ, c < v.connections.length →
      (v.session c).isolation = (w.session c).isolation → m.Follows v b) :
    (Database.autoCommit c >>= fun auto => if (auto != s.autoCommit) = true then
      Database.setAutoCommit c s.autoCommit >>= fun _ => m else m).Follows w
        (s.flagSetup c (w.session c) ++ b) := by
  refine ((Database.autoCommitIsCall c).follows w).bind fun auto asked asking => ?_
  have same := (((World.sessionLaw c).autoCommit c).of asking).session known
  have known : c < asked.connections.length :=
    ((World.calledLaw.autoCommit c).of asking).same ▸ known
  rw [Database.autoCommitOk asking, same]
  by_cases settled : (w.session c).autoCommit = s.autoCommit
  · rw [if_neg (by simp [settled])]
    simp only [settled, if_true]
    exact rest asked known (by rw [same])
  · rw [if_pos (bne_iff_ne.mpr settled)]
    simp only [settled, if_false]
    refine ((Database.setAutoCommitIsCall c s.autoCommit).follows asked).bind fun _ tuned tuning => ?_
    have count := ((World.calledLaw.setAutoCommit (World.calledTune c _)).of tuning).same
    have session := Database.setAutoCommitEnds known tuning
    refine rest tuned (count ▸ known) ?_
    rw [session, same]
    rfl

theorem configureFollows (s : Source) {w : World σ} {c : Nat} (known : c < w.connections.length) :
    (s.configure c).Follows w (s.setup c (w.session c)) := by
  unfold configure setup levelSetup
  cases s.isolation with
  | none => exact flagFollows s known fun v _ _ => .pure () v
  | some level =>
    refine flagFollows s known fun v known same => ?_
    rw [← same]
    exact levelFollows level known

inductive Opening (s : Source) (username password : Option String) (c : Nat) (session : Session) :
    List Answered → Except Error Nat → Prop where
  | refused (e : Error) : Opening s username password c session
      [⟨s.call username password, some e⟩] (.error e)
  | settled {l : List Answered} (set : Answered.Follow (s.setup c session) l none) :
      Opening s username password c session (⟨s.call username password, none⟩ :: l) (.ok c)
  | abandoned {l : List Answered} {e : Error}
      (stopped : Answered.Follow (s.setup c session) l (some e)) (failure : Option Error) :
      Opening s username password c session
        (⟨s.call username password, none⟩ :: l ++ [⟨.close c, failure⟩]) (.error e)

theorem connectSession {driver : Driver} {url : String} {properties : Properties} {w later : World σ}
    {c : Nat} (h : Database.connect driver url properties w = (.ok c, later)) :
    later.session c = w.initial := by
  obtain ⟨_, made, performed, rest⟩ := Action.bindSucceeds h
  rw [← (World.untouchedLaw.perform _).of performed |>.initial]
  cases rest
  simp [World.session, World.connection?]

theorem openAsAnswers (s : Source) (username password : Option String) (w : World σ) :
    ∃ l, w.Answers l (s.openAs username password w).2 ∧
      s.Opening username password w.connections.length w.initial l (s.openAs username password w).1 := by
  have asks := Database.connectIsCall s.driver s.url (s.propertiesFor username password) w
  cases connected : Database.connect s.driver s.url (s.propertiesFor username password) w with
  | mk r made =>
    rw [connected] at asks
    cases r with
    | error e =>
      rw [openAs, Action.bindError connected]
      exact ⟨_, asks, .refused e⟩
    | ok c =>
      obtain ⟨rfl, opened⟩ := Database.connectOk connected
      have known : w.connections.length < made.connections.length := by
        rw [opened.count]
        exact Nat.lt_succ_self _
      obtain ⟨l, sets, follow⟩ := s.configureFollows known
      rw [connectSession connected] at follow
      cases configured : s.configure w.connections.length made with
      | mk r settled =>
        have attempted : (s.configure w.connections.length).attempt made = (.ok r, settled) := by
          rw [Action.attempt, configured]
        rw [openAs, Action.bindOk connected, Action.bindOk attempted]
        rw [configured] at sets follow
        cases r with
        | ok u => exact ⟨_, asks.trans sets, .settled follow⟩
        | error e =>
          have closes := Database.closeIsCall w.connections.length settled
          exact ⟨_, (asks.trans sets).trans closes, .abandoned follow _⟩

namespace Opening

variable {s : Source} {username password : Option String} {c : Nat} {session : Session}
  {l : List Answered} {r : Except Error Nat}

theorem once (h : s.Opening username password c session l r) :
    ∃ failure rest, l = ⟨s.call username password, failure⟩ :: rest ∧
      ∀ x ∈ rest, x.call.connection? = some c := by
  have target {l : List Answered} {failure : Option Error}
      (follow : Answered.Follow (s.setup c session) l failure) :
      ∀ x ∈ l, x.call.connection? = some c := fun _ member =>
    (s.setupTarget c session _ (follow.calls.subset (List.mem_map_of_mem member))).1
  cases h with
  | refused e => exact ⟨_, [], rfl, by simp⟩
  | settled set => exact ⟨_, _, rfl, target set⟩
  | abandoned stopped failure =>
    refine ⟨_, _, rfl, List.forall_mem_append.mpr ⟨target stopped, ?_⟩⟩
    simp [Call.connection?]

theorem returned (h : s.Opening username password c session l r) (made : Nat) :
    r = .ok made ↔ made = c ∧ ∀ x ∈ l, x.failure = none := by
  cases h with
  | refused e => simp
  | @settled l set =>
    have went := Answered.notFailed.mp set.firstFailure
    have all : ∀ x ∈ (⟨s.call username password, none⟩ :: l : List Answered), x.failure = none :=
      List.forall_mem_cons.mpr ⟨rfl, went⟩
    exact ⟨fun same => ⟨(Except.ok.inj same).symm, all⟩, fun same => same.1 ▸ rfl⟩
  | @abandoned l e stopped failure =>
    have failed : ¬ ∀ x ∈ l, x.failure = none := fun all => by
      have first := stopped.firstFailure
      rw [Answered.notFailed.mpr all] at first
      cases first
    simp only [reduceCtorEq, false_iff, not_and]
    exact fun _ all => failed fun x member =>
      all x (List.mem_append_left _ (List.mem_cons_of_mem _ member))

theorem calls (h : s.Opening username password c session l r) {kind : CallKind}
    (connects : kind ≠ .connect) (closes : kind ≠ .close) :
    (Answered.ofKind kind l).map (·.call) <+: (s.setup c session).filter (·.kind = kind) := by
  have skips (failure : Option Error) (rest : List Answered) :
      Answered.ofKind kind (⟨s.call username password, failure⟩ :: rest) = Answered.ofKind kind rest :=
    List.filter_cons_of_neg (by simp [Source.call, Call.kind, connects.symm])
  cases h with
  | refused e =>
    rw [skips]
    exact List.nil_prefix
  | settled set =>
    rw [skips]
    exact set.ofKind kind
  | abandoned stopped failure =>
    have last : Answered.ofKind kind [⟨.close c, failure⟩] = [] :=
      List.filter_eq_nil_iff.mpr (by simp [Call.kind, closes.symm])
    rw [List.cons_append, skips, Answered.ofKindAppend, last, List.append_nil]
    exact stopped.ofKind kind

theorem untouched {failure stop : Option Error} (follow : Answered.Follow (s.setup c session) l stop) :
    Answered.ofKind .close (⟨s.call username password, failure⟩ :: l) = [] :=
  (List.filter_cons_of_neg (by simp [Source.call, Call.kind])).trans
    (follow.none fun call member => (s.setupTarget c session call member).2)

theorem kept (h : s.Opening username password c session l r) {made : Nat} (ok : r = .ok made) :
    Answered.ofKind .close l = [] := by
  cases h with
  | refused => cases ok
  | settled set => exact untouched set
  | abandoned => cases ok

theorem closed (h : s.Opening username password c session l r) {e : Error} (failed : r = .error e) :
    l = [⟨s.call username password, some e⟩] ∨
      ∃ before failure, l = before ++ [⟨.close c, failure⟩] ∧
        Answered.ofKind .close before = [] ∧ Answered.firstFailure before = some e := by
  cases h with
  | refused x =>
    cases failed
    exact .inl rfl
  | settled => cases failed
  | abandoned stopped failure =>
    cases failed
    exact .inr ⟨_, failure, rfl, untouched stopped, stopped.firstFailure⟩

end Opening

structure Opens (s : Source) (username password : Option String) (w : World σ) (l : List Answered)
    (r : Except Error Nat) (later : World σ) : Prop where
  answers : w.Answers l later
  trace : later.trace = w.trace ++ l.map Answered.record
  once : ∃ failure rest, l = ⟨s.call username password, failure⟩ :: rest ∧
    ∀ x ∈ rest, x.call.connection? = some w.connections.length
  overlaid : ∀ name, (s.propertiesFor username password).get? name =
    if name = "password" then password.or (s.properties.get? name)
    else if name = "user" then username.or (s.properties.get? name) else s.properties.get? name
  unchanged : ∀ p : Pool, p.source = s → (p.openEntry username password w).2.1.source = s
  returned : ∀ c, r = .ok c ↔ c = w.connections.length ∧ ∀ x ∈ l, x.failure = none
  fits : ∀ c, r = .ok c → s.Fits (later.session c)
  flags : (Answered.ofKind .setAutoCommit l).map (·.call) <+:
    if w.initial.autoCommit = s.autoCommit then []
    else [.setAutoCommit w.connections.length s.autoCommit]
  levels : (Answered.ofKind .setIsolation l).map (·.call) <+:
    (s.missingLevels w.initial).map (.setIsolation w.connections.length)
  kept : ∀ c, r = .ok c → Answered.ofKind .close l = []
  closed : ∀ e, r = .error e → l = [⟨s.call username password, some e⟩] ∨
    ∃ before failure, l = before ++ [⟨.close w.connections.length, failure⟩] ∧
      Answered.ofKind .close before = [] ∧ Answered.firstFailure before = some e

theorem openEntrySource (p : Pool) (username password : Option String) (w : World σ) :
    (p.openEntry username password w).2.1.source = p.source := by
  rcases h : p.openEntry username password w with ⟨r, q, later⟩
  cases r with
  | ok e =>
    obtain ⟨_, _, rfl, _⟩ := Pool.openEntryOk h
    rfl
  | error x =>
    obtain ⟨rfl, _⟩ := Pool.openEntryError h
    rfl

theorem openingSettles (s : Source) (username password : Option String) (w : World σ) :
    ∃ l, s.Opens username password w l (s.openAs username password w).1
      (s.openAs username password w).2 := by
  obtain ⟨l, answers, opening⟩ := s.openAsAnswers username password w
  refine ⟨l, {
    answers
    trace := answers.trace
    once := opening.once
    overlaid := s.propertiesOverlaid username password
    unchanged := ?_
    returned := opening.returned
    fits := fun c h => openAsFits (Prod.ext h rfl)
    flags := ?_
    levels := ?_
    kept := fun _ => opening.kept
    closed := fun _ => opening.closed }⟩
  · rintro p rfl
    exact openEntrySource p username password w
  · rw [← s.setupFlags]
    exact opening.calls (by decide) (by decide)
  · rw [← s.setupLevels]
    exact opening.calls (by decide) (by decide)

end Source

end ConnectionPool
