import ConnectionPool.Proofs.Laws

/-! What becomes of a world. Time passes, calls are added to the trace and connections to the list; a
connection keeps the target that it was opened for, and a closed one stays closed. Calls about open
connections add no connection. These facts are all that the laws of a pool need of a database, so
that a driver may fail at any call. -/
namespace ConnectionPool

structure Connection.Grows (k later : Connection) : Prop where
  driver : later.driver = k.driver
  url : later.url = k.url
  properties : later.properties = k.properties
  closed : k.closed = true → later.closed = true

theorem Connection.growsRefl (k : Connection) : k.Grows k := ⟨rfl, rfl, rfl, id⟩

theorem Connection.Grows.trans {a b c : Connection} (first : a.Grows b) (last : b.Grows c) :
    a.Grows c :=
  ⟨last.driver.trans first.driver, last.url.trans first.url,
    last.properties.trans first.properties, fun h => last.closed (first.closed h)⟩

namespace World

variable {σ : Type} {a b c : World σ}

structure Grows (w later : World σ) : Prop where
  clock : w.clock ≤ later.clock
  identities : w.identities ≤ later.identities
  trace : w.trace <+: later.trace
  connections : ∀ {c k}, w.connection? c = some k → ∃ l, later.connection? c = some l ∧ k.Grows l

theorem growsRefl (w : World σ) : w.Grows w :=
  ⟨Nat.le_refl _, Nat.le_refl _, List.prefix_rfl, fun found => ⟨_, found, Connection.growsRefl _⟩⟩

theorem Grows.trans (first : a.Grows b) (last : b.Grows c) : a.Grows c := by
  refine ⟨Nat.le_trans first.clock last.clock, Nat.le_trans first.identities last.identities,
    first.trace.trans last.trace, fun found => ?_⟩
  obtain ⟨k, found, kept⟩ := first.connections found
  obtain ⟨l, found, more⟩ := last.connections found
  exact ⟨l, found, kept.trans more⟩

theorem opened {w : World σ} {c : Nat} : c < w.connections.length ↔ ∃ k, w.connection? c = some k := by
  rw [connection?]
  constructor
  · intro h
    exact ⟨_, List.getElem?_eq_getElem h⟩
  · rintro ⟨k, found⟩
    exact (List.getElem?_eq_some_iff.mp found).1

theorem Grows.count (h : a.Grows b) : a.connections.length ≤ b.connections.length := by
  refine Nat.not_lt.mp fun shorter => ?_
  obtain ⟨k, found⟩ := opened.mp shorter
  obtain ⟨l, found, _⟩ := h.connections found
  exact Nat.lt_irrefl _ (opened.mpr ⟨l, found⟩)

theorem isClosedIff {w : World σ} {c : Nat} (known : c < w.connections.length) :
    w.isClosed c = true ↔ ∃ k, w.connection? c = some k ∧ k.closed = true := by
  obtain ⟨k, found⟩ := opened.mp known
  simp [isClosed, found]

theorem Grows.isClosed {c : Nat} (h : a.Grows b) (known : c < a.connections.length)
    (closed : a.isClosed c = true) : b.isClosed c = true := by
  obtain ⟨k, found, closed⟩ := (isClosedIff known).mp closed
  obtain ⟨l, found, kept⟩ := h.connections found
  exact (isClosedIff (Nat.lt_of_lt_of_le known h.count)).mpr ⟨l, found, kept.closed closed⟩

structure Called (w later : World σ) : Prop where
  grows : w.Grows later
  same : later.connections.length = w.connections.length

theorem calledRefl (w : World σ) : w.Called w := ⟨growsRefl w, rfl⟩

theorem Called.trans (first : a.Called b) (last : b.Called c) : a.Called c :=
  ⟨first.grows.trans last.grows, last.same.trans first.same⟩

theorem calledPass (nanos : Nat) (w : World σ) : w.Called (w.pass nanos) := by
  refine ⟨⟨Nat.le_add_right _ _, Nat.le_refl _, List.prefix_rfl, fun {_ k} found => ?_⟩, rfl⟩
  exact ⟨k, found, k.growsRefl⟩

def Recorded (w later : World σ) (record : CallRecord) : Prop :=
  record ∈ later.trace.drop w.trace.length

def Tried (w later : World σ) (call : Call) : Prop := ∃ failed, w.Recorded later ⟨call, failed⟩

theorem Recorded.later {record : CallRecord} (made : a.Recorded b record) (h : b.Grows c) :
    a.Recorded c record := by
  obtain ⟨more, trace⟩ := h.trace
  rw [Recorded, ← trace, List.drop_append]
  exact List.mem_append_left _ made

theorem Recorded.earlier {record : CallRecord} (made : b.Recorded c record) (h : a.Grows b) :
    a.Recorded c record := by
  have split : (c.trace.drop a.trace.length).drop (b.trace.length - a.trace.length) =
      c.trace.drop b.trace.length := by
    rw [List.drop_drop, Nat.add_sub_cancel' h.trace.length_le]
  rw [Recorded, ← split] at made
  exact List.mem_of_mem_drop made

theorem Tried.later {call : Call} (tried : a.Tried b call) (h : b.Grows c) : a.Tried c call :=
  tried.imp fun _ made => made.later h

theorem Tried.earlier {call : Call} (tried : b.Tried c call) (h : a.Grows b) : a.Tried c call :=
  tried.imp fun _ made => made.earlier h

theorem notTried (w : World σ) (call : Call) : ¬w.Tried w call := by
  rintro ⟨failed, made⟩
  rw [Recorded, List.drop_length] at made
  cases made

structure Opened (w later : World σ) (driver : Driver) (url : String) (properties : Properties) :
    Prop where
  grows : w.Grows later
  count : later.connections.length = w.connections.length + 1
  call : w.Recorded later ⟨.connect driver url properties, false⟩
  found : ∃ k, later.connection? w.connections.length = some k ∧ k.driver = driver ∧ k.url = url ∧
    k.properties = properties

theorem Opened.called {driver : Driver} {url : String} {properties : Properties}
    (h : a.Opened b driver url properties) (more : b.Called c) :
    a.Opened c driver url properties := by
  refine ⟨h.grows.trans more.grows, more.same.trans h.count, h.call.later more.grows, ?_⟩
  obtain ⟨k, found, driver, url, properties⟩ := h.found
  obtain ⟨l, found, kept⟩ := more.grows.connections found
  exact ⟨l, found, kept.driver.trans driver, kept.url.trans url, kept.properties.trans properties⟩

end World

variable {σ α : Type}

def Action.Calls (m : Action σ α) : Prop := ∀ w : World σ, w.Called (m w).2

theorem World.calledUpdate (c : Nat) {f : Connection → Connection} (kept : ∀ k : Connection, k.Grows (f k))
    (w : World σ) : w.Called (w.update c f) := by
  refine ⟨⟨Nat.le_refl _, Nat.le_refl _, List.prefix_rfl, fun {d k} found => ?_⟩, by
    simp [World.update]⟩
  rw [World.connection?] at found
  by_cases same : c = d
  · exact ⟨f k, by simp [World.update, World.connection?, same, found], kept k⟩
  · exact ⟨k, by simp [World.update, World.connection?, same, found], k.growsRefl⟩

theorem World.calledTune (c : Nat) (f : Session → Session) (w : World σ) : w.Called (w.tune c f) := by
  have kept (k : Connection) : k.Grows { k with session := f k.session } := ⟨rfl, rfl, rfl, id⟩
  exact calledUpdate c kept w

namespace Database

variable [Conditions σ]

theorem performTrace (call : Call) (w : World σ) :
    ∃ failed, (perform call w).2.trace = w.trace ++ [⟨call, failed⟩] := by
  unfold perform
  dsimp only
  split
  · exact ⟨true, rfl⟩
  · split
    · exact ⟨true, rfl⟩
    · exact ⟨false, rfl⟩

theorem performTried (call : Call) (w : World σ) : w.Tried (perform call w).2 call := by
  obtain ⟨failed, trace⟩ := performTrace call w
  exact ⟨failed, by simp [World.Recorded, trace]⟩

theorem performConnections (call : Call) (w : World σ) :
    (perform call w).2.connections = w.connections ∧ w.clock ≤ (perform call w).2.clock ∧
      (perform call w).2.identities = w.identities := by
  unfold perform
  dsimp only
  split
  · exact ⟨rfl, Nat.le_add_right _ _, rfl⟩
  · split
    · exact ⟨rfl, Nat.le_add_right _ _, rfl⟩
    · exact ⟨rfl, Nat.le_add_right _ _, rfl⟩

theorem performOk {call : Call} {w later : World σ} (h : perform call w = (.ok (), later)) :
    later.trace = w.trace ++ [⟨call, false⟩] := by
  unfold perform at h
  dsimp only at h
  split at h
  · cases h
  · split at h
    · cases h
    · cases h; rfl

theorem performError {call : Call} {w later : World σ} {e : Error}
    (h : perform call w = (.error e, later)) : later.trace = w.trace ++ [⟨call, true⟩] := by
  unfold perform at h
  dsimp only at h
  split at h
  · cases h; rfl
  · split at h
    · cases h; rfl
    · cases h

theorem callsPerform (call : Call) : (perform call : Action σ Unit).Calls := by
  intro w
  obtain ⟨failed, trace⟩ := performTrace call w
  obtain ⟨connections, clock, identities⟩ := performConnections call w
  refine ⟨⟨clock, Nat.le_of_eq identities.symm, ?_, fun {c k} found => ?_⟩, by rw [connections]⟩
  · exact trace ▸ List.prefix_append _ _
  · exact ⟨k, by rw [World.connection?, connections]; exact found, k.growsRefl⟩

theorem connectOk {driver : Driver} {url : String} {properties : Properties} {w later : World σ}
    {c : Nat} (h : connect driver url properties w = (.ok c, later)) :
    c = w.connections.length ∧ w.Opened later driver url properties := by
  have called := callsPerform (.connect driver url properties) w
  cases hp : perform (.connect driver url properties) w with
  | mk r made =>
    rw [hp] at called
    cases r with
    | error e => rw [connect, Action.bindError hp] at h; cases h
    | ok u =>
      have trace := performOk hp
      rw [connect, Action.bindOk hp] at h
      cases h
      refine ⟨called.same, ⟨⟨called.grows.clock, called.grows.identities, called.grows.trace,
        fun {d k} found => ?_⟩, ?_, ?_, ?_⟩⟩
      · obtain ⟨l, found, kept⟩ := called.grows.connections found
        exact ⟨l, (List.getElem?_append_left (World.opened.mpr ⟨l, found⟩)).trans found, kept⟩
      · simp [called.same]
      · simp [World.Recorded, trace]
      · exact ⟨_, by rw [World.connection?, ← called.same]; exact List.getElem?_concat_length,
          rfl, rfl, rfl⟩

theorem connectError {driver : Driver} {url : String} {properties : Properties} {w later : World σ}
    {e : Error} (h : connect driver url properties w = (.error e, later)) : w.Called later := by
  have called := callsPerform (.connect driver url properties) w
  cases hp : perform (.connect driver url properties) w with
  | mk r made =>
    rw [hp] at called
    cases r with
    | error e => rw [connect, Action.bindError hp] at h; cases h; exact called
    | ok u => rw [connect, Action.bindOk hp] at h; cases h

end Database

theorem World.calledLaw [Conditions σ] : World.ClosingLaw (World.Called (σ := σ)) where
  refl := World.calledRefl
  trans := World.Called.trans
  perform := Database.callsPerform
  lapse w := w.calledPass _
  closing c := World.calledUpdate c fun _ => ⟨rfl, rfl, rfl, fun _ => rfl⟩

namespace Database

variable [Conditions σ]

theorem callsClose (c : Nat) : (close c : Action σ Unit).Calls := World.calledLaw.close c

theorem closeTried (c : Nat) (w : World σ) : w.Tried ((close c).effect w) (.close c) := by
  have tried := performTried (.close c) w
  cases h : perform (.close c) w with
  | mk r later =>
    rw [h] at tried
    cases r with
    | error e =>
      rw [Action.effect, close, Action.bindError h]
      exact tried
    | ok u =>
      rw [Action.effect, close, Action.bindOk h]
      exact tried.later (World.calledLaw.closing c later).grows

theorem pingCalled (c : Nat) (sql : String) (w : World σ) : w.Called (ping c sql w).2 :=
  World.calledLaw.ping c sql w

end Database

namespace Entry

variable [Conditions σ]

theorem callsRollback (e : Entry) : (e.rollbackIfNeeded : Action σ Unit).Calls :=
  World.calledLaw.rollback e

theorem closeCalled (e : Entry) (w : World σ) : w.Called (e.close w) := World.calledLaw.closeEntry e w

theorem closeTried (e : Entry) (w : World σ) : w.Tried (e.close w) (.close e.connection) :=
  (Database.closeTried e.connection _).earlier (callsRollback e w).grows

theorem probeCalled (e : Entry) (config : Config) (w : World σ) : w.Called (e.probe config w).2 :=
  World.calledLaw.probeEntry e config w

end Entry

namespace Source

variable [Conditions σ]

theorem callsConfigure (s : Source) (c : Nat) : (s.configure c : Action σ Unit).Calls :=
  World.calledLaw.configure s (World.calledTune c)

theorem openAsEnds {s : Source} {username password : Option String} {w later : World σ}
    {r : Except Error Nat} (h : s.openAs username password w = (r, later)) :
    (r = .ok w.connections.length ∧
      w.Opened later s.driver s.url (s.propertiesFor username password)) ∨
    (∃ e, r = .error e) ∧ (w.Called later ∨
      w.Opened later s.driver s.url (s.propertiesFor username password) ∧
        w.Tried later (.close w.connections.length)) := by
  cases hc : Database.connect s.driver s.url (s.propertiesFor username password) w with
  | mk connected made =>
    cases connected with
    | error e =>
      rw [openAs, Action.bindError hc] at h
      cases h
      exact .inr ⟨⟨e, rfl⟩, .inl (Database.connectError hc)⟩
    | ok d =>
      obtain ⟨rfl, opened⟩ := Database.connectOk hc
      have called := callsConfigure s w.connections.length made
      rw [openAs, Action.bindOk hc] at h
      cases hs : s.configure w.connections.length made with
      | mk configured settled =>
        rw [hs] at called
        have attempted : (s.configure w.connections.length).attempt made = (.ok configured, settled) := by
          rw [Action.attempt, hs]
        rw [Action.bindOk attempted] at h
        cases configured with
        | ok u => cases h; exact .inl ⟨rfl, opened.called called⟩
        | error e =>
          have closing := Database.callsClose w.connections.length settled
          have tried := Database.closeTried w.connections.length settled
          cases h
          exact .inr ⟨⟨e, rfl⟩, .inr ⟨opened.called (called.trans closing),
            tried.earlier (opened.grows.trans called.grows)⟩⟩

end Source
end ConnectionPool
