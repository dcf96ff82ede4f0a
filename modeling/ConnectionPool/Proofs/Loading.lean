import ConnectionPool.Proofs.Opening
import ConnectionPool.Proofs.Origins
import ConnectionPool.Proofs.Retries

/-! How a pool comes from settings. They name a driver, of which the one counts that was registered last.
A new pool has nothing to hand out, so that its first acquire asks that driver for a connection, and what
it is granted stands as the settings want it. -/
namespace ConnectionPool

namespace Registry

theorem getRegister {α : Type} (r : Registry α) (name other : String) (driver : α) :
    (r.register name driver).get? other = if other = name then some driver else r.get? other := by
  have kept {entries : List (String × α)} (different : other ≠ name) :
      (entries.filter (·.1 != name)).lookup other = entries.lookup other := by
    induction entries with
    | nil => rfl
    | cons head rest ih =>
      by_cases replaced : head.1 = name
      · have skipped : (other == head.1) = false := beq_eq_false_iff_ne.mpr (replaced ▸ different)
        rw [List.filter_cons_of_neg (by simpa using replaced), ih, List.lookup_cons, skipped]
      · rw [List.filter_cons_of_pos (by simpa using replaced), List.lookup_cons, List.lookup_cons, ih]
  rw [get?, register, List.lookup_cons]
  by_cases same : other = name
  · rw [if_pos same, beq_iff_eq.mpr same]
  · rw [if_neg same, beq_eq_false_iff_ne.mpr same]
    exact kept same

def ofDrivers (drivers : List Driver) : Registry Driver :=
  drivers.foldl (fun r d => r.register d.name d) empty

def Latest (drivers : List Driver) (name : String) (d : Driver) : Prop :=
  ∃ before after, drivers = before ++ d :: after ∧ d.name = name ∧ ∀ x ∈ after, x.name ≠ name

variable {drivers : List Driver} {name : String} {d : Driver}

theorem ofDriversNext (drivers : List Driver) (d : Driver) :
    ofDrivers (drivers ++ [d]) = (ofDrivers drivers).register d.name d := by
  rw [ofDrivers, List.foldl_append]
  rfl

theorem Latest.next (h : Latest drivers name d) {x : Driver} (other : x.name ≠ name) :
    Latest (drivers ++ [x]) name d := by
  obtain ⟨before, after, rfl, same, others⟩ := h
  refine ⟨before, after ++ [x], by simp, same, List.forall_mem_append.mpr ⟨others, ?_⟩⟩
  simpa using other

theorem getLatest : ∀ found ∈ (ofDrivers drivers).get? name, Latest drivers name found := by
  induction drivers using List.reverseRecOn with
  | nil => exact fun _ found => nomatch found
  | append_singleton drivers x ih =>
    intro found same
    rw [ofDriversNext, getRegister] at same
    split at same
    · rename_i named
      cases same
      exact ⟨drivers, [], rfl, named.symm, fun _ none => nomatch none⟩
    · rename_i other
      exact (ih found same).next (Ne.symm other)

theorem getNone : (ofDrivers drivers).get? name = none ↔ ∀ d ∈ drivers, d.name ≠ name := by
  induction drivers using List.reverseRecOn with
  | nil => exact ⟨fun _ _ none => (nomatch none), fun _ => rfl⟩
  | append_singleton drivers x ih =>
    rw [ofDriversNext, getRegister, List.forall_mem_append, ← ih]
    by_cases named : name = x.name
    · simp [named]
    · simp [named, Ne.symm named]

end Registry

namespace Pool

variable {σ : Type} [Conditions σ] {username password : Option String} {p q : Pool}
  {w later : World σ} {a : Attempt} {patience : Nat} {o : Outcome} {c : Except Error (Option Entry)}

structure Vacant (p : Pool) : Prop where
  idle : p.idle = []
  active : p.active = []
  allows : 0 < p.config.maxActive.toNat

theorem Vacant.room (h : p.Vacant) : p.active.length < p.config.maxActive.toNat := by
  rw [h.active]
  exact h.allows

theorem vacancy (username password : Option String) :
    Search (σ := σ) username password (fun p _ => p.Vacant) (fun _ p _ => p.Vacant) where
  reuse vacant idle := by
    rw [vacant.idle] at idle
    cases idle
  openOk vacant _ _ opened := by
    obtain ⟨_, _, rfl, _⟩ := openEntryOk opened
    exact ⟨vacant.idle, vacant.active, vacant.allows⟩
  openError vacant _ _ failed := by
    obtain ⟨rfl, _⟩ := openEntryError failed
    exact vacant
  takeOver vacant _ active _ _ := by
    rw [vacant.active] at active
    cases active
  examine vacant := vacant
  discard vacant := ⟨vacant.idle, vacant.active, vacant.allows⟩
  countWait {p _ a} vacant := by
    obtain ⟨_, counted⟩ := p.countWaitPool a
    rw [counted]
    exact ⟨vacant.idle, vacant.active, vacant.allows⟩

theorem Vacant.answers (h : p.Vacant) (result : p.resume a w = (o, q, later)) (b : Attempt) (since : Nat)
    (limit : Option Nat) : o ≠ .waiting b since limit := by
  cases (vacancy a.username a.password).resume h result with
  | granted => nofun
  | failed => nofun
  | waiting _ _ vacant saturated => exact absurd vacant.room (Nat.not_lt.mpr saturated.2)

theorem Vacant.opensFirst (h : p.Vacant) (found : p.candidate username password w = (c, q, later)) :
    (p.source.openAs username password w).2.Grows later := by
  rw [candidateOpens h.idle h.room, openEntry] at found
  split at found
  · rename_i opened
    split at opened
    · cases opened
    · rename_i opening
      rw [opening]
      cases opened
      cases found
      exact ⟨Nat.le_refl _, Nat.le_succ _, List.prefix_rfl, fun there => ⟨_, there, Connection.growsRefl _⟩⟩
  · rename_i unopened
    split at unopened
    · rename_i opening
      rw [opening]
      cases unopened
      cases found
      exact World.growsRefl _
    · cases unopened

theorem Vacant.opens (h : p.Vacant) (going : p.shutDown = false)
    (result : p.pursue patience a w = (o, q, later)) :
    (p.source.openAs a.username a.password w).2.Grows later := by
  rcases found : p.candidate a.username a.password w with ⟨c, r, now⟩
  exact (h.opensFirst found).trans (pursueAfter going found result rfl rfl)

theorem Vacant.grants (h : p.Vacant) (code : p.expectedCode = codeOf p.source)
    (result : p.resume a w = (o, q, later)) {e : Entry} (granted : o = .granted e) :
    w.connections.length ≤ e.connection ∧
      later.OpenedAs e.connection p.source a.username a.password ∧
      q.expectedCode = p.expectedCode ∧ e.typeCode = typeCode p.source.url a.username a.password := by
  have begun : Origins w p.source a.username a.password (fun _ => False) (p.idle ++ p.active) p w := by
    rw [h.idle, h.active]
    exact ⟨rfl, code, w.growsRefl, fun _ since known => absurd known (Nat.not_lt.mpr since),
      fun _ none => nomatch none⟩
  cases (Origins.search w p.source a.username a.password fun _ => False).resume begun result with
  | @granted k r v held =>
    cases granted
    obtain ⟨since, known⟩ := (held.live k List.mem_cons_self).resolve_left id
    refine ⟨since, (held.fresh _ since known).1, held.code.trans code.symm, ?_⟩
    rw [← held.source]
    rfl
  | failed => cases granted
  | waiting => cases granted

theorem Vacant.fits (h : p.Vacant) (result : p.resume a w = (o, q, later)) {e : Entry}
    (granted : o = .granted e) (since : w.connections.length ≤ e.connection) :
    p.source.Fits (later.session e.connection) := by
  have begun : Tuned w p.source p w := by
    refine ⟨rfl, Nat.le_refl _, fun _ _ k found => ⟨k, found, rfl⟩, ?_⟩
    rw [h.idle, h.active]
    exact fun _ none => nomatch none
  cases (tuning w p.source a.username a.password).resume begun result with
  | granted held =>
    cases granted
    exact (held.2 since).2
  | failed => cases granted
  | waiting => cases granted

omit [Conditions σ] in
theorem newVacant (source : Source) (config : Config) : (new source config).Vacant :=
  ⟨rfl, rfl, config.allowsOne _⟩

end Pool

namespace Settings

def Overlaid (s : Settings) (properties : Properties) : Prop :=
  ∀ name, properties.get? name =
    if name = "password" then s.password.or (s.properties.get? name)
    else if name = "user" then s.username.or (s.properties.get? name) else s.properties.get? name

def source (s : Settings) (d : Driver) : Source :=
  ⟨d, s.url, s.username, s.password, s.properties, s.autoCommit, s.isolation⟩

theorem sourceOverlaid (s : Settings) (d : Driver) :
    s.Overlaid ((s.source d).propertiesFor s.username s.password) :=
  (s.source d).propertiesOverlaid s.username s.password

variable {σ : Type}

structure Reaches (s : Settings) (d : Driver) (p : Pool) (w : World σ) (o : Outcome) (q : Pool)
    (later : World σ) : Prop where
  asks : ∃ properties failed rest, s.Overlaid properties ∧
    later.trace = w.trace ++ ⟨.connect d s.url properties, failed⟩ :: rest
  answers : ∀ b since limit, o ≠ .waiting b since limit
  grants : ∀ e, o = .granted e → w.connections.length ≤ e.connection ∧
    ∃ k, later.connection? e.connection = some k ∧ k.driver = d ∧ k.url = s.url ∧
      s.Overlaid k.properties ∧ k.session.autoCommit = s.autoCommit ∧
      (∀ level, s.isolation = some level → k.session.isolation = some level) ∧
      e.typeCode = p.expectedCode ∧ e.typeCode = q.expectedCode

variable [Conditions σ]

theorem newReaches (s : Settings) (d : Driver) (w : World σ) :
    s.Reaches d (.new (s.source d) s.pool) w
      ((Pool.new (s.source d) s.pool).acquireDefault w).1
      ((Pool.new (s.source d) s.pool).acquireDefault w).2.1
      ((Pool.new (s.source d) s.pool).acquireDefault w).2.2 := by
  have vacant := Pool.newVacant (s.source d) s.pool
  rcases result : (Pool.new (s.source d) s.pool).acquireDefault w with ⟨o, q, later⟩
  refine ⟨?_, vacant.answers result, fun e granted => ?_⟩
  · obtain ⟨l, opens⟩ := (s.source d).openingSettles s.username s.password w
    obtain ⟨failure, others, rfl, _⟩ := opens.once
    obtain ⟨more, trace⟩ := (vacant.opens rfl result).trace
    refine ⟨_, failure.isSome, others.map Answered.record ++ more, s.sourceOverlaid d, ?_⟩
    change (World.trace ((s.source d).openAs s.username s.password w).2) ++ more = later.trace at trace
    rw [← trace, opens.trace, List.map_cons, List.append_assoc, List.cons_append]
    rfl
  · obtain ⟨since, ⟨k, found, driver, url, properties⟩, code, same⟩ := vacant.grants rfl result granted
    have fits := vacant.fits result granted since
    have session : later.session e.connection = k.session := by
      rw [World.session, found]
    rw [session] at fits
    have coded : e.typeCode = (Pool.new (s.source d) s.pool).expectedCode := same
    refine ⟨since, k, found, driver, url, ?_, fits.1, fits.2, coded, coded.trans code.symm⟩
    rw [properties]
    exact s.sourceOverlaid d

end Settings

theorem settingsReachDriver {σ : Type} [Conditions σ] (drivers : List Driver) (s : Settings)
    (w : World σ) :
    ((∃ e, Pool.ofSettings s (.ofDrivers drivers) = .error e) ↔ ∀ d ∈ drivers, d.name ≠ s.driver) ∧
    (∀ e, Pool.ofSettings s (.ofDrivers drivers) = .error e →
      e = .unknownDriver s.driver ∧ e.kind = "Driver") ∧
    ∀ p, Pool.ofSettings s (.ofDrivers drivers) = .ok p →
      p.config = { s.pool with maxActive := max s.pool.maxActive 1 } ∧
      ∃ d, Registry.Latest drivers s.driver d ∧
        s.Reaches d p w (p.acquireDefault w).1 (p.acquireDefault w).2.1 (p.acquireDefault w).2.2 := by
  rw [← Registry.getNone]
  have latest : ∀ d ∈ (Registry.ofDrivers drivers).get? s.driver, Registry.Latest drivers s.driver d :=
    Registry.getLatest
  unfold Pool.ofSettings Registry.require
  cases found : (Registry.ofDrivers drivers).get? s.driver with
  | none =>
    refine ⟨⟨fun _ => rfl, fun _ => ⟨_, rfl⟩⟩, fun e failed => ?_, fun p made => nomatch made⟩
    cases failed
    exact ⟨rfl, rfl⟩
  | some d =>
    refine ⟨⟨fun ⟨e, failed⟩ => (nomatch failed), nofun⟩, fun e failed => (nomatch failed), ?_⟩
    intro p made
    cases made
    exact ⟨rfl, d, latest d found, s.newReaches d w⟩

example : (Registry.ofDrivers [⟨0, "mock"⟩, ⟨1, "mock"⟩, ⟨2, "other"⟩]).get? "mock" =
    some ⟨1, "mock"⟩ := by
  decide

end ConnectionPool
