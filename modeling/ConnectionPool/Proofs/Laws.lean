import ConnectionPool.Pool.Entry
import ConnectionPool.Source

/-! Laws of what is put together from calls. A relation between the world before and the world after
that holds of each single call holds of whole operations too, whichever of their calls fail. The laws
differ in what they allow to be done to a connection besides. -/
namespace ConnectionPool

variable {σ α β : Type} {R : World σ → World σ → Prop}

namespace Action

def Keeps (R : World σ → World σ → Prop) (m : Action σ α) : Prop := ∀ w, R w (m w).2

theorem Keeps.of {m : Action σ α} (h : m.Keeps R) {w later : World σ} {r : Except Error α}
    (result : m w = (r, later)) : R w later := by
  have kept := h w
  rw [result] at kept
  exact kept

theorem Keeps.attempt {m : Action σ α} (h : m.Keeps R) : m.attempt.Keeps R := h

theorem bindOk {m : Action σ α} {f : α → Action σ β} {w later : World σ} {a : α}
    (h : m w = (.ok a, later)) : (m >>= f) w = f a later := by
  simp only [bind, h]

theorem bindError {m : Action σ α} {f : α → Action σ β} {w later : World σ} {e : Error}
    (h : m w = (.error e, later)) : (m >>= f) w = (.error e, later) := by
  simp only [bind, h]

theorem bindSucceeds {m : Action σ α} {f : α → Action σ β} {w later : World σ} {b : β}
    (h : (m >>= f) w = (.ok b, later)) :
    ∃ a between, m w = (.ok a, between) ∧ f a between = (.ok b, later) := by
  cases first : m w with
  | mk r between =>
    cases r with
    | error e => rw [bindError first] at h; cases h
    | ok a => rw [bindOk first] at h; exact ⟨a, between, rfl, h⟩

theorem liftSucceeds {r : Except Error α} {w later : World σ} {a : α}
    (h : lift r w = (.ok a, later)) : r = .ok a ∧ later = w := by
  cases h
  exact ⟨rfl, rfl⟩

theorem attemptEnds {m : Action σ α} {w later : World σ} {r : Except Error α}
    (h : m.attempt w = (.ok r, later)) : m w = (r, later) := by
  cases ended : m w with
  | mk outcome after =>
    rw [attempt, ended] at h
    cases h
    rfl

end Action

def World.tune (c : Nat) (f : Session → Session) (w : World σ) : World σ :=
  w.update c fun k => { k with session := f k.session }

variable [Conditions σ]

structure World.Law (R : World σ → World σ → Prop) : Prop where
  refl : ∀ w, R w w
  trans : ∀ {a b c}, R a b → R b c → R a c
  perform : ∀ call, (Database.perform call).Keeps R
  lapse : ∀ w, R w w.lapse

structure World.ClosingLaw (R : World σ → World σ → Prop) : Prop extends World.Law R where
  closing : ∀ c w, R w (w.update c fun k => { k with closed := true })

namespace World.Law

variable (law : World.Law R)
include law

theorem pure (a : α) : (Pure.pure a : Action σ α).Keeps R := law.refl

theorem lift (r : Except Error α) : (Action.lift r : Action σ α).Keeps R := law.refl

theorem see (f : World σ → α) : (Database.see f).Keeps R := law.refl

theorem bind {m : Action σ α} {f : α → Action σ β} (first : m.Keeps R)
    (rest : ∀ a, (f a).Keeps R) : (m >>= f).Keeps R := by
  intro w
  have begun := first w
  cases h : m w with
  | mk r later =>
    rw [h] at begun
    cases r with
    | error e => rw [Action.bindError h]; exact begun
    | ok a => rw [Action.bindOk h]; exact law.trans begun (rest a later)

theorem autoCommit (c : Nat) : (Database.autoCommit c : Action σ Bool).Keeps R :=
  law.bind (law.perform _) fun _ => law.see _

theorem isolation (c : Nat) : (Database.isolation c : Action σ (Option Isolation)).Keeps R :=
  law.bind (law.perform _) fun _ => law.see _

theorem executeQuery (c : Nat) (sql : String) (params : List Value) :
    (Database.executeQuery c sql params : Action σ Rows).Keeps R :=
  law.bind (law.perform _) fun _ => law.pure _

theorem executeUpdate (c : Nat) (sql : String) (params : List Value) :
    (Database.executeUpdate c sql params : Action σ Nat).Keeps R :=
  law.bind (law.perform _) fun _ => law.pure _

theorem withStatement (c : Nat) {execute : Action σ α} (h : execute.Keeps R) :
    (Database.withStatement c execute).Keeps R :=
  law.bind (law.perform _) fun _ => law.bind h.attempt fun _ =>
    law.bind (law.perform _) fun _ => law.lift _

theorem rollback (e : Entry) : (e.rollbackIfNeeded : Action σ Unit).Keeps R := by
  refine law.bind (law.autoCommit _) fun auto => ?_
  cases auto with
  | false => exact law.perform (.rollback e.connection)
  | true => exact law.pure _

theorem probe (c : Nat) (sql : String) : (Database.probe c sql : Action σ Unit).Keeps R := by
  have query : (Database.executeQuery c sql [] : Action σ Rows).Keeps R := law.executeQuery c sql []
  have closing : (Database.closeStatement c : Action σ Unit).Keeps R := law.perform _
  refine law.bind (law.perform _) fun _ => law.bind query.attempt fun _ =>
    law.bind closing.attempt fun _ => law.bind (law.lift _) fun _ => law.bind (law.lift _) fun _ =>
    law.bind (law.autoCommit c) fun auto => ?_
  cases auto with
  | false => exact law.perform (.rollback c)
  | true => exact law.pure _

theorem ping (c : Nat) (sql : String) (w : World σ) : R w (Database.ping c sql w).2 := by
  have probed := law.probe c sql w
  unfold Database.ping
  split
  · exact law.refl w
  · split
    · rename_i h; rw [h] at probed; exact probed
    · rename_i h; rw [h] at probed; exact probed

theorem setAutoCommit {c : Nat} {value : Bool}
    (tuning : ∀ w : World σ, R w (w.tune c fun s => { s with autoCommit := value })) :
    (Database.setAutoCommit c value : Action σ Unit).Keeps R :=
  law.bind (law.perform _) fun _ => tuning

theorem setIsolation {c : Nat} {level : Isolation}
    (tuning : ∀ w : World σ, R w (w.tune c fun s => { s with isolation := some level })) :
    (Database.setIsolation c level : Action σ Unit).Keeps R :=
  law.bind (law.perform _) fun _ => tuning

theorem configure (s : Source) {c : Nat} (tuning : ∀ f, ∀ w : World σ, R w (w.tune c f)) :
    (s.configure c : Action σ Unit).Keeps R := by
  unfold Source.configure
  refine law.bind (law.autoCommit c) fun auto => ?_
  have settled (m : Action σ Unit) (h : m.Keeps R) :
      (if (auto != s.autoCommit) = true then Database.setAutoCommit c s.autoCommit >>= fun _ => m
        else m).Keeps R := by
    split
    · exact law.bind (law.setAutoCommit (tuning _)) fun _ => h
    · exact h
  cases s.isolation with
  | none => exact settled _ (law.pure _)
  | some level =>
    refine settled _ (law.bind (law.isolation c) fun found => ?_)
    split
    · exact law.setIsolation (tuning _)
    · exact law.pure _

end World.Law

namespace World.ClosingLaw

variable (law : World.ClosingLaw R)
include law

theorem close (c : Nat) : (Database.close c : Action σ Unit).Keeps R :=
  law.bind (law.perform _) fun _ => law.closing c

theorem closeEntry (e : Entry) (w : World σ) : R w (e.close w) :=
  law.trans (law.rollback e w) (law.close e.connection _)

theorem probeEntry (e : Entry) (config : Config) (w : World σ) : R w (e.probe config w).2 := by
  have pinged := law.trans (law.lapse w) (law.ping e.connection config.pingQuery w.lapse)
  unfold Entry.probe
  split
  · exact law.refl w
  · split
    · exact law.lapse w
    · split
      · rename_i h; rw [h] at pinged; exact pinged
      · rename_i h; rw [h] at pinged
        exact law.trans pinged (law.close _ _)

end World.ClosingLaw
end ConnectionPool
