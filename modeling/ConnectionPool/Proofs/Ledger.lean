import ConnectionPool.Pool
import ConnectionPool.Proofs.Growth

/-! The accounts of a pool in the course of one critical section, which began in the world `first`.
Entries in use have serial numbers and connections of their own. A connection that is on the pool's
account, since it was there before or was opened since, is in use, or was lost before, or a close of
it was tried since, or it is closed. -/
namespace ConnectionPool

structure Ledger {σ : Type} (first : World σ) (mine lost : Nat → Prop) (live : List Entry) (p : Pool)
    (w : World σ) : Prop where
  grows : first.Grows w
  serials : (live.map Entry.serial).Nodup
  issued : ∀ n ∈ live.map Entry.serial, n < p.serials
  valid : ∀ n ∈ live.map Entry.serial, n ∉ p.revoked
  past : ∀ n ∈ p.revoked, n < p.serials
  connections : (live.map Entry.connection).Nodup
  opened : ∀ c ∈ live.map Entry.connection, c < w.connections.length
  owned : ∀ c, mine c → c < first.connections.length
  accounted : ∀ c, mine c ∨ first.connections.length ≤ c ∧ c < w.connections.length →
    c ∈ live.map Entry.connection ∨ lost c ∨ first.Tried w (.close c) ∨ w.isClosed c = true

namespace Ledger

variable {σ : Type} {first w later : World σ} {mine lost : Nat → Prop} {live : List Entry} {p q : Pool}
  {e : Entry}

theorem known (h : Ledger first mine lost live p w) {c : Nat}
    (account : mine c ∨ first.connections.length ≤ c ∧ c < w.connections.length) :
    c < w.connections.length :=
  account.elim (fun own => Nat.lt_of_lt_of_le (h.owned c own) h.grows.count) (·.2)

theorem rearrange {other : List Entry} (h : Ledger first mine lost live p w)
    (serials : (other.map Entry.serial).Perm (live.map Entry.serial))
    (connections : (other.map Entry.connection).Perm (live.map Entry.connection)) :
    Ledger first mine lost other p w where
  grows := h.grows
  serials := serials.nodup_iff.mpr h.serials
  issued n member := h.issued n (serials.subset member)
  valid n member := h.valid n (serials.subset member)
  past := h.past
  connections := connections.nodup_iff.mpr h.connections
  opened c member := h.opened c (connections.subset member)
  owned := h.owned
  accounted c account := (h.accounted c account).imp_left fun member => connections.symm.subset member

theorem perm {other : List Entry} (h : Ledger first mine lost live p w) (same : other.Perm live) :
    Ledger first mine lost other p w :=
  h.rearrange (same.map _) (same.map _)

theorem activeSerials (h : Ledger first mine lost (p.idle ++ p.active) p w) :
    (p.active.map Entry.serial).Nodup :=
  h.serials.sublist ((List.sublist_append_right p.idle p.active).map _)

theorem pool (h : Ledger first mine lost live p w) (serials : q.serials = p.serials)
    (revoked : q.revoked = p.revoked) : Ledger first mine lost live q w where
  grows := h.grows
  serials := h.serials
  issued := serials ▸ h.issued
  valid := revoked ▸ h.valid
  past := by rw [serials, revoked]; exact h.past
  connections := h.connections
  opened := h.opened
  owned := h.owned
  accounted := h.accounted

theorem called (h : Ledger first mine lost live p w) (calls : w.Called later) :
    Ledger first mine lost live p later where
  grows := h.grows.trans calls.grows
  serials := h.serials
  issued := h.issued
  valid := h.valid
  past := h.past
  connections := h.connections
  opened := calls.same ▸ h.opened
  owned := h.owned
  accounted c account := by
    rw [calls.same] at account
    rcases h.accounted c account with used | lost | tried | closed
    · exact .inl used
    · exact .inr (.inl lost)
    · exact .inr (.inr (.inl (tried.later calls.grows)))
    · exact .inr (.inr (.inr (calls.grows.isClosed (h.known account) closed)))

theorem drop (h : Ledger first mine lost (e :: live) p w)
    (gone : first.Tried w (.close e.connection) ∨ w.isClosed e.connection = true) :
    Ledger first mine lost live (p.revoke e) w where
  grows := h.grows
  serials := (List.nodup_cons.mp h.serials).2
  issued n member := h.issued n (List.mem_cons_of_mem _ member)
  valid n member := by
    rintro (_ | ⟨_, old⟩)
    · exact (List.nodup_cons.mp h.serials).1 member
    · exact h.valid n (List.mem_cons_of_mem _ member) old
  past n member := by
    rcases List.mem_cons.mp member with rfl | old
    · exact h.issued _ List.mem_cons_self
    · exact h.past n old
  connections := (List.nodup_cons.mp h.connections).2
  opened c member := h.opened c (List.mem_cons_of_mem _ member)
  owned := h.owned
  accounted c account := by
    rcases h.accounted c account with used | rest
    · rcases List.mem_cons.mp used with rfl | used
      · exact .inr (.inr gone)
      · exact .inl used
    · exact .inr rest

theorem rewrap (h : Ledger first mine lost (e :: live) p w) (now : Nat) :
    Ledger first mine lost ((p.rewrap e now).1 :: live) ((p.rewrap e now).2.revoke e) w where
  grows := h.grows
  serials := by
    refine List.nodup_cons.mpr ⟨fun member => ?_, (List.nodup_cons.mp h.serials).2⟩
    exact Nat.lt_irrefl _ (h.issued _ (List.mem_cons_of_mem _ member))
  issued n member := by
    rcases List.mem_cons.mp member with rfl | member
    · exact Nat.lt_succ_self _
    · exact Nat.lt_succ_of_lt (h.issued n (List.mem_cons_of_mem _ member))
  valid n member := by
    rcases List.mem_cons.mp member with rfl | member
    · intro old
      rcases List.mem_cons.mp old with same | old
      · have below : e.serial < p.serials := h.issued _ List.mem_cons_self
        exact Nat.ne_of_gt below same
      · exact Nat.lt_irrefl _ (h.past _ old)
    · rintro (_ | ⟨_, old⟩)
      · exact (List.nodup_cons.mp h.serials).1 member
      · exact h.valid n (List.mem_cons_of_mem _ member) old
  past n member := by
    rcases List.mem_cons.mp member with rfl | old
    · exact Nat.lt_succ_of_lt (h.issued _ List.mem_cons_self)
    · exact Nat.lt_succ_of_lt (h.past n old)
  connections := h.connections
  opened := h.opened
  owned := h.owned
  accounted := h.accounted

variable {driver : Driver} {url : String} {properties : Properties}

theorem accountedOpened (h : Ledger first mine lost live p w)
    (opening : w.Opened later driver url properties) {c : Nat}
    (account : mine c ∨ first.connections.length ≤ c ∧ c < later.connections.length) :
    c = w.connections.length ∨ c ∈ live.map Entry.connection ∨ lost c ∨
      first.Tried later (.close c) ∨ later.isClosed c = true := by
  by_cases new : c = w.connections.length
  · exact .inl new
  · have before : mine c ∨ first.connections.length ≤ c ∧ c < w.connections.length := by
      rcases account with own | ⟨from_, below⟩
      · exact .inl own
      · rw [opening.count] at below
        exact .inr ⟨from_, by omega⟩
    rcases h.accounted c before with used | lost | tried | closed
    · exact .inr (.inl used)
    · exact .inr (.inr (.inl lost))
    · exact .inr (.inr (.inr (.inl (tried.later opening.grows))))
    · exact .inr (.inr (.inr (.inr (opening.grows.isClosed (h.known before) closed))))

theorem wrap (h : Ledger first mine lost live p w) (opening : w.Opened later driver url properties)
    {fresh : Entry} (serial : fresh.serial = p.serials)
    (connection : fresh.connection = w.connections.length) :
    Ledger first mine lost (fresh :: live) { p with serials := p.serials + 1 } later where
  grows := h.grows.trans opening.grows
  serials := by
    refine List.nodup_cons.mpr ⟨fun member => ?_, h.serials⟩
    exact Nat.lt_irrefl _ (h.issued _ (serial ▸ member))
  issued n member := by
    rcases List.mem_cons.mp member with rfl | member
    · exact serial ▸ Nat.lt_succ_self _
    · exact Nat.lt_succ_of_lt (h.issued n member)
  valid n member old := by
    rcases List.mem_cons.mp member with rfl | member
    · exact Nat.lt_irrefl _ (h.past _ (serial ▸ old))
    · exact h.valid n member old
  past n old := Nat.lt_succ_of_lt (h.past n old)
  connections := by
    refine List.nodup_cons.mpr ⟨fun member => ?_, h.connections⟩
    exact Nat.lt_irrefl _ (h.opened _ (connection ▸ member))
  opened c member := by
    rw [opening.count]
    rcases List.mem_cons.mp member with rfl | member
    · exact connection ▸ Nat.lt_succ_self _
    · exact Nat.lt_succ_of_lt (h.opened c member)
  owned := h.owned
  accounted c account := by
    rcases h.accountedOpened opening account with rfl | used | rest
    · exact .inl (connection ▸ List.mem_cons_self)
    · exact .inl (List.mem_cons_of_mem _ used)
    · exact .inr rest

theorem unwrapped (h : Ledger first mine lost live p w)
    (opening : w.Opened later driver url properties)
    (tried : w.Tried later (.close w.connections.length)) :
    Ledger first mine lost live p later where
  grows := h.grows.trans opening.grows
  serials := h.serials
  issued := h.issued
  valid := h.valid
  past := h.past
  connections := h.connections
  opened c member := Nat.lt_of_lt_of_le (h.opened c member) opening.grows.count
  owned := h.owned
  accounted c account := by
    rcases h.accountedOpened opening account with rfl | used | rest
    · exact .inr (.inr (.inl (tried.earlier h.grows)))
    · exact .inl used
    · exact .inr rest

theorem next (h : Ledger first mine lost live p w) {mine' lost' : Nat → Prop}
    (more : ∀ c, mine' c → mine c ∨ first.connections.length ≤ c ∧ c < w.connections.length)
    (kept : ∀ c, lost c ∨ first.Tried w (.close c) → lost' c) :
    Ledger w mine' lost' live p w where
  grows := w.growsRefl
  serials := h.serials
  issued := h.issued
  valid := h.valid
  past := h.past
  connections := h.connections
  opened := h.opened
  owned c own := h.known (more c own)
  accounted c account := by
    have own : mine' c := account.elim id fun range => absurd range.2 (Nat.not_lt.mpr range.1)
    rcases h.accounted c (more c own) with used | lost | tried | closed
    · exact .inl used
    · exact .inr (.inl (kept c (.inl lost)))
    · exact .inr (.inl (kept c (.inr tried)))
    · exact .inr (.inr (.inr closed))

theorem outside (h : Ledger w mine lost live p w) (growth : w.Grows later) :
    Ledger later mine lost live p later where
  grows := later.growsRefl
  serials := h.serials
  issued := h.issued
  valid := h.valid
  past := h.past
  connections := h.connections
  opened c member := Nat.lt_of_lt_of_le (h.opened c member) growth.count
  owned c own := Nat.lt_of_lt_of_le (h.owned c own) growth.count
  accounted c account := by
    have own : mine c := account.elim id fun range => absurd range.2 (Nat.not_lt.mpr range.1)
    rcases h.accounted c (.inl own) with used | lost | tried | closed
    · exact .inl used
    · exact .inr (.inl lost)
    · exact absurd tried (w.notTried _)
    · exact .inr (.inr (.inr (growth.isClosed (h.owned c own) closed)))

end Ledger
end ConnectionPool
