import ConnectionPool.Proofs.Ledger
import ConnectionPool.Proofs.Release
import ConnectionPool.Proofs.Search

/-! Who has charge of a connection. At any time within a critical section the entries in use are those
of the pool and the one that an acquire has in hand, and the handles that are valid are just those on
the entries that are checked out. Each operation of the pool keeps this, whichever calls fail. -/
namespace ConnectionPool

structure Issued (handles : List Handle) (p : Pool) : Prop where
  serials : (handles.map (·.entry.serial)).Nodup
  known : ∀ h ∈ handles, h.entry.serial < p.serials
  valid : ∀ h ∈ handles, p.valid h.entry = true → h.released = false ∧ h.entry ∈ p.active
  held : ∀ e ∈ p.active, ∃ h ∈ handles, h.entry = e

structure Custody {σ : Type} (first : World σ) (mine lost : Nat → Prop) (handles : List Handle)
    (hand : List Entry) (p : Pool) (w : World σ) : Prop where
  ledger : Ledger first mine lost (hand ++ p.idle ++ p.active) p w
  issued : Issued handles p

namespace Issued

variable {handles : List Handle} {p q : Pool}

theorem narrow (h : Issued handles p) (serials : p.serials ≤ q.serials)
    (fewer : ∀ e ∈ q.active, e ∈ p.active)
    (valid : ∀ e, q.valid e = true → p.valid e = true ∧ (e ∈ p.active → e ∈ q.active)) :
    Issued handles q where
  serials := h.serials
  known x member := Nat.lt_of_lt_of_le (h.known x member) serials
  valid x member good := by
    obtain ⟨good, kept⟩ := valid x.entry good
    obtain ⟨unreleased, active⟩ := h.valid x member good
    exact ⟨unreleased, kept active⟩
  held e member := h.held e (fewer e member)

theorem pool (h : Issued handles p) (serials : q.serials = p.serials) (revoked : q.revoked = p.revoked)
    (active : q.active = p.active) : Issued handles q :=
  h.narrow (Nat.le_of_eq serials.symm) (fun _ member => active ▸ member) fun e good =>
    ⟨by rw [Pool.validIff, ← revoked]; exact Pool.validIff.mp good, fun member => active ▸ member⟩

theorem revoke (h : Issued handles p) (e : Entry) : Issued handles (p.revoke e) := by
  refine h.narrow (Nat.le_refl _) (fun _ member => member) fun f good => ⟨?_, id⟩
  rw [Pool.validIff] at good ⊢
  exact fun old => good (List.mem_cons_of_mem _ old)

theorem checkOut {e : Entry} (h : Issued handles p) (distinct : ∀ x ∈ handles, x.entry.serial ≠ e.serial)
    (known : e.serial < p.serials) (a : Attempt) (now : Nat) :
    Issued (handles ++ [.new (p.checkOut e a now).1]) (p.checkOut e a now).2 where
  serials := by
    rw [List.map_append]
    refine List.nodup_append.mpr ⟨h.serials, by simp, ?_⟩
    rintro n old m new rfl
    obtain ⟨x, member, same⟩ := List.mem_map.mp old
    exact distinct x member (same.trans (List.mem_singleton.mp new))
  known x member := by
    rcases List.mem_append.mp member with old | new
    · exact h.known x old
    · rw [List.mem_singleton.mp new]
      exact known
  valid x member good := by
    rcases List.mem_append.mp member with old | new
    · obtain ⟨unreleased, active⟩ := h.valid x old good
      exact ⟨unreleased, List.mem_append_left _ active⟩
    · rw [List.mem_singleton.mp new]
      exact ⟨rfl, List.mem_append_right _ List.mem_cons_self⟩
  held f member := by
    rcases List.mem_append.mp member with old | new
    · obtain ⟨x, found, same⟩ := h.held f old
      exact ⟨x, List.mem_append_left _ found, same⟩
    · rw [List.mem_singleton.mp new]
      exact ⟨_, List.mem_append_right _ List.mem_cons_self, rfl⟩

theorem giveBack {number : Nat} {x : Handle} (h : Issued handles p)
    (found : handles[number]? = some x) (serials : p.serials ≤ q.serials)
    (valid : ∀ e, q.valid e = true → p.valid e = true ∧ e.serial ≠ x.entry.serial)
    (active : ∀ e, e ∈ q.active ↔ e ∈ p.active ∧ e.serial ≠ x.entry.serial) :
    Issued (handles.set number { x with released := true }) q where
  serials := by
    obtain ⟨bound, rfl⟩ := List.getElem?_eq_some_iff.mp found
    have same : (handles.set number { handles[number] with released := true }).map
        (·.entry.serial) = handles.map (·.entry.serial) := by
      refine List.ext_getElem (by simp) fun i below _ => ?_
      simp only [List.getElem_map, List.getElem_set]
      split
      · subst number; rfl
      · rfl
    rw [same]
    exact h.serials
  known y member := by
    refine Nat.lt_of_lt_of_le ?_ serials
    rcases List.mem_or_eq_of_mem_set member with old | rfl
    · exact h.known y old
    · exact h.known x (List.mem_of_getElem? found)
  valid y member good := by
    obtain ⟨good, other⟩ := valid y.entry good
    rcases List.mem_or_eq_of_mem_set member with old | rfl
    · obtain ⟨unreleased, checkedOut⟩ := h.valid y old good
      exact ⟨unreleased, (active _).mpr ⟨checkedOut, other⟩⟩
    · exact absurd rfl other
  held e member := by
    obtain ⟨member, other⟩ := (active e).mp member
    obtain ⟨y, old, rfl⟩ := h.held e member
    obtain ⟨i, at_⟩ := List.mem_iff_getElem?.mp old
    refine ⟨y, List.mem_iff_getElem?.mpr ⟨i, ?_⟩, rfl⟩
    rw [List.getElem?_set_ne]
    · exact at_
    · rintro rfl
      cases Option.some.inj (found.symm.trans at_)
      exact other rfl

end Issued

namespace Ledger

variable {σ : Type} [Conditions σ] {first w : World σ} {mine lost : Nat → Prop} {live : List Entry}
  {p : Pool} {e : Entry}

theorem discard (h : Ledger first mine lost (e :: live) p w) :
    Ledger first mine lost live (p.discard e w).1 (p.discard e w).2 :=
  (h.called (e.closeCalled w)).drop (.inl ((e.closeTried w).earlier h.grows))

theorem discardAll {gone : List Entry} (h : Ledger first mine lost (gone ++ live) p w) :
    Ledger first mine lost live (Pool.discardAll gone p w).1 (Pool.discardAll gone p w).2 := by
  induction gone generalizing p w with
  | nil => exact h
  | cons e gone ih => exact ih h.discard

omit [Conditions σ] in
theorem absent (h : Ledger first mine lost (p.idle ++ p.active) p w) (bad : p.valid e = false) :
    p.active.eraseP (·.serial == e.serial) = p.active := by
  refine List.eraseP_of_forall_not fun f active same => ?_
  rw [beq_iff_eq] at same
  have good := h.valid f.serial (List.mem_map_of_mem (List.mem_append_right _ active))
  rw [same, ← Pool.validIff, bad] at good
  cases good

theorem keep (h : Ledger first mine lost (e :: (p.idle ++ p.active)) p w) :
    Ledger first mine lost ((p.keep e w).1.idle ++ (p.keep e w).1.active) (p.keep e w).1
      (p.keep e w).2 := by
  have calls := e.callsRollback w
  unfold Pool.keep
  split
  · rename_i rolled
    rw [rolled] at calls
    refine (((h.called calls).rewrap _).perm ?_).pool rfl rfl
    change ((p.idle ++ [_]) ++ p.active).Perm _
    rw [List.append_assoc]
    exact List.perm_middle
  · rename_i failed
    rw [failed] at calls
    exact (h.called calls).discard.pool rfl rfl

theorem release (h : Ledger first mine lost (p.idle ++ p.active) p w)
    (member : p.valid e = true → e ∈ p.active) :
    Ledger first mine lost ((p.release e w).1.idle ++ (p.release e w).1.active) (p.release e w).1
      (p.release e w).2 := by
  have taken (good : p.valid e = true) : Ledger first mine lost
      (e :: (p.idle ++ p.active.eraseP (·.serial == e.serial))) (p.without e w.clock) w := by
    obtain ⟨before, after, split, erased⟩ := Pool.eraseSplit (member good) h.activeSerials
    refine (h.perm ?_).pool rfl rfl
    rw [erased, split, ← List.append_assoc, ← List.append_assoc]
    exact List.perm_middle.symm
  have back := Pool.releaseBack p e w
  generalize p.release e w = r at back
  cases back with
  | invalid bad =>
    rw [h.absent bad]
    exact h.pool rfl rfl
  | closed good closed => exact ((taken good).drop (.inr closed)).pool rfl rfl
  | kept good _ _ result =>
    have kept := keep (p := p.without e w.clock) (taken good)
    rw [result] at kept
    exact kept.pool rfl rfl
  | surplus good => exact (taken good).discard.pool rfl rfl

theorem closeAll (h : Ledger first mine lost (p.idle ++ p.active) p w) :
    Ledger first mine lost [] (p.closeAll w).1 (p.closeAll w).2 := by
  refine discardAll ((h.perm ?_).pool rfl rfl)
  rw [List.append_nil]
  exact (p.active.reverse_perm.append p.idle.reverse_perm).trans List.perm_append_comm

end Ledger

namespace Custody

variable {σ : Type} {first w later : World σ} {mine lost : Nat → Prop} {handles : List Handle}
  {hand : List Entry} {p q : Pool} {e : Entry} {h : Handle}

theorem called (h : Custody first mine lost handles hand p w) (calls : w.Called later) :
    Custody first mine lost handles hand p later :=
  ⟨h.ledger.called calls, h.issued⟩

theorem checkedOutValid (custody : Custody first mine lost handles [] p w) (member : e ∈ p.active) :
    p.valid e = true :=
  Pool.validIff.mpr (custody.ledger.valid _ (List.mem_map_of_mem (List.mem_append_right _ member)))

theorem handleValid (custody : Custody first mine lost handles [] p w) (member : h ∈ handles) :
    h.valid p = true ↔ h.entry ∈ p.active := by
  simp only [Handle.valid, Bool.and_eq_true, Bool.not_eq_true']
  constructor
  · exact fun good => (custody.issued.valid h member good.2).2
  · intro active
    have good := custody.checkedOutValid active
    exact ⟨(custody.issued.valid h member good).1, good⟩

theorem outstanding (custody : Custody first mine lost handles [] p w) :
    ((handles.filter (·.valid p)).map (·.entry)).Perm p.active := by
  have entries : ((handles.filter (·.valid p)).map (·.entry)).Nodup := by
    have serials := custody.issued.serials.sublist ((List.filter_sublist (p := (·.valid p))).map
      (fun h : Handle => h.entry.serial))
    refine List.Nodup.of_map Entry.serial ?_
    rw [List.map_map]
    exact serials
  refine (List.perm_ext_iff_of_nodup entries custody.ledger.activeSerials.of_map).mpr fun e => ?_
  simp only [List.mem_map, List.mem_filter]
  constructor
  · rintro ⟨h, ⟨member, good⟩, rfl⟩
    exact (custody.handleValid member).mp good
  · intro active
    obtain ⟨h, member, rfl⟩ := custody.issued.held e active
    exact ⟨h, ⟨member, (custody.handleValid member).mpr active⟩, rfl⟩

theorem pool (h : Custody first mine lost handles hand p w) (serials : q.serials = p.serials)
    (revoked : q.revoked = p.revoked) (idle : q.idle = p.idle) (active : q.active = p.active) :
    Custody first mine lost handles hand q w :=
  ⟨by rw [idle, active]; exact h.ledger.pool serials revoked, h.issued.pool serials revoked active⟩

variable [Conditions σ]

theorem discard (h : Custody first mine lost handles (e :: hand) p w) :
    Custody first mine lost handles hand (p.discard e w).1 (p.discard e w).2 :=
  ⟨h.ledger.discard, h.issued.revoke e⟩

theorem takeOver {oldest : Entry} {rest : List Entry} (h : Custody first mine lost handles [] p w)
    (active : p.active = oldest :: rest) (taken : p.takeOver oldest rest w = (e, q, later)) :
    Custody first mine lost handles [e] q later := by
  have calls := oldest.callsRollback w
  cases taken
  have live : Ledger first mine lost (oldest :: (p.idle ++ rest)) p w := by
    refine h.ledger.perm ?_
    rw [active]
    exact List.perm_middle.symm
  refine ⟨((live.called calls).rewrap _).pool rfl rfl, ?_⟩
  refine h.issued.narrow (Nat.le_succ _) (fun f member => active ▸ List.mem_cons_of_mem _ member)
    fun f good => ?_
  rw [Pool.validIff] at good ⊢
  refine ⟨fun old => good (List.mem_cons_of_mem _ old), fun member => ?_⟩
  rw [active] at member
  rcases List.mem_cons.mp member with rfl | member
  · exact absurd List.mem_cons_self good
  · exact member

theorem openOk {username password : Option String} (h : Custody first mine lost handles [] p w)
    (opened : p.openEntry username password w = (.ok e, q, later)) :
    Custody first mine lost handles [e] q later := by
  obtain ⟨serial, connection, rfl, opening⟩ := Pool.openEntryOk opened
  refine ⟨h.ledger.wrap opening serial connection, ?_⟩
  exact h.issued.narrow (Nat.le_succ _) (fun _ member => member) fun _ good => ⟨good, id⟩

theorem openError {username password : Option String} {x : Error}
    (h : Custody first mine lost handles [] p w)
    (failed : p.openEntry username password w = (.error x, q, later)) :
    Custody first mine lost handles [] q later := by
  obtain ⟨rfl, calls | ⟨opening, tried⟩⟩ := Pool.openEntryError failed
  · exact h.called calls
  · exact ⟨h.ledger.unwrapped opening tried, h.issued⟩

theorem search (first : World σ) (mine lost : Nat → Prop) (handles : List Handle)
    (username password : Option String) :
    Pool.Search username password (Custody first mine lost handles [])
      (fun e => Custody first mine lost handles [e]) where
  reuse h idle := by
    have ledger := h.ledger
    rw [idle] at ledger
    exact ⟨ledger.pool rfl rfl, h.issued.pool rfl rfl rfl⟩
  openOk h _ _ opened := h.openOk opened
  openError h _ _ failed := h.openError failed
  takeOver h _ active _ taken := h.takeOver active taken
  examine h := h.called (Pool.examineCalled _ _ _)
  discard h := h.discard.pool rfl rfl rfl rfl
  countWait h := by
    unfold Pool.countWait
    split
    · exact h
    · exact h.pool rfl rfl rfl rfl

omit [Conditions σ] in
/- The handle on a candidate is the only one on its entry: another one would be valid, so that its entry
would be checked out besides being in hand. -/
theorem checkOut (h : Custody first mine lost handles [e] p w) (a : Attempt) (now : Nat) :
    Custody first mine lost (handles ++ [.new (p.checkOut e a now).1]) [] (p.checkOut e a now).2 w := by
  have distinct : ∀ x ∈ handles, x.entry.serial ≠ e.serial := by
    intro x member same
    have unrevoked := h.ledger.valid e.serial List.mem_cons_self
    have active := (h.issued.valid x member (Pool.validIff.mpr (same ▸ unrevoked))).2
    refine (List.nodup_cons.mp h.ledger.serials).1 (List.mem_map.mpr ⟨x.entry, ?_, same⟩)
    exact List.mem_append_right _ active
  have moved (f : Entry → Nat) (same : f (p.checkOut e a now).1 = f e) :
      ((p.idle ++ (p.active ++ [(p.checkOut e a now).1])).map f).Perm
        (([e] ++ p.idle ++ p.active).map f) := by
    simp only [List.map_append, List.map_cons, List.map_nil, same, ← List.append_assoc]
    rw [List.append_assoc [f e]]
    exact List.perm_append_comm
  exact ⟨(h.ledger.rearrange (moved _ rfl) (moved _ rfl)).pool rfl rfl,
    h.issued.checkOut distinct (h.ledger.issued e.serial List.mem_cons_self) a now⟩

theorem giveBack {number : Nat} {x : Handle} (h : Custody first mine lost handles [] p w)
    (found : handles[number]? = some x) :
    Custody first mine lost (handles.set number (x.giveBack p w).1) [] (x.giveBack p w).2.1
      (x.giveBack p w).2.2 := by
  unfold Handle.giveBack
  split
  · obtain ⟨bound, rfl⟩ := List.getElem?_eq_some_iff.mp found
    rw [List.set_getElem_self]
    exact h
  · obtain ⟨valid, active, serials⟩ := p.releaseAccount x.entry w
    refine ⟨h.ledger.release fun good => (h.issued.valid x (List.mem_of_getElem? found) good).2, ?_⟩
    exact h.issued.giveBack found serials valid fun e => by
      rw [active, Pool.memErase h.ledger.activeSerials]

theorem closeAll (h : Custody first mine lost handles [] p w) :
    Custody first mine lost handles [] (p.closeAll w).1 (p.closeAll w).2 := by
  have closed := h.ledger.closeAll
  rw [p.closeAllPool w] at closed ⊢
  refine ⟨closed, h.issued.narrow (Nat.le_refl _) (fun e member => nomatch member) fun e good => ?_⟩
  rw [Pool.validIff, List.mem_append, not_or] at good
  refine ⟨Pool.validIff.mpr good.2, fun member => absurd ?_ good.1⟩
  rw [List.mem_reverse]
  exact List.mem_map_of_mem (List.mem_append_left _ (List.mem_reverse.mpr member))

theorem reconfigure {change : Pool → Pool} (h : Custody first mine lost handles [] p w)
    (keeps : Pool.KeepsEntries change) :
    Custody first mine lost handles [] (p.reconfigure change w).1 (p.reconfigure change w).2 := by
  obtain ⟨idle, active, serials, revoked, _⟩ := keeps p
  have closed := (h.pool (q := change p) serials revoked idle active).closeAll
  exact closed.pool rfl rfl rfl rfl

end Custody
end ConnectionPool
