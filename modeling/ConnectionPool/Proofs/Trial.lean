import ConnectionPool.Proofs.Search

/-! The candidates of an acquire. In the course of one critical section an acquire has one entry after
the other in hand; each but the last was bad and is gone. A law that a search keeps holds of every one
of them, and what is granted is the one that was good. -/
namespace ConnectionPool.Pool

variable {σ : Type} [Conditions σ]

inductive Tries (username password : Option String) :
    Nat → Pool → World σ → Entry → Pool → World σ → Prop where
  | first {patience p w e q now} (going : p.shutDown = false)
      (found : p.candidate username password w = (.ok (some e), q, now)) :
      Tries username password patience p w e q now
  | next {patience p w f q v after e r now} (going : p.shutDown = false)
      (found : p.candidate username password w = (.ok (some f), q, v))
      (bad : q.examine f v = (false, after))
      (rest : Tries username password patience (q.discard f after).1.countBad
        (q.discard f after).2 e r now) :
      Tries username password (patience + 1) p w e r now

variable {username password : Option String} {Rest : Pool → World σ → Prop}
  {Held : Entry → Pool → World σ → Prop} {p q r : Pool} {w now after later : World σ} {a : Attempt}
  {e k : Entry} {patience : Nat} {o : Outcome}

theorem Search.found (s : Search username password Rest Held) (rest : Rest p w)
    (found : p.candidate username password w = (.ok (some e), q, now)) : Held e q now := by
  rcases s.candidate rest found with ⟨f, same, held⟩ | ⟨none, _⟩ | ⟨f, error, _⟩
  · cases same
    exact held
  · cases none
  · cases error

theorem Search.lastRound (s : Search username password Rest Held) (rest : Rest p w)
    (tries : Tries username password patience p w e q now) :
    ∃ (r : Pool) (v : World σ), Rest r v ∧ r.candidate username password v = (.ok (some e), q, now) := by
  induction tries with
  | first going found => exact ⟨_, _, rest, found⟩
  | next going found bad _ ih =>
    have examined := s.examine (s.found rest found)
    rw [bad] at examined
    exact ih (s.discard examined)

theorem Search.tried (s : Search username password Rest Held) (rest : Rest p w)
    (tries : Tries username password patience p w e q now) : Held e q now := by
  obtain ⟨_, _, rest, found⟩ := s.lastRound rest tries
  exact s.found rest found

theorem pursueBad (going : p.shutDown = false)
    (found : p.candidate a.username a.password w = (.ok (some e), q, now))
    (bad : q.examine e now = (false, after)) :
    p.pursue patience a w = match patience with
      | 0 => (.failed .noGoodConnection, (q.discard e after).1.countBad, (q.discard e after).2)
      | patience + 1 => (q.discard e after).1.countBad.pursue patience { a with bad := a.bad + 1 }
          (q.discard e after).2 := by
  rw [pursue.eq_def, going, if_neg Bool.false_ne_true, found]
  cases patience <;> simp only [bad]

theorem pursueGood (going : p.shutDown = false)
    (found : p.candidate a.username a.password w = (.ok (some e), q, now))
    (good : q.examine e now = (true, after)) :
    p.pursue patience a w = (.granted (q.checkOut e a after.clock).1, (q.checkOut e a after.clock).2,
      after) := by
  rw [pursue.eq_def, going, if_neg Bool.false_ne_true, found]
  simp only [good]

theorem pursueGoing (h : p.pursue patience a w = (o, q, later)) (other : o ≠ .failed .poolClosed) :
    p.shutDown = false := by
  cases stopped : p.shutDown with
  | false => rfl
  | true =>
    rw [pursue.eq_def, if_pos stopped] at h
    cases h
    exact absurd rfl other

theorem grantedRound (h : p.pursue patience a w = (.granted k, q, later)) :
    ∃ (e : Entry) (r : Pool) (now : World σ), p.shutDown = false ∧
      p.candidate a.username a.password w = (.ok (some e), r, now) ∧
      (r.examine e now = (true, later) ∧ r.checkOut e a later.clock = (k, q) ∨
        ∃ after n, r.examine e now = (false, after) ∧ patience = n + 1 ∧
          (r.discard e after).1.countBad.pursue n { a with bad := a.bad + 1 }
            (r.discard e after).2 = (.granted k, q, later)) := by
  have going := pursueGoing h nofun
  cases found : p.candidate a.username a.password w with
  | mk candidate rest =>
    obtain ⟨r, now⟩ := rest
    rcases candidate with error | none | e
    · rw [pursue.eq_def, going, if_neg Bool.false_ne_true, found] at h
      cases h
    · rw [pursue.eq_def, going, if_neg Bool.false_ne_true, found] at h
      dsimp only at h
      split at h <;> cases h
    · refine ⟨e, r, now, going, rfl, ?_⟩
      cases examined : r.examine e now with
      | mk good after =>
        cases good with
        | true =>
          rw [pursueGood going found examined] at h
          cases h
          exact .inl ⟨rfl, rfl⟩
        | false =>
          rw [pursueBad going found examined] at h
          cases patience with
          | zero => cases h
          | succ n => exact .inr ⟨after, n, rfl, rfl, h⟩

theorem grantedTried (h : p.pursue patience a w = (.granted k, q, later)) :
    ∃ (e : Entry) (r : Pool) (now : World σ), Tries a.username a.password patience p w e r now ∧
      r.examine e now = (true, later) ∧ r.checkOut e a later.clock = (k, q) := by
  induction patience generalizing a p w with
  | zero =>
    obtain ⟨e, r, now, going, found, ⟨good, granted⟩ | ⟨_, n, _, more, _⟩⟩ := grantedRound h
    · exact ⟨e, r, now, .first going found, good, granted⟩
    · cases more
  | succ patience ih =>
    obtain ⟨e, r, now, going, found, ⟨good, granted⟩ | ⟨after, n, bad, more, h⟩⟩ := grantedRound h
    · exact ⟨e, r, now, .first going found, good, granted⟩
    · cases more
      obtain ⟨e, r, now, tries, good, granted⟩ := ih h
      exact ⟨e, r, now, .next going found bad tries, good, granted⟩

theorem Search.afterBad (s : Search username password Rest Held)
    (tries : Tries username password patience p w e q now) (bad : q.examine e now = (false, after))
    (rest : Rest (q.discard e after).1.countBad (q.discard e after).2)
    (user : a.username = username) (word : a.password = password)
    (h : p.pursue patience a w = (o, r, later)) : Ends Rest Held a o r later := by
  induction tries generalizing a with
  | @first patience p w e q now going found =>
    subst user word
    rw [pursueBad going found bad] at h
    cases patience with
    | zero =>
      cases h
      exact .failed rest
    | succ n => exact (s.pursue (a := { a with bad := a.bad + 1 }) rest h).recount
  | next going found met _ ih =>
    subst user word
    rw [pursueBad going found met] at h
    exact (ih (a := { a with bad := a.bad + 1 }) bad rest rfl rfl h).recount

end ConnectionPool.Pool
