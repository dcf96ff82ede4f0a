import ConnectionPool.Pool

/-! How a connection is acquired. An acquire tries the connection that was given back longest ago; if
none is kept, it opens one while the pool allows it; otherwise it takes over the oldest checkout once
that is overdue; otherwise it waits. What turns out to be bad is discarded and the search goes on. An
acquire that has to wait stops as a value, from which it goes on when it is woken. -/
namespace ConnectionPool

structure Attempt where
  username : Option String
  password : Option String
  deadline : Option Nat
  started : Nat
  waited : Bool
  bad : Nat
  deriving DecidableEq, Repr

inductive Outcome where
  | granted (e : Entry)
  | failed (e : Error)
  | waiting (a : Attempt) (since : Nat) (limit : Option Nat)
  deriving DecidableEq, Repr

namespace Pool

def waitLimit (wait : Nat) (deadline : Option Nat) (now : Nat) : Except Error (Option Nat) :=
  match deadline with
  | none => .ok (if wait = 0 then none else some wait)
  | some moment =>
    if moment ≤ now then .error .deadlinePassed
    else .ok (some (if wait = 0 then moment - now else min wait (moment - now)))

variable {σ : Type} [Conditions σ]

def openEntry (p : Pool) (username password : Option String) (w : World σ) :
    Except Error Entry × Pool × World σ :=
  match p.source.openAs username password w with
  | (.error e, w) => (.error e, p, w)
  | (.ok c, w) =>
    let (e, p, w) := p.wrap c w
    (.ok e, p, w)

def takeOver (p : Pool) (oldest : Entry) (rest : List Entry) (w : World σ) :
    Entry × Pool × World σ :=
  let held := oldest.checkoutTime w.clock
  let tally := { p.tally with
    overdueClaims := p.tally.overdueClaims + 1
    overdueTime := p.tally.overdueTime + held
    checkoutTime := p.tally.checkoutTime + held }
  let w := oldest.rollbackIfNeeded.effect w
  let (e, p) := { p with active := rest, tally := tally }.rewrap oldest w.clock
  (e, p.revoke oldest, w)

def candidate (p : Pool) (username password : Option String) (w : World σ) :
    Except Error (Option Entry) × Pool × World σ :=
  match p.idle with
  | e :: rest => (.ok (some e), { p with idle := rest }, w)
  | [] =>
    if p.active.length < p.config.maxActive.toNat then
      match p.openEntry username password w with
      | (.ok e, p, w) => (.ok (some e), p, w)
      | (.error e, p, w) => (.error e, p, w)
    else
      match p.active with
      | [] => (.ok none, p, w)
      | oldest :: rest =>
        if oldest.checkoutTime w.clock ≤ p.config.maxCheckout.nanos then (.ok none, p, w)
        else
          let (e, p, w) := p.takeOver oldest rest w
          (.ok (some e), p, w)

def examine (p : Pool) (e : Entry) (w : World σ) : Bool × World σ :=
  match p.probe e p.config w with
  | (false, w) => (false, w)
  | (true, w) =>
    match e.rollbackIfNeeded w with
    | (.ok (), w) => (true, w)
    | (.error _, w) => (false, w)

def checkOut (p : Pool) (e : Entry) (a : Attempt) (now : Nat) : Entry × Pool :=
  let e := e.checkOut (typeCode p.source.url a.username a.password) now
  (e, { p with
    active := p.active ++ [e]
    tally.requests := p.tally.requests + 1
    tally.requestTime := p.tally.requestTime + (now - a.started) })

def countWait (p : Pool) (a : Attempt) : Pool :=
  if a.waited then p else { p with tally.waits := p.tally.waits + 1 }

/-- Goes on with an acquire until it ends or has to wait, when so many more bad connections may be met
before the one that ends it. -/
def pursue (patience : Nat) (a : Attempt) (p : Pool) (w : World σ) : Outcome × Pool × World σ :=
  if p.shutDown then (.failed .poolClosed, p, w)
  else
    match p.candidate a.username a.password w with
    | (.error e, p, w) => (.failed e, p, w)
    | (.ok none, p, w) =>
      let p := p.countWait a
      match waitLimit p.config.wait.nanos a.deadline w.clock with
      | .error e => (.failed e, p, w)
      | .ok limit => (.waiting { a with waited := true } w.clock limit, p, w)
    | (.ok (some e), p, w) =>
      match p.examine e w with
      | (true, w) =>
        let (e, p) := p.checkOut e a w.clock
        (.granted e, p, w)
      | (false, w) =>
        let (p, w) := p.discard e w
        let p := p.countBad
        match patience with
        | 0 => (.failed .noGoodConnection, p, w)
        | patience + 1 => pursue patience { a with bad := a.bad + 1 } p w

def resume (a : Attempt) (p : Pool) (w : World σ) : Outcome × Pool × World σ :=
  p.pursue (p.config.badLimit - a.bad) a w

def acquire (username password : Option String) (deadline : Option Nat) (p : Pool) (w : World σ) :
    Outcome × Pool × World σ :=
  p.resume ⟨username, password, deadline, w.clock, false, 0⟩ w

def acquireDefault (p : Pool) (w : World σ) : Outcome × Pool × World σ :=
  p.acquire p.source.username p.source.password none w

def wake (a : Attempt) (since : Nat) (p : Pool) (w : World σ) : Outcome × Pool × World σ :=
  resume a { p with tally.waitTime := p.tally.waitTime + (w.clock - since) } w

end Pool
end ConnectionPool
