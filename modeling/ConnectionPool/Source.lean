import ConnectionPool.Database
import ConnectionPool.Text.Quoted

/-! A data source without a pool: where connections are opened to and as whom, and the session that
each of them is given. -/
namespace ConnectionPool

structure Source where
  driver : Driver
  url : String
  username : Option String := none
  password : Option String := none
  properties : Properties := .empty
  autoCommit : Bool := true
  isolation : Option Isolation := none
  deriving DecidableEq, Repr

namespace Source

def propertiesFor (s : Source) (username password : Option String) : Properties :=
  (s.properties.insertSome "user" username).insertSome "password" password

variable {σ : Type} [Conditions σ]

def configure (s : Source) (c : Nat) : Action σ Unit := do
  if (← Database.autoCommit c) != s.autoCommit then
    Database.setAutoCommit c s.autoCommit
  match s.isolation with
  | none => return
  | some level =>
    if (← Database.isolation c) != some level then
      Database.setIsolation c level

def openAs (s : Source) (username password : Option String) : Action σ Nat := do
  let c ← Database.connect s.driver s.url (s.propertiesFor username password)
  match ← (s.configure c).attempt with
  | .ok () => return c
  | .error e =>
    let _ ← (Database.close c).attempt
    Action.fail e

def openDefault (s : Source) : Action σ Nat := s.openAs s.username s.password

def debug (s : Source) : String :=
  Text.record "UnpooledDataSource" [
    ("driver", Text.quoted s.driver.name),
    ("url", Text.quoted s.url),
    ("username", Text.optional (s.username.map Text.quoted)),
    ("password", Text.optional (s.password.map fun _ => Text.quoted "<redacted>")),
    ("auto_commit", toString s.autoCommit),
    ("default_transaction_isolation", Text.optional (s.isolation.map Isolation.debug))]

end Source
end ConnectionPool
