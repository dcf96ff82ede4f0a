import ConnectionPool.Config
import ConnectionPool.Document.Variant

/-! The settings of a data source: which driver opens its connections, to where and as whom, with
which session defaults, and how the pool of them is configured. -/
namespace ConnectionPool

structure Settings where
  driver : String
  url : String
  username : Option String
  password : Option String
  autoCommit : Bool
  isolation : Option Isolation
  properties : Properties
  pool : Config
  deriving DecidableEq, Repr

namespace Settings

def new (driver url : String) : Settings :=
  ⟨driver, url, none, none, true, none, .empty, .standard⟩

def shape : Shape Settings where
  expected := "struct DataSourceSettings"
  expectedList := "struct DataSourceSettings with 8 elements"
  blank := new "" ""
  closed := false
  fields := [
    .of "driver" true (fun _ d => d.asText) (fun s => some (.text s)) (·.driver)
      (fun v s => { s with driver := v }),
    .of "url" true (fun _ d => d.asText) (fun s => some (.text s)) (·.url)
      (fun v s => { s with url := v }),
    .of "username" false (fun _ d => d.asOptionalText) (fun s => s.map .text) (·.username)
      (fun v s => { s with username := v }),
    .of "password" false (fun _ d => d.asOptionalText) (fun s => s.map .text) (·.password)
      (fun v s => { s with password := v }),
    .of "auto_commit" false (fun _ d => d.asBool) (fun b => some (.bool b)) (·.autoCommit)
      (fun v s => { s with autoCommit := v }),
    .of "transaction_isolation" false Isolation.decodeOptional (fun l => l.map Isolation.encode)
      (·.isolation) (fun v s => { s with isolation := v }),
    .of "properties" false (fun _ d => d.asProperties) (fun p => some (.ofProperties p))
      (·.properties) (fun v s => { s with properties := v }),
    .of "pool" false Config.shape.decode (fun c => some (Config.shape.encode c)) (·.pool)
      (fun v s => { s with pool := v })]

def debug (s : Settings) : String :=
  Text.record "DataSourceSettings" [
    ("driver", Text.quoted s.driver),
    ("url", Text.quoted s.url),
    ("username", Text.optional (s.username.map Text.quoted)),
    ("password", Text.optional (s.password.map fun _ => Text.quoted "***")),
    ("auto_commit", toString s.autoCommit),
    ("transaction_isolation", Text.optional (s.isolation.map Isolation.debug)),
    ("properties", Text.mapping s.properties.entries),
    ("pool", s.pool.debug)]

end Settings
end ConnectionPool
