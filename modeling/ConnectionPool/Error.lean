/-! What can go wrong between a caller, the pool and a database, and how it is put into words. -/
namespace ConnectionPool

inductive Error where
  | connection (text : String)
  | query (text : String)
  | driver (text : String)
  | configuration (text : String)
  | io (text : String)
  | notSupported (text : String)
  | poolExhausted (text : String)
  | poolClosed
  | timeout (text : String)
  | other (text : String)
  deriving DecidableEq, Repr

namespace Error

def kind : Error → String
  | connection _ => "Connection"
  | query _ => "Query"
  | driver _ => "Driver"
  | configuration _ => "Configuration"
  | io _ => "Io"
  | notSupported _ => "NotSupported"
  | poolExhausted _ => "PoolExhausted"
  | poolClosed => "PoolClosed"
  | timeout _ => "Timeout"
  | other _ => "Other"

def message : Error → String
  | connection text => "Connection error: " ++ text
  | query text => "Query error: " ++ text
  | driver text => "Driver error: " ++ text
  | configuration text => "Configuration error: " ++ text
  | io text => "IO error: " ++ text
  | notSupported text => "Not supported: " ++ text
  | poolExhausted text => "Pool exhausted: " ++ text
  | poolClosed => "Pool closed"
  | timeout text => "Timeout: " ++ text
  | other text => text

def ofKind? (name text : String) : Option Error :=
  [connection text, query text, driver text, configuration text, io text, notSupported text,
    poolExhausted text, poolClosed, timeout text, other text].find? (·.kind == name)

def invalidHandle : Error :=
  connection "Error accessing pooled connection: connection is invalid"

def alreadyClosed : Error :=
  connection "Error accessing pooled connection: connection is already closed"

def closedConnection : Error := connection "connection closed"

def noGoodConnection : Error := poolExhausted "Could not get a good connection to the database"

def deadlinePassed : Error := timeout "Timed out waiting for a pooled connection"

def unknownDriver (name : String) : Error := driver ("Unknown driver: " ++ name)

end Error
end ConnectionPool
