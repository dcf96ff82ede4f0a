import ConnectionPool.Error
import ConnectionPool.Settings
import ConnectionPool.Toml.Reader
import ConnectionPool.Toml.Writer

/-! Settings as TOML text and as files. -/
namespace ConnectionPool.Settings

inductive File where
  | missing
  | directory
  | content (bytes : ByteArray)

def lastLine (s : String) : String :=
  String.ofList (s.toList.reverse.takeWhile (· != '\n')).reverse

def brief (report : String) : String :=
  let line := lastLine report
  let telling := ["missing field", "unknown variant", "invalid type", "invalid value"]
  if telling.any (fun start => start.toList.isPrefixOf line.toList) then line else "<other>"

def ofToml (s : String) : Except Error Settings :=
  let found := match Toml.read s.toList with
    | .ok d => (shape.decode .toml d).mapError (DecodeError.message .toml)
    | .error failure => .error (Toml.Failure.message failure)
  found.mapError fun report =>
    .configuration ("Failed to parse data source settings: " ++ brief report)

def toToml (s : Settings) : Except Error String :=
  match Toml.write? (shape.encode s) with
  | some text => .ok (String.ofList text)
  | none =>
    .error (.configuration "Failed to serialize data source settings: out-of-range value for u64 type")

def ofFile : File → Except Error Settings
  | .missing => .error (.io "No such file or directory (os error 2)")
  | .directory => .error (.io "Is a directory (os error 21)")
  | .content bytes =>
    match String.fromUTF8? bytes with
    | some s => ofToml s
    | none => .error (.io "stream did not contain valid UTF-8")

end ConnectionPool.Settings
