import ConnectionPool.Json.Reader
import ConnectionPool.Json.Writer

/-! JSON text taken for values. What is wrong with a value before the text goes wrong is reported
first; a text that is well formed but goes on after the value is refused last. -/
namespace ConnectionPool.Json

def decode {α : Type} (as : Document → Decoded α) (s : String) : Decoded α :=
  let reading := read s.toList
  match as reading.root with
  | .error e => .error e
  | .ok a => if reading.complete then .ok a else .error .malformed

end ConnectionPool.Json
