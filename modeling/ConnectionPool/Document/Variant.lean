import ConnectionPool.Document.Decode
import ConnectionPool.Isolation
import ConnectionPool.Value

/-! Documents taken for one of several named kinds of value. A kind without content is its name; in
JSON a kind with content is a table of one member, named for the kind. -/
namespace ConnectionPool

namespace Isolation

def decodeName (name : String) : Decoded Isolation :=
  match ofTag? name with
  | some level => .ok level
  | none => .error (.unknownVariant name (all.map tag))

/-- A level is its name, or a table of one member with that name and nothing in it: `null` in JSON,
an empty table or list in TOML. -/
def decode : Format → Document → Decoded Isolation
  | _, .text s => decodeName s
  | .json, .table ((some name, d) :: rest) => do
    let level ← decodeName name
    match d with
    | .null => if rest.isEmpty then .ok level else .error .malformed
    | d => d.mismatch "unit"
  | .toml, .table [(some name, d)] => do
    let level ← decodeName name
    match d with
    | .table [] | .list [] => .ok level
    | _ => .error .malformed
  | _, _ => .error .malformed

def decodeOptional (format : Format) : Document → Decoded (Option Isolation)
  | .null => .ok none
  | d => (decode format d).map some

def encode (level : Isolation) : Document := .text level.tag

end Isolation

namespace Value

def kinds : List String := ["Null", "Bool", "Int64", "Float64", "String"]

def asInt64 : Document → Decoded Int64
  | .integer n =>
    if -0x8000000000000000 ≤ n ∧ n < 0x8000000000000000 then .ok (Int64.ofInt n)
    else .error (.invalidValue (.integer n) "i64")
  | d => d.mismatch "i64"

def asFloat : Document → Decoded Float
  | .float x => .ok x
  | .integer (.ofNat n) => .ok n.toUInt64.toFloat
  | .integer (.negSucc n) => .ok (-(n + 1).toUInt64.toFloat)
  | d => d.mismatch "f64"

def decodeContent (kind : String) (d : Document) : Decoded Value :=
  match kind with
  | "Null" => match d with
    | .null => .ok .null
    | d => d.mismatch "unit"
  | "Bool" => d.asBool.map bool
  | "Int64" => (asInt64 d).map int
  | "Float64" => (asFloat d).map float
  | "String" => d.asText.map text
  | _ => .error (.unknownVariant kind kinds)

def decode : Document → Decoded Value
  | .text s =>
    if s = "Null" then .ok null
    else if s ∈ kinds then .error (.invalidType .bareVariant "newtype variant")
    else .error (.unknownVariant s kinds)
  | .table ((some kind, d) :: rest) => do
    let value ← decodeContent kind d
    if rest.isEmpty then .ok value else .error .malformed
  | _ => .error .malformed

def decodeAll : Document → Decoded (List Value)
  | .list items => items.mapM decode
  | d => d.mismatch "a sequence"

def encode : Value → Document
  | null => .text "Null"
  | bool b => .named [("Bool", .bool b)]
  | int n => .named [("Int64", .integer n.toInt)]
  | float x => .named [("Float64", .float x)]
  | text s => .named [("String", .text s)]

end Value
end ConnectionPool
