import ConnectionPool.Document
import ConnectionPool.Properties

/-! Documents taken for plain values: texts, truth values, 64-bit numbers and property maps. -/
namespace ConnectionPool.Document

def momentName : String := "$__toml_private_datetime"

def mismatch {α : Type} (d : Document) (expected : String) : Decoded α :=
  match d with
  | null => .error (.invalidType .null expected)
  | bool b => .error (.invalidType (.bool b) expected)
  | integer n => .error (.invalidType (.integer n) expected)
  | float x => .error (.invalidType (.float x) expected)
  | text s => .error (.invalidType (.text s) expected)
  | list _ => .error (.invalidType .list expected)
  | moment _ | table _ => .error (.invalidType .table expected)
  | unreadable | broken => .error .malformed

def members? : Document → Option (List (Option String × Document))
  | table members => some members
  | moment s => some [(some momentName, text s)]
  | _ => none

def asText : Document → Decoded String
  | text s => .ok s
  | d => d.mismatch "a string"

def asBool : Document → Decoded Bool
  | bool b => .ok b
  | d => d.mismatch "a boolean"

def asNatural (limit : Nat) (expected : String) : Document → Decoded Nat
  | integer n =>
    if 0 ≤ n ∧ n < limit then .ok n.toNat else .error (.invalidValue (.integer n) expected)
  | d => d.mismatch expected

def asUInt64 (expected : String) (d : Document) : Decoded UInt64 :=
  (d.asNatural UInt64.size expected).map (·.toUInt64)

def asUInt32 (d : Document) : Decoded UInt32 := (d.asNatural UInt32.size "u32").map (·.toUInt32)

def asOptionalText : Document → Decoded (Option String)
  | null => .ok none
  | d => d.asText.map some

def gatherProperties : List (Option String × Document) → Properties → Decoded Properties
  | [], p => .ok p
  | (none, _) :: _, _ => .error .malformed
  | (some k, d) :: rest, p =>
    match d.asText with
    | .ok v => gatherProperties rest (p.insert k v)
    | .error e => .error e

def asProperties (d : Document) : Decoded Properties :=
  match d.members? with
  | some members => gatherProperties members .empty
  | none => d.mismatch "a map"

def ofUInt64 (n : UInt64) : Document := integer n.toNat

def ofProperties (p : Properties) : Document := table (p.entries.map fun (k, v) => (some k, text v))

def named (members : List (String × Document)) : Document :=
  table (members.map fun (k, d) => (some k, d))

end ConnectionPool.Document
