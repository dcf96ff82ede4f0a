import ConnectionPool.Document.Decode

/-! Records as documents. A shape lists the fields of a record with how each is read and written. A
record is read from a table, whose members come in any order, or from a list, whose items are its
fields in order. The first thing that is wrong in the order of the document is what is reported;
only then are missing fields looked for, in the order of the shape. -/
namespace ConnectionPool

structure Field (α : Type) where
  name : String
  required : Bool
  read : Format → Document → α → Decoded α
  write : α → Option Document

structure Shape (α : Type) where
  expected : String
  expectedList : String
  blank : α
  fields : List (Field α)
  closed : Bool

def Field.of {α β : Type} (name : String) (required : Bool) (read : Format → Document → Decoded β)
    (write : β → Option Document) (get : α → β) (set : β → α → α) : Field α where
  name := name
  required := required
  read := fun format d a => (read format d).map (set · a)
  write := fun a => write (get a)

namespace Shape

variable {α β : Type}

def names (shape : Shape α) : List String := shape.fields.map (·.name)

def readMembers (shape : Shape α) (format : Format) :
    List (Option String × Document) → List String → α → Decoded (List String × α)
  | [], seen, a => .ok (seen, a)
  | (none, _) :: _, _, _ => .error .malformed
  | (some name, d) :: rest, seen, a =>
    match shape.fields.find? (·.name == name) with
    | none =>
      if shape.closed then .error (.unknownField name shape.names)
      else shape.readMembers format rest seen a
    | some field =>
      if name ∈ seen then .error (.duplicateField name)
      else match field.read format d a with
        | .ok a => shape.readMembers format rest (name :: seen) a
        | .error e => .error e

/-- Reads items as the fields that are left, of which the first is at a position. Once the last
field is read the record is finished; items beyond it are looked for only then, and are an error in
JSON alone. -/
def readItems (finish : α → Decoded β) (expectedList : String) (format : Format) :
    List (Field α) → List Document → Nat → α → Decoded β
  | [], items, _, a =>
    match finish a with
    | .ok b => if format = .json ∧ ¬items.isEmpty then .error .malformed else .ok b
    | .error e => .error e
  | field :: fields, [], position, a =>
    if field.required then .error (.invalidLength position expectedList)
    else readItems finish expectedList format fields [] (position + 1) a
  | field :: fields, d :: items, position, a =>
    match field.read format d a with
    | .ok a => readItems finish expectedList format fields items (position + 1) a
    | .error e => .error e

def missing? (shape : Shape α) (seen : List String) : Option String :=
  (shape.fields.find? fun field => field.required && !seen.contains field.name).map (·.name)

def decodeAs (shape : Shape α) (finish : α → Decoded β) (format : Format) (d : Document) :
    Decoded β :=
  match d.members?, d with
  | some members, _ =>
    match shape.readMembers format members [] shape.blank with
    | .error e => .error e
    | .ok (seen, a) =>
      match shape.missing? seen with
      | some name => .error (.missingField name)
      | none => finish a
  | none, .list items =>
    readItems finish shape.expectedList format shape.fields items 0 shape.blank
  | none, d => d.mismatch shape.expected

def decode (shape : Shape α) : Format → Document → Decoded α := shape.decodeAs .ok

def encode (shape : Shape α) (a : α) : Document :=
  .named (shape.fields.filterMap fun field => (field.write a).map (field.name, ·))

end Shape
end ConnectionPool
