import ConnectionPool.Toml.Failure

/-! TOML documents as trees, and the rules by which the statements of a document build one: which
table a header or a dotted key leads to, and what may not be given twice. -/
namespace ConnectionPool.Toml

inductive Kind where
  | defined
  | implied
  | dotted
  deriving DecidableEq, Repr

inductive Tree where
  | text (s : String)
  | integer (n : Int)
  | float (x : Float)
  | bool (b : Bool)
  | moment (s : String)
  | list (items : List Tree)
  | inline (members : List (String × Tree))
  | table (kind : Kind) (members : List (String × Tree))
  | tables (rows : List (List (String × Tree)))

def Tree.kind : Tree → String
  | .text _ => "string"
  | .integer _ => "integer"
  | .float _ => "float"
  | .bool _ => "boolean"
  | .moment _ => "datetime"
  | .list _ => "array"
  | .inline _ => "inline table"
  | .table .. => "table"
  | .tables _ => "array of tables"

inductive Way where
  | header
  | line (table : List String)
  | braces
  deriving DecidableEq, Repr

namespace Way

def makes : Way → Kind
  | header => .implied
  | line _ | braces => .dotted

def stopsAt (way : Way) (kind : Kind) : Bool := way ≠ .header && kind == .defined

def refusal (way : Way) (path : List String) (name : String) : Tree → Conflict
  | .inline members =>
    if way = .braces then .repeated name none else .throughValue path (Tree.inline members).kind
  | v => .throughValue path v.kind

def table? : Way → Option (List String)
  | line table => some table
  | header | braces => none

end Way

structure Table where
  kind : Kind
  members : List (String × Tree)

namespace Table

def root : Table := ⟨.defined, []⟩

def get? (t : Table) (name : String) : Option Tree := t.members.lookup name

def add (t : Table) (name : String) (v : Tree) : Table := { t with members := t.members ++ [(name, v)] }

def replace (t : Table) (name : String) (v : Tree) : Table :=
  { t with members := t.members.map fun (k, old) => if k = name then (k, v) else (k, old) }

def remove (t : Table) (name : String) : Table :=
  { t with members := t.members.filter fun (k, _) => k ≠ name }

/-- Changes the table at the end of a path, of which a part lies behind; tables that are missing on
the way are made. A path of dotted keys may not lead through a table that has a header, and no path
leads through a value. The path through an array of tables leads through its last one. -/
def alter (way : Way) (change : Table → Except Conflict Table) :
    List String → List String → Table → Except Conflict Table
  | _, [], t => change t
  | behind, name :: path, t =>
    let behind := behind ++ [name]
    match t.get? name with
    | none =>
      (alter way change behind path ⟨way.makes, []⟩).map fun sub =>
        t.add name (.table sub.kind sub.members)
    | some (.table kind members) =>
      if way.stopsAt kind then .error (.repeated name none)
      else (alter way change behind path ⟨kind, members⟩).map fun sub =>
        t.replace name (.table sub.kind sub.members)
    | some (.tables rows) =>
      (alter way change behind path ⟨.defined, rows.getLast?.getD []⟩).map fun sub =>
        t.replace name (.tables (rows.dropLast ++ [sub.members]))
    | some v => .error (way.refusal behind name v)

def set (owner : Option (List String)) (viaDots : Bool) (name : String) (v : Tree) (t : Table) :
    Except Conflict Table :=
  if (t.kind == .dotted) == !viaDots then .error (.repeated name none)
  else if (t.get? name).isSome then .error (.repeated name owner)
  else .ok (t.add name v)

def assign (way : Way) (path : List String) (name : String) (v : Tree) :
    Table → Except Conflict Table :=
  alter way (set way.table? (!path.isEmpty) name v) [] path

/-- Opens a table by its header. Only a table that is merely implied may exist already; it moves to
the end of its parent. -/
def define (path : List String) (name : String) (t : Table) : Except Conflict Table :=
  match t.get? name with
  | none => .ok (t.add name (.table .defined []))
  | some (.table .implied members) => .ok ((t.remove name).add name (.table .defined members))
  | some _ => .error (.reopened path name)

def extend (path : List String) (name : String) (t : Table) : Except Conflict Table :=
  match t.get? name with
  | none => .ok (t.add name (.tables [[]]))
  | some (.tables rows) => .ok (t.replace name (.tables (rows ++ [[]])))
  | some _ => .error (.reopened path name)

end Table

inductive Statement where
  | assign (path : List String) (name : String) (v : Tree)
  | define (path : List String) (name : String)
  | extend (path : List String) (name : String)

structure Draft where
  table : Table
  current : List String

namespace Draft

def start : Draft := ⟨.root, []⟩

def apply (d : Draft) : Statement → Except Conflict Draft
  | .assign path name v =>
    let change := Table.assign (.line d.current) path name v
    (Table.alter .header change [] d.current d.table).map fun t => ⟨t, d.current⟩
  | .define path name =>
    (Table.alter .header (Table.define path name) [] path d.table).map fun t => ⟨t, path ++ [name]⟩
  | .extend path name =>
    (Table.alter .header (Table.extend path name) [] path d.table).map fun t => ⟨t, path ++ [name]⟩

end Draft

def build (statements : List Statement) : Except Conflict Table :=
  (statements.foldlM Draft.apply .start).map (·.table)

mutual

def Tree.toDocument : Tree → Document
  | .text s => .text s
  | .integer n => .integer n
  | .float x => .float x
  | .bool b => .bool b
  | .moment s => .moment s
  | .list items => .list (listDocuments items)
  | .inline members => .table (memberDocuments members)
  | .table _ members => .table (memberDocuments members)
  | .tables rows => .list (rowDocuments rows)

def listDocuments : List Tree → List Document
  | [] => []
  | t :: rest => t.toDocument :: listDocuments rest

def memberDocuments : List (String × Tree) → List (Option String × Document)
  | [] => []
  | m :: rest => memberDocument m :: memberDocuments rest

def memberDocument : String × Tree → Option String × Document
  | (k, t) => (some k, t.toDocument)

def rowDocuments : List (List (String × Tree)) → List Document
  | [] => []
  | row :: rest => .table (memberDocuments row) :: rowDocuments rest

end

theorem listMapped (items : List Tree) : listDocuments items = items.map Tree.toDocument := by
  induction items with
  | nil => rfl
  | cons t items ih => rw [listDocuments, ih, List.map_cons]

theorem membersMapped (members : List (String × Tree)) :
    memberDocuments members = members.map memberDocument := by
  induction members with
  | nil => rfl
  | cons m members ih => rw [memberDocuments, ih, List.map_cons]

theorem rowsMapped (rows : List (List (String × Tree))) :
    rowDocuments rows = rows.map fun row => .table (memberDocuments row) := by
  induction rows with
  | nil => rfl
  | cons row rows ih => rw [rowDocuments, ih, List.map_cons]

end ConnectionPool.Toml
