/-! Values that are sent to a database with a statement and come back in rows. -/
namespace ConnectionPool

inductive Value where
  | null
  | bool (b : Bool)
  | int (n : Int64)
  | float (x : Float)
  | text (s : String)
  deriving BEq, Repr

structure Rows where
  columns : List String
  rows : List (List Value)
  deriving BEq, Repr

namespace Rows

def empty : Rows := ⟨[], []⟩

def isEmpty (r : Rows) : Bool := r.rows.isEmpty

end Rows
end ConnectionPool
