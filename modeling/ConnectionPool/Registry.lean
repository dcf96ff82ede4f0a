import ConnectionPool.Error

/-! Registered drivers, looked up by name. A later registration replaces an earlier one of the same
name. -/
namespace ConnectionPool

structure Registry (α : Type) where
  entries : List (String × α)
  deriving Repr

namespace Registry

variable {α : Type}

def empty : Registry α := ⟨[]⟩

def register (r : Registry α) (name : String) (driver : α) : Registry α :=
  ⟨(name, driver) :: r.entries.filter (·.1 != name)⟩

def get? (r : Registry α) (name : String) : Option α := r.entries.lookup name

def require (r : Registry α) (name : String) : Except Error α :=
  match r.get? name with
  | some driver => .ok driver
  | none => .error (.unknownDriver name)

def names (r : Registry α) : List String := (r.entries.map (·.1)).mergeSort (· ≤ ·)

end Registry
end ConnectionPool
