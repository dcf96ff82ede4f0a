import ConnectionPool.Toml.Writer

/-! Why a text is no TOML document: it does not follow the grammar, or parts of it exclude each
other. A conflict is told with the names as they are meant, so the text of one may have several
lines. -/
namespace ConnectionPool.Toml

inductive Conflict where
  | repeated (name : String) (table : Option (List String))
  | reopened (path : List String) (name : String)
  | throughValue (path : List String) (kind : String)
  deriving DecidableEq, Repr

namespace Conflict

def dots (path : List String) : String := String.intercalate "." path

def place (path : List String) : String :=
  if path.isEmpty then "document root" else "table `" ++ dots path ++ "`"

def message : Conflict → String
  | repeated name none => "duplicate key `" ++ name ++ "`"
  | repeated name (some table) => "duplicate key `" ++ name ++ "` in " ++ place table
  | reopened path name =>
    "duplicate key `" ++ String.ofList (writeKey name) ++ "` in " ++ place path
  | throughValue path kind =>
    "dotted key `" ++ dots path ++ "` attempted to extend non-table type (" ++ kind ++ ")"

end Conflict

inductive Failure where
  | malformed
  | conflict (c : Conflict)
  deriving DecidableEq, Repr

def Failure.message : Failure → String
  | malformed => "<other>"
  | conflict c => c.message

end ConnectionPool.Toml
