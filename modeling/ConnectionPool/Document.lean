import ConnectionPool.Decimal.Text
import ConnectionPool.Text.Quoted

/-! Documents: trees of named and listed values, whichever format they are read from, and what can
be wrong with one when it is taken for a value of a certain shape. -/
namespace ConnectionPool

inductive Document where
  | null
  | bool (b : Bool)
  | integer (n : Int)
  | float (x : Float)
  | text (s : String)
  | moment (s : String)
  | list (items : List Document)
  | table (members : List (Option String × Document))
  | unreadable
  /-- The place where the text stops being well formed; nothing follows it. -/
  | broken

inductive Format where
  | json
  | toml
  deriving DecidableEq, Repr

inductive Found where
  | null
  | bool (b : Bool)
  | integer (n : Int)
  | float (x : Float)
  | text (s : String)
  | list
  | table
  | bareVariant
  deriving Repr

inductive DecodeError where
  | missingField (name : String)
  | duplicateField (name : String)
  | unknownField (name : String) (known : List String)
  | unknownVariant (name : String) (known : List String)
  | invalidType (found : Found) (expected : String)
  | invalidValue (found : Found) (expected : String)
  | invalidLength (length : Nat) (expected : String)
  | durationOverflow
  | malformed
  deriving Repr

abbrev Decoded (α : Type) := Except DecodeError α

def Found.words (format : Format) : Found → String
  | null => "null"
  | bool b => "boolean `" ++ toString b ++ "`"
  | integer n => "integer `" ++ toString n ++ "`"
  | float x => "floating point `" ++ Decimal.write (if format = .json then .compact else .plain) x ++ "`"
  | text s => "string " ++ Text.quoted s
  | list => "sequence"
  | table => "map"
  | bareVariant => "unit variant"

def alternatives (names : List String) : String :=
  let marked := names.map fun name => "`" ++ name ++ "`"
  match marked with
  | [a, b] => a ++ " or " ++ b
  | _ => "one of " ++ String.intercalate ", " marked

namespace DecodeError

def message (format : Format) : DecodeError → String
  | missingField name => "missing field `" ++ name ++ "`"
  | duplicateField name => "duplicate field `" ++ name ++ "`"
  | unknownField name known => "unknown field `" ++ name ++ "`, expected " ++ alternatives known
  | unknownVariant name known => "unknown variant `" ++ name ++ "`, expected " ++ alternatives known
  | invalidType found expected =>
    "invalid type: " ++ found.words format ++ ", expected " ++ expected
  | invalidValue found expected =>
    "invalid value: " ++ found.words format ++ ", expected " ++ expected
  | invalidLength length expected =>
    "invalid length " ++ toString length ++ ", expected " ++ expected
  | durationOverflow => "overflow deserializing Duration"
  | malformed => "<other>"

end DecodeError
end ConnectionPool
