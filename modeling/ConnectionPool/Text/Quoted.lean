import ConnectionPool.Text.Printable

/-! The diagnostic form of values: texts in quotes with escapes, optional values, maps and records. -/
namespace ConnectionPool.Text

def hex (n : Nat) : List Char := Nat.toDigits 16 n

def escape (c : Char) : List Char :=
  if c = '"' then ['\\', '"']
  else if c = '\\' then ['\\', '\\']
  else if c = '\n' then ['\\', 'n']
  else if c = '\r' then ['\\', 'r']
  else if c = '\t' then ['\\', 't']
  else if c.toNat = 0 then ['\\', '0']
  else if printable c then [c]
  else ['\\', 'u', '\x7b'] ++ hex c.toNat ++ ['\x7d']

def quoted (s : String) : String := String.ofList ('"' :: s.toList.flatMap escape ++ ['"'])

def optional (shown : Option String) : String :=
  match shown with
  | none => "None"
  | some s => "Some(" ++ s ++ ")"

def listing (entries : List (String × String)) : String :=
  String.intercalate ", " (entries.map fun (name, value) => name ++ ": " ++ value)

def record (name : String) (fields : List (String × String)) : String :=
  name ++ " \x7b " ++ listing fields ++ " \x7d"

def mapping (entries : List (String × String)) : String :=
  "\x7b" ++ listing (entries.map fun (k, v) => (quoted k, quoted v)) ++ "\x7d"

end ConnectionPool.Text
