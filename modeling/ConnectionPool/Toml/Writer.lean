import ConnectionPool.Document

/-! From documents to TOML text: one member a line, then the tables under headers of their own. A text
is written in the plainest quotes that need no escapes, over several lines if it has any line feed. -/
namespace ConnectionPool.Toml

inductive Quoting where
  | basic
  | literal
  | basicLines
  | literalLines
  deriving DecidableEq, Repr

def isControl (c : Char) : Bool := (c.toNat < 0x20 && c ≠ '\t' && c ≠ '\n') || c.toNat = 0x7f

def longestRun (q : Char) : Nat → List Char → Nat
  | run, [] => run
  | run, c :: s => if c = q then longestRun q (run + 1) s else max run (longestRun q 0 s)

def quoting (s : List Char) : Quoting :=
  let plain := !s.any isControl
  let manyLines := s.contains '\n'
  let backslash := s.contains '\\'
  if plain && !backslash && !s.contains '"' && !manyLines then .basic
  else if plain && !s.contains '\x27' && !manyLines then .literal
  else if plain && !backslash && longestRun '"' 0 s ≤ 2 then .basicLines
  else if plain && longestRun '\x27' 0 s ≤ 2 then .literalLines
  else if manyLines then .basicLines
  else .basic

def keyQuoting (s : List Char) : Quoting :=
  let plain := !s.any isControl && !s.contains '\n'
  if plain && !s.contains '\\' && !s.contains '"' then .basic
  else if plain && !s.contains '\x27' then .literal
  else .basic

def fourHex (n : Nat) : List Char :=
  let digits := (Nat.toDigits 16 n).map Char.toUpper
  List.replicate (4 - digits.length) '0' ++ digits

def escapeBasic (quotes : Nat) (manyLines : Bool) : Nat → List Char → List Char
  | _, [] => []
  | run, c :: s =>
    if c = '"' then
      if run < quotes then '"' :: escapeBasic quotes manyLines (run + 1) s
      else '\\' :: '"' :: escapeBasic quotes manyLines 0 s
    else
      let shown :=
        if c = '\x08' then ['\\', 'b']
        else if c = '\t' then ['\\', 't']
        else if c = '\n' then (if manyLines then ['\n'] else ['\\', 'n'])
        else if c = '\x0c' then ['\\', 'f']
        else if c = '\r' then ['\\', 'r']
        else if c = '\\' then ['\\', '\\']
        else if isControl c then '\\' :: 'u' :: fourHex c.toNat
        else [c]
      shown ++ escapeBasic quotes manyLines 0 s

def quote (style : Quoting) (s : List Char) : List Char :=
  let opening := if s.contains '\n' then ['\n'] else []
  match style with
  | .basic => '"' :: escapeBasic 0 false 0 s ++ ['"']
  | .literal => '\x27' :: s ++ ['\x27']
  | .basicLines => ['"', '"', '"'] ++ opening ++ escapeBasic 2 true 0 s ++ ['"', '"', '"']
  | .literalLines => ['\x27', '\x27', '\x27'] ++ opening ++ s ++ ['\x27', '\x27', '\x27']

def writeText (s : String) : List Char := quote (quoting s.toList) s.toList

def writeKey (s : String) : List Char :=
  let cs := s.toList
  if !cs.isEmpty && cs.all (fun c => c.isAlphanum || c = '-' || c = '_') then cs
  else quote (keyQuoting cs) cs

def writeValue : Document → Option (List Char)
  | .text s => some (writeText s)
  | .bool b => some (toString b).toList
  | .integer n => if n < 0x8000000000000000 then some (toString n).toList else none
  | _ => none

def writeLines : List (Option String × Document) → Option (List Char)
  | [] => some []
  | (_, .table _) :: rest => writeLines rest
  | (name, d) :: rest => do
    let value ← writeValue d
    let lines ← writeLines rest
    some (writeKey (name.getD "") ++ [' ', '=', ' '] ++ value ++ '\n' :: lines)

def writeTables : List (Option String × Document) → Option (List Char)
  | [] => some []
  | (name, .table members) :: rest => do
    let lines ← writeLines members
    let later ← writeTables rest
    some (['\n', '['] ++ writeKey (name.getD "") ++ [']', '\n'] ++ lines ++ later)
  | _ :: rest => writeTables rest

def write? : Document → Option (List Char)
  | .table members => do
    let lines ← writeLines members
    let tables ← writeTables members
    some (lines ++ tables)
  | _ => none

end ConnectionPool.Toml
