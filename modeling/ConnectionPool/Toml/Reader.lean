import ConnectionPool.Toml.Moment
import ConnectionPool.Toml.Number
import ConnectionPool.Toml.Tree

/-! From text to TOML trees. Lists and tables in braces nest less than eighty deep, and a dotted key
has fewer than eighty parts. A repeated part is read at most once for each character at hand. What
is wrong first in the order of the text is what is reported. -/
namespace ConnectionPool.Toml

abbrev Reader (α : Type) := List Char → Except Failure (α × List Char)

def present {α : Type} : Option α → Except Failure α
  | some a => .ok a
  | none => .error .malformed

def nesting : Nat := 80

def bareKey (c : Char) : Bool := c.isAlphanum || c = '-' || c = '_'

def name? : Reader (Option String)
  | '"' :: s => (present (basic? s)).map fun (cs, rest) => (some (String.ofList cs), rest)
  | '\'' :: s => (present (literal? s)).map fun (cs, rest) => (some (String.ofList cs), rest)
  | s =>
    let cs := s.takeWhile bareKey
    .ok (if cs.isEmpty then none else some (String.ofList cs), s.dropWhile bareKey)

def names : Nat → Reader (List String)
  | 0, s => .ok ([], s)
  | bound + 1, s => do
    match ← name? (skipBlanks s) with
    | (none, _) => .ok ([], s)
    | (some name, s) =>
      match skipBlanks s with
      | '.' :: s => do
        let (more, rest) ← names bound s
        .ok (name :: more, if more.isEmpty then '.' :: s else rest)
      | s => .ok ([name], s)

def key? (s : List Char) : Except Failure (Option ((List String × String) × List Char)) := do
  let (found, rest) ← names s.length s
  if nesting ≤ found.length then .ok none
  else .ok (found.getLast?.map fun last => ((found.dropLast, last), rest))

def key (s : List Char) : Except Failure ((List String × String) × List Char) := key? s >>= present

def skipFiller : Nat → List Char → List Char
  | 0, s => s
  | bound + 1, s =>
    match skipBreaks s with
    | '#' :: t =>
      match newline? (skipComment ('#' :: t)) with
      | some rest => skipFiller bound rest
      | none => '#' :: t
    | s => s

def filler (s : List Char) : List Char := skipFiller s.length s

def items (value : Reader Tree) : Nat → Reader (List Tree)
  | 0, _ => .error .malformed
  | bound + 1, s =>
    match filler s with
    | ']' :: rest => .ok ([], rest)
    | s => do
      let (v, s) ← value s
      match filler s with
      | ']' :: rest => .ok ([v], rest)
      | ',' :: s => do
        let (vs, rest) ← items value bound s
        .ok (v :: vs, rest)
      | _ => .error .malformed

def member (value : Reader Tree) : Reader Tree
  | '=' :: s => (value (skipBlanks s)).map fun (v, s) => (v, skipBlanks s)
  | _ => .error .malformed

def members (value : Reader Tree) : Nat → Reader (List (List String × String × Tree))
  | 0, s => .ok ([], s)
  | bound + 1, s => do
    match ← key? s with
    | none => .ok ([], s)
    | some ((path, name), s) =>
      match ← member value s with
      | (v, ',' :: s) => do
        let (more, rest) ← members value bound s
        .ok ((path, name, v) :: more, if more.isEmpty then ',' :: s else rest)
      | (v, s) => .ok ([(path, name, v)], s)

def inline (found : List (List String × String × Tree)) : Except Failure Tree :=
  let step (t : Table) (m : List String × String × Tree) : Except Conflict Table :=
    Table.assign .braces m.1 m.2.1 m.2.2 t
  match found.foldlM step Table.root with
  | .ok t => .ok (.inline t.members)
  | .error c => .error (.conflict c)

def scalar? : List Char → Option (Tree × List Char)
  | 't' :: 'r' :: 'u' :: 'e' :: s => some (.bool true, s)
  | 'f' :: 'a' :: 'l' :: 's' :: 'e' :: s => some (.bool false, s)
  | s =>
    match quoted? s with
    | some (cs, rest) => some (.text (String.ofList cs), rest)
    | none =>
      if datedHere s || timedHere s then
        (moment? s).map fun (cs, rest) => (.moment (String.ofList cs), rest)
      else
        match number? s with
        | some (.integer n, rest) => some (.integer n, rest)
        | some (.double x, rest) => some (.float x, rest)
        | none => none

/-- A value, at a depth counted down to the deepest one, where it holds no others. A conflict between
the members of braces is found before the closing one is looked for. -/
def value : Nat → Reader Tree
  | 0, s => present (scalar? s)
  | depth + 1, s =>
    match s with
    | '[' :: s => (items (value depth) (s.length + 1) s).map fun (vs, rest) => (.list vs, rest)
    | '\x7b' :: s => do
      let (found, s) ← members (value depth) s.length s
      let t ← inline found
      match skipBlanks s with
      | '\x7d' :: rest => .ok (t, rest)
      | _ => .error .malformed
    | s => present (scalar? s)

def header (brackets : List Char) (s : List Char) :
    Except Failure ((List String × String) × List Char) := do
  let (found, s) ← key s
  let s ← present (Json.word? brackets s)
  let s ← present (lineEnd? s)
  .ok (found, s)

def statement : Reader Statement
  | '[' :: '[' :: s =>
    (header [']', ']'] s).map fun ((path, name), s) => (.extend path name, s)
  | '[' :: s => (header [']'] s).map fun ((path, name), s) => (.define path name, s)
  | s => do
    let ((path, name), s) ← key s
    let (v, s) ← member (value (nesting - 1)) s
    let s ← present (lineEnd? s)
    .ok (.assign path name v, s)

def statements : Nat → List Char → List Statement × Option Failure
  | 0, _ => ([], some .malformed)
  | bound + 1, s =>
    match skipBlanks s with
    | [] => ([], none)
    | c :: s =>
      if c = '\n' ∨ c = '\r' ∨ c = '#' then
        match lineEnd? (c :: s) with
        | some rest => statements bound rest
        | none => ([], some .malformed)
      else
        match statement (c :: s) with
        | .ok (first, rest) =>
          let (later, stop) := statements bound rest
          (first :: later, stop)
        | .error failure => ([], some failure)

def dropMark : List Char → List Char
  | '\ufeff' :: s => s
  | s => s

/-- Reads a text. A conflict between statements comes before whatever stops them. -/
def read (s : List Char) : Except Failure Document :=
  let s := dropMark s
  let (found, stop) := statements (s.length + 1) s
  match build found, stop with
  | .error c, _ => .error (.conflict c)
  | .ok _, some failure => .error failure
  | .ok table, none => .ok (.table (memberDocuments table.members))

end ConnectionPool.Toml
