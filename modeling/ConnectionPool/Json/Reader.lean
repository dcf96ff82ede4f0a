import ConnectionPool.Json.Token

/-! From tokens to documents. The reader keeps the containers that are still open; where the tokens
stop fitting, each of them is closed with `broken` as its last part, so that what stands before
that place can still be examined in order. -/
namespace ConnectionPool.Json

inductive Frame where
  | list (items : List Document)
  | table (members : List (Option String × Document))
  | member (members : List (Option String × Document)) (name : Option String)

inductive Next where
  | value
  | valueOrEnd
  | name
  | nameOrEnd
  | colon
  | separator
  deriving DecidableEq, Repr

structure Reading where
  root : Document
  complete : Bool

def named (name : Option String) (d : Document) : Option String × Document :=
  if name.isSome then (name, d) else (none, .unreadable)

def Frame.breakAfter (part : Document) : Frame → Document
  | list items => .list ((.broken :: part :: items).reverse)
  | table members => .table (((none, .broken) :: (none, part) :: members).reverse)
  | member members name => .table (((none, .broken) :: named name part :: members).reverse)

def abandon (frames : List Frame) : Document := frames.foldl Frame.breakAfter .broken

def textValue : Option String → Document
  | some s => .text s
  | none => .unreadable

def settle (d : Document) : List Frame → List Frame
  | [] => []
  | .list items :: frames => .list (d :: items) :: frames
  | .table members :: frames => .table ((none, d) :: members) :: frames
  | .member members name :: frames => .table (named name d :: members) :: frames

def build : List Token → Next → List Frame → Reading
  | [], _, frames => ⟨abandon frames, false⟩
  | t :: ts, next, frames =>
    let finish (d : Document) (outer : List Frame) : Reading :=
      match outer with
      | [] => ⟨d, ts.isEmpty⟩
      | _ => build ts .separator (settle d outer)
    match next, t, frames with
    | .value, .text s, _ | .valueOrEnd, .text s, _ => finish (textValue s) frames
    | .value, .scalar d, _ | .valueOrEnd, .scalar d, _ => finish d frames
    | .value, .openList, _ | .valueOrEnd, .openList, _ => build ts .valueOrEnd (.list [] :: frames)
    | .value, .openTable, _ | .valueOrEnd, .openTable, _ => build ts .nameOrEnd (.table [] :: frames)
    | .valueOrEnd, .closeList, .list items :: outer => finish (.list items.reverse) outer
    | .name, .text s, .table members :: outer
    | .nameOrEnd, .text s, .table members :: outer => build ts .colon (.member members s :: outer)
    | .nameOrEnd, .closeTable, .table members :: outer => finish (.table members.reverse) outer
    | .colon, .colon, _ => build ts .value frames
    | .separator, .comma, .list _ :: _ => build ts .value frames
    | .separator, .comma, .table _ :: _ => build ts .name frames
    | .separator, .closeList, .list items :: outer => finish (.list items.reverse) outer
    | .separator, .closeTable, .table members :: outer => finish (.table members.reverse) outer
    | _, _, _ => ⟨abandon frames, false⟩

def read (s : List Char) : Reading := build (tokens s) .value []

end ConnectionPool.Json
