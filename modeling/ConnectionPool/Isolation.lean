/-! Transaction isolation levels, and the three ways in which they are written. -/
namespace ConnectionPool

inductive Isolation where
  | readUncommitted
  | readCommitted
  | repeatableRead
  | serializable
  deriving DecidableEq, Repr

namespace Isolation

def all : List Isolation := [readUncommitted, readCommitted, repeatableRead, serializable]

def tag : Isolation → String
  | readUncommitted => "read_uncommitted"
  | readCommitted => "read_committed"
  | repeatableRead => "repeatable_read"
  | serializable => "serializable"

def sql : Isolation → String
  | readUncommitted => "READ UNCOMMITTED"
  | readCommitted => "READ COMMITTED"
  | repeatableRead => "REPEATABLE READ"
  | serializable => "SERIALIZABLE"

def debug : Isolation → String
  | readUncommitted => "ReadUncommitted"
  | readCommitted => "ReadCommitted"
  | repeatableRead => "RepeatableRead"
  | serializable => "Serializable"

def ofTag? (s : String) : Option Isolation := all.find? (·.tag == s)

end Isolation
end ConnectionPool
