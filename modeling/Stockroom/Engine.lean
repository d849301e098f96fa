import Stockroom.Json

/-!
# Connections to a database

A file database shares its connection between threads. Any other one has a pool of connections,
which are checked before use and replaced once they are old.
-/

namespace Stockroom

open Text

/-- How connections are kept. Times are in the unit that their names end in. -/
structure Pool where
  size : Nat := 10
  overflow : Nat := 20
  checkFirst : Bool := true
  recycleSeconds : Nat := 3600
  connectSeconds : Nat := 10
  statementMillis : Nat := 30000
  deriving DecidableEq

inductive Engine where
  | sharedFile
  | pooled (pool : Pool)
  deriving DecidableEq

namespace Engine

/-- The scheme of the address decides. -/
def ofUrl (url : Points) : Engine :=
  if (points "sqlite").isPrefixOf url then .sharedFile else .pooled {}

def options : Engine → Json
  | .sharedFile => .fields [("connect_args", .fields [("check_same_thread", .bool false)])]
  | .pooled pool =>
    .fields
      [("pool_size", .integer pool.size), ("max_overflow", .integer pool.overflow),
        ("pool_pre_ping", .bool pool.checkFirst), ("pool_recycle", .integer pool.recycleSeconds),
        ("connect_args", .fields
          [("connect_timeout", .integer pool.connectSeconds),
            ("options", .text ("-c statement_timeout=" ++ toString pool.statementMillis))])]

end Engine

end Stockroom
