import SqlCatalog.Store.Basic
import SqlCatalog.Dialect
/-!
# Log events

What a client logs about the statements that it runs.

The entries that end a call of the store (`failed`, `slow`, `done`) are written with
the time that the call took, in milliseconds. That field is a reading of the clock and
is left out here; which of the entries it leads to is decided by `Client.outcome`.
-/
namespace SqlCatalog

inductive Level
  | trace
  | debug
  | warn
  | error
deriving DecidableEq

def Level.name : Level → String
  | trace => "TRACE"
  | debug => "DEBUG"
  | warn => "WARN"
  | error => "ERROR"

/-- An entry of the log. -/
inductive Event
  /-- The statement did not compile or its arguments could not be bound. -/
  | rejected (statement : String) (cause : Failure)
  /-- The statement is handed to the store, with SQL cut for display. -/
  | executing (kind : CallKind) (statement : String) (dialect : Dialect) (params : Nat)
      (sql : String)
  | failed (statement : String) (cause : Failure)
  | slow (statement : String)
  | done (statement : String)
  /-- A check of the catalog found this statement. -/
  | malformed (statement : String) (cause : Failure)
deriving DecidableEq

namespace Event

def level : Event → Level
  | rejected .. | failed .. | slow .. => .warn
  | executing .. => .debug
  | done .. => .trace
  | malformed .. => .error

def message : Event → String
  | rejected .. => "catalog statement rejected"
  | executing .. => "executing catalog statement"
  | failed .. => "catalog statement failed"
  | slow .. => "slow catalog statement"
  | done .. => "catalog statement done"
  | malformed .. => "malformed catalog statement"

end Event

end SqlCatalog
