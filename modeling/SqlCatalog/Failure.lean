/-!
# Failures

Why compiling, binding or running a statement failed, with the wording of each
in `Failure.message`; `Failure.report` adds what lies behind a failure of the
embedded database. `Failure.fromStore` tells the failures of a store from those
raised before the store is reached.
-/
namespace SqlCatalog

/-- The result code with which the engine of the embedded database rejects a
statement. -/
inductive ResultCode
  | error
  | notADatabase
deriving DecidableEq

def ResultCode.message : ResultCode → String
  | error => "Error code 1: SQL error or missing database"
  | notADatabase => "Error code 26: File opened that is not a database file"

/-- A cause of failure. -/
inductive Failure
  /-- A `:` inside a parameter name, at this character. -/
  | malformedTemplate (index : Nat)
  /-- A flat argument list of this odd length. -/
  | oddArgumentCount (count : Nat)
  /-- No such statement in the catalog. -/
  | unknownStatement (id : String)
  /-- A database server rejected the statement. -/
  | query (detail : String)
  /-- The embedded database rejected the statement. There is no code if its
engine was not asked. -/
  | sqlite (detail : String) (code : Option ResultCode)
  /-- Any other store rejected the statement. -/
  | store (detail : String)
  | connection (detail : String)
  | pool (detail : String)
  /-- A catalog file could not be read or understood. -/
  | config (detail : String)
deriving DecidableEq, Inhabited

namespace Failure

def message : Failure → String
  | malformedTemplate index => s!"unexpected `:` while reading named parameter at {index}"
  | oddArgumentCount count => s!"odd number of arguments: {count} (expected key/value pairs)"
  | unknownStatement id => s!"unknown statement: {id}"
  | query detail => s!"Query error: {detail}"
  | sqlite detail _ => s!"SQLite error: {detail}"
  | store detail => s!"Store error: {detail}"
  | connection detail => s!"Connection error: {detail}"
  | pool detail => s!"Pool error: {detail}"
  | config detail => s!"Config error: {detail}"

/-- What lies behind a failure, from the outside in. -/
def causes : Failure → List String
  | sqlite detail code => detail :: (code.map ResultCode.message).toList
  | _ => []

/-- The message of a failure and of all that lies behind it. -/
def report (e : Failure) : String := ": ".intercalate (e.message :: e.causes)

/-- Did the store itself reject the statement? -/
def fromStore : Failure → Bool
  | query _ | sqlite .. | store _ => true
  | _ => false

def isMalformedTemplate : Failure → Bool
  | malformedTemplate _ => true
  | _ => false

def isUnknownStatement : Failure → Bool
  | unknownStatement _ => true
  | _ => false

end Failure

end SqlCatalog
