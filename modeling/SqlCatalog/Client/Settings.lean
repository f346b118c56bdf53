import SqlCatalog.Dialect
/-!
# Settings of a client
-/
namespace SqlCatalog

/-- How a client works. -/
structure Settings where
  /-- The dialect; otherwise the driver of the store settles it. -/
  dialect : Option Dialect
  /-- How many compiled statements are kept; with 0 none are. -/
  cacheCapacity : Nat
  /-- A statement that takes at least this many milliseconds is logged as slow. -/
  slowThreshold : Option Nat
  /-- Whether statements are logged. -/
  logging : Bool
  /-- At most this many bytes of SQL are logged. -/
  maxSqlLength : Option Nat
deriving DecidableEq

namespace Settings

def default : Settings where
  dialect := none
  cacheCapacity := 0
  slowThreshold := none
  logging := true
  maxSqlLength := some 200

/-- One change to settings. -/
inductive Change
  | dialect (d : Dialect)
  | cacheCapacity (n : Nat)
  | noCache
  | slowThreshold (milliseconds : Nat)
  | noLogging
  | maxSqlLength (n : Nat)
  | noTruncation

def apply (s : Settings) : Change → Settings
  | .dialect d => { s with dialect := some d }
  | .cacheCapacity n => { s with cacheCapacity := n }
  | .noCache => { s with cacheCapacity := 0 }
  | .slowThreshold t => { s with slowThreshold := some t }
  | .noLogging => { s with logging := false }
  | .maxSqlLength n => { s with maxSqlLength := some n }
  | .noTruncation => { s with maxSqlLength := none }

/-- The default settings after these changes. -/
def build (changes : List Change) : Settings := changes.foldl apply default

end Settings

end SqlCatalog
