import SqlCatalog.Arguments
import SqlCatalog.Cache
import SqlCatalog.Catalog.Basic
import SqlCatalog.Client.Event
import SqlCatalog.Client.Settings
/-!
# Clients

A client runs the statements of a catalog against a store: it compiles a
statement for its dialect, orders the arguments by placeholder and hands both to
the store. What changes from call to call is in a `Session`.

Every compilation makes a new object; its serial number tells objects apart, so
that a statement out of the cache is seen to be the object that was put in. A
client whose settings leave no room for statements has no cache.
-/
namespace SqlCatalog

/-- A compiled statement as an object of its own. -/
structure Prepared where
  serial : Nat
  compiled : Compiled
deriving DecidableEq, Inhabited

/-- A store with a catalog and settings. -/
structure Client (σ ρ : Type) where
  store : Store σ ρ
  catalog : Catalog
  settings : Settings

/-- The state of a client: its cache, the number of objects compiled so far, and
the state of its store. -/
structure Session (σ : Type) where
  cache : Option (Cache Prepared)
  compilations : Nat
  state : σ

namespace Session

variable {σ : Type}

/-- Look a statement up in the cache and use it. -/
def lookUp (s : Session σ) (id : String) : Option Prepared × Session σ :=
  match s.cache with
  | some cache =>
    let (hit, cache) := cache.get id
    (hit, { s with cache := some cache })
  | none => (none, s)

/-- Put a new object in the cache; answers the one to use. -/
def keep (s : Session σ) (id : String) (p : Prepared) : Prepared × Session σ :=
  match s.cache with
  | some cache =>
    let (kept, cache) := cache.insertIfAbsent id p
    (kept, { s with cache := some cache })
  | none => (p, s)

end Session

namespace Client

variable {σ ρ : Type}

/-- The dialect, fixed by the settings or else by the driver. -/
def dialect (c : Client σ ρ) : Dialect :=
  c.settings.dialect.getD (Dialect.ofDriver c.store.driver)

/-- A new session over a state of the store. -/
def start (c : Client σ ρ) (state : σ) : Session σ :=
  let n := c.settings.cacheCapacity
  ⟨if 0 < n then some (Cache.new n) else none, 0, state⟩

/-- Compile a statement, or take it from the cache. -/
def prepare (c : Client σ ρ) (id : String) (s : Session σ) :
    Except Failure Prepared × Session σ :=
  match s.lookUp id with
  | (some hit, s) => (.ok hit, s)
  | (none, s) =>
    match c.catalog.compile id c.dialect with
    | .error e => (.error e, s)
    | .ok compiled =>
      let (kept, s) := s.keep id ⟨s.compilations, compiled⟩
      (.ok kept, { s with compilations := s.compilations + 1 })

/-- Compile a statement and order its arguments. -/
def bindCall (c : Client σ ρ) (id : String) (args : List Value) (s : Session σ) :
    Except Failure (Prepared × List Value) × Session σ :=
  match c.prepare id s with
  | (.error e, s) => (.error e, s)
  | (.ok p, s) =>
    match Arguments.bind args with
    | .error e => (.error e, s)
    | .ok bound => (.ok (p, Arguments.project p.compiled.names bound), s)

/-! ## Logging -/

/-- SQL as it is logged: what is longer than the limit is cut, with `...` behind it. -/
def displaySql (limit : Option Nat) (sql : String) : String :=
  match limit with
  | some max => if max < sql.utf8ByteSize then Text.truncate max sql ++ "..." else sql
  | none => sql

/-- The events of a step, unless logging is off. -/
def log (c : Client σ ρ) (events : List Event) : List Event :=
  if c.settings.logging then events else []

/-- The event that ends a call of the store. -/
def outcome (c : Client σ ρ) (id : String) (elapsed : Nat) : Option Failure → Event
  | some e => .failed id e
  | none =>
    match c.settings.slowThreshold with
    | some threshold => if threshold ≤ elapsed then .slow id else .done id
    | none => .done id

/-! ## Running statements -/

/-- The failure of a result. -/
def failure? {α : Type} : Except Failure α → Option Failure
  | .error e => some e
  | .ok _ => none

/-- Prepare a statement, make one call of the store and log both. `elapsed` is
the time that the call takes, in milliseconds. -/
def run {α : Type} (c : Client σ ρ) (kind : CallKind)
    (call : String → List Value → σ → Except Failure α × σ) (elapsed : Nat) (id : String)
    (args : List Value) (s : Session σ) : Except Failure α × List Event × Session σ :=
  match c.bindCall id args s with
  | (.error e, s) => (.error e, c.log [.rejected id e], s)
  | (.ok (p, params), s) =>
    let (result, state) := call p.compiled.sql params s.state
    (result,
      c.log [.executing kind id c.dialect p.compiled.names.length
          (displaySql c.settings.maxSqlLength p.compiled.sql),
        c.outcome id elapsed (failure? result)],
      { s with state })

/-- Run a query for a cursor over its rows. -/
def query (c : Client σ ρ) : Nat → String → List Value → Session σ →
    Except Failure (Cursor ρ) × List Event × Session σ :=
  c.run .query c.store.query

/-- Run a statement for the number of rows that it affects. -/
def execute (c : Client σ ρ) : Nat → String → List Value → Session σ →
    Except Failure Nat × List Event × Session σ :=
  c.run .execute c.store.execute

/-- Run a query for all its rows. -/
def fetchAll (c : Client σ ρ) (elapsed : Nat) (id : String) (args : List Value)
    (s : Session σ) : Except Failure (List ρ) × List Event × Session σ :=
  let (result, events, s) := c.query elapsed id args s
  (result.bind Cursor.collect, events, s)

/-- Run a query for its first row, if there is one. -/
def fetchFirst (c : Client σ ρ) (elapsed : Nat) (id : String) (args : List Value)
    (s : Session σ) : Except Failure (Option ρ) × List Event × Session σ :=
  let (result, events, s) := c.query elapsed id args s
  (result.bind Cursor.first, events, s)

/-- Compile every statement of the catalog. -/
def validate (c : Client σ ρ) : Except Failure Unit × List Event :=
  match c.catalog.validate c.dialect with
  | .ok () => (.ok (), [])
  | .error (id, e) => (.error e, c.log [.malformed id e])

/-- Forget every compiled statement. -/
def clearCache (s : Session σ) : Session σ := { s with cache := s.cache.map Cache.clear }

end Client

end SqlCatalog
