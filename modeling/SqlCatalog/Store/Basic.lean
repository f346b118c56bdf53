import SqlCatalog.Store.Cursor
import SqlCatalog.Value.Basic
/-!
# Stores

A store runs SQL whose placeholders are filled by position. It is given by its
answers as functions of its state `σ`; `ρ` is the type of its rows.

A query answers with all its results at once, as a `Cursor`, and takes its whole
effect on the state then; reading the cursor later does not involve the store. So a
store that goes on working while its rows are read is represented by what it would
have answered.
-/
namespace SqlCatalog

/-- What a statement is run for. -/
inductive CallKind
  | query
  | execute
deriving DecidableEq

def CallKind.name : CallKind → String
  | query => "query"
  | execute => "execute"

/-- A database that runs compiled statements. -/
structure Store (σ ρ : Type) where
  /-- The name of the driver, which settles the dialect. -/
  driver : String
  /-- Run a statement for its rows. -/
  query : String → List Value → σ → Except Failure (Cursor ρ) × σ
  /-- Run a statement for the number of rows that it affects. -/
  execute : String → List Value → σ → Except Failure Nat × σ

end SqlCatalog
