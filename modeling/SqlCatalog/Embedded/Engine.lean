import SqlCatalog.Embedded.Cell
/-!
# Engines

An engine runs SQL on cells. What is around it hands it the parameters of a query as
cells, and reads rows of values out of its answer.
-/
namespace SqlCatalog.Embedded

/-- What a statement answers with: the names of its columns, and rows of cells. -/
structure Answer where
  columns : List String
  rows : List (List Cell)
deriving DecidableEq

/-- Read the rows of an answer. -/
def Answer.read (a : Answer) : Except Failure (List Row) := a.rows.mapM (Row.read a.columns)

/-- A database engine with states `σ`: runs a text with cells for its placeholders. -/
structure Engine (σ : Type) where
  run : String → List Cell → σ → Except Failure Answer × σ

/-- Run a query for its rows. -/
def Engine.query {σ : Type} (e : Engine σ) (sql : String) (params : List Value) (state : σ) :
    Except Failure (List Row) × σ :=
  let (answer, state) := e.run sql (params.map Cell.ofValue) state
  (answer.bind Answer.read, state)

end SqlCatalog.Embedded
