import SqlCatalog.Failure
/-!
# Cursors

A cursor reads the results of a query forward, once. A result is a row or the
failure to read one; rows behind a failure still follow.

The results are settled when the query is answered: a cursor is the finite list of
those that are still to be read, and reading asks the store for nothing. A database
that makes its rows while they are read is covered where they come out as they would
have then; rows without end are not, nor rows that later statements change.
-/
namespace SqlCatalog

/-- The results of a query that are still to be read. -/
structure Cursor (ρ : Type) where
  pending : List (Except Failure ρ)

namespace Cursor

variable {ρ : Type}

/-- A cursor over rows at hand. -/
def ofRows (rows : List ρ) : Cursor ρ := ⟨rows.map .ok⟩

/-- The next result, or `none` at the end, and the cursor behind it. -/
def next (c : Cursor ρ) : Option (Except Failure ρ) × Cursor ρ :=
  match c.pending with
  | [] => (none, c)
  | r :: rest => (some r, ⟨rest⟩)

/-- All rows of a list of results, or its first failure. -/
def collectRows : List (Except Failure ρ) → Except Failure (List ρ)
  | [] => .ok []
  | .error e :: _ => .error e
  | .ok row :: rest => (collectRows rest).map (row :: ·)

/-- The rows that are still to be read, or the first failure among them. -/
def collect (c : Cursor ρ) : Except Failure (List ρ) := collectRows c.pending

/-- The next row, if there is one. -/
def first (c : Cursor ρ) : Except Failure (Option ρ) :=
  match c.next.1 with
  | none => .ok none
  | some (.ok row) => .ok (some row)
  | some (.error e) => .error e

end Cursor

end SqlCatalog
